import ColumnChecks.Toml.Scalar

/-!
# Reading TOML documents

A document is read line by line. A line is blank, or a comment, or a header that
says which table the lines below are about, or gives a value to a key.

Arrays and inline tables may be nested less than eighty deep, and a key may have
less than eighty names.
-/

namespace ColumnChecks.Toml

/-- The number of names that a key cannot have, and of values that cannot be
nested. -/
def depthLimit : Nat := 80

/-! ### Keys -/

/-- Whether a character may stand in a name without quotes. -/
def isBareChar (c : Char) : Bool := c.isAlphanum || c == '-' || c == '_'

/-- One name of a key. -/
def name? (cs : List Char) : Option (String × List Char) :=
  match cs with
  | '"' :: rest => do
    let (name, rest) ← basicText? (rest.length + 1) rest
    some (String.ofList name, rest)
  | '\'' :: rest => do
    let (name, rest) ← literalText? rest
    some (String.ofList name, rest)
  | _ =>
    let name := cs.takeWhile isBareChar
    if name.isEmpty then none else some (String.ofList name, cs.dropWhile isBareChar)

/-- The names of a key, with points between them and blanks around each; the last
name is apart. -/
def key? : Nat → List Char → Option ((List String × String) × List Char)
  | 0, _ => none
  | fuel + 1, cs => do
    let (name, rest) ← name? (dropBlanks cs)
    match dropBlanks rest with
    | '.' :: rest =>
      let ((path, last), rest) ← key? fuel rest
      some ((name :: path, last), rest)
    | rest => some (([], name), rest)

/-- A key with fewer names than the limit. -/
def shortKey? (cs : List Char) : Option ((List String × String) × List Char) :=
  key? (depthLimit - 1) cs

/-! ### Values -/

/-- What follows blanks, comments and line ends. -/
def dropTrivia (inComment : Bool) : List Char → List Char
  | [] => []
  | c :: rest =>
    if c == '\n' then dropTrivia false rest
    else if c == '\r' && rest.head? == some '\n' then dropTrivia inComment rest
    else if inComment then (if isPrintable c then dropTrivia true rest else c :: rest)
    else if c == '#' then dropTrivia true rest
    else if isBlank c then dropTrivia false rest
    else c :: rest

mutual

/-- A value, with so many levels left. -/
def value? : Nat → Nat → List Char → Option (Toml × List Char)
  | 0, _, _ => none
  | fuel + 1, depth, cs =>
    match cs with
    | '"' :: _ | '\'' :: _ => do
      let (found, rest) ← text? cs
      some (.text (String.ofList found), rest)
    | 't' :: 'r' :: 'u' :: 'e' :: rest => some (.boolean true, rest)
    | 'f' :: 'a' :: 'l' :: 's' :: 'e' :: rest => some (.boolean false, rest)
    | '[' :: rest =>
      if depth = 0 then none
      else do
        let (items, rest) ← items? fuel (depth - 1) rest
        some (.array items, rest)
    | '\x7b' :: rest =>
      if depth = 0 then none
      else
        match dropBlanks rest with
        | '\x7d' :: rest => some (.table .inBraces [], rest)
        | rest => do
          let (members, rest) ← members? fuel (depth - 1) [] rest
          some (.table .inBraces members, rest)
    | cs => (moment? cs).or (number? cs)

/-- The items of an array and its closing bracket. -/
def items? : Nat → Nat → List Char → Option (List Toml × List Char)
  | 0, _, _ => none
  | fuel + 1, depth, cs =>
    match dropTrivia false cs with
    | ']' :: rest => some ([], rest)
    | cs => do
      let (item, rest) ← value? fuel depth cs
      match dropTrivia false rest with
      | ',' :: rest =>
        let (more, rest) ← items? fuel depth rest
        some (item :: more, rest)
      | ']' :: rest => some ([item], rest)
      | _ => none

/-- The members of an inline table behind those read so far, and its closing
brace. -/
def members? : Nat → Nat → Members → List Char → Option (Members × List Char)
  | 0, _, _, _ => none
  | fuel + 1, depth, sofar, cs => do
    let ((path, name), rest) ← shortKey? cs
    let rest ← after? '=' rest
    let (found, rest) ← value? fuel depth (dropBlanks rest)
    let members ← assign path name found .inBraces sofar
    match dropBlanks rest with
    | ',' :: rest => members? fuel depth members rest
    | '\x7d' :: rest => some (members, rest)
    | _ => none

end

/-! ### Lines -/

/-- What follows the rest of a line, where only blanks and a comment may stand. -/
def endLine? (cs : List Char) : Option (List Char) :=
  let rest := match dropBlanks cs with
    | '#' :: rest => rest.dropWhile isPrintable
    | rest => rest
  if rest.isEmpty then some [] else afterNewline? rest

/-- The names of a header behind its opening brackets, as a list and with the last
one apart. -/
def header? (closing : List Char) (cs : List Char) :
    Option ((List String × String) × List Char) := do
  let (key, rest) ← shortKey? cs
  let rest ← closing.foldlM (fun rest c => after? c rest) rest
  some (key, ← endLine? rest)

/-- Read lines. The header in force is a path; its table gets the keys. -/
def lines? : Nat → List String → Members → List Char → Option Members
  | 0, _, _, _ => none
  | fuel + 1, header, root, cs =>
    match dropBlanks cs with
    | [] => some root
    | '#' :: rest => do lines? fuel header root (← endLine? ('#' :: rest))
    | '\n' :: rest => lines? fuel header root rest
    | '\r' :: rest => do lines? fuel header root (← after? '\n' rest)
    | '[' :: '[' :: rest => do
      let ((path, name), rest) ← header? [']', ']'] rest
      lines? fuel (path ++ [name]) (← openNext path name root) rest
    | '[' :: rest => do
      let ((path, name), rest) ← header? [']'] rest
      lines? fuel (path ++ [name]) (← openTable path name root) rest
    | cs => do
      let ((path, name), rest) ← shortKey? cs
      let rest ← after? '=' rest
      let (found, rest) ← value? (2 * cs.length + 2) (depthLimit - 1) (dropBlanks rest)
      let root ← change false (assign path name found) header .header root
      lines? fuel header root (← endLine? rest)

/-- The members of the root table of a document. A byte order mark in front is
passed over. -/
def read? (text : String) : Option Members :=
  let cs := match text.toList with
    | '\uFEFF' :: rest => rest
    | cs => cs
  lines? (cs.length + 1) [] [] cs

end ColumnChecks.Toml
