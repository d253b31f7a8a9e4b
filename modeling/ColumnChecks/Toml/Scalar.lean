import ColumnChecks.Decimal.Reading
import ColumnChecks.Toml.Table

/-!
# Reading TOML: texts, numbers and moments

The readers here take the front of a text and give back what follows; they are
`none` where the text goes wrong.
-/

namespace ColumnChecks.Toml

/-! ### Characters -/

def isBlank (c : Char) : Bool := c == ' ' || c == '\t'

def dropBlanks (cs : List Char) : List Char := cs.dropWhile isBlank

/-- Whether a character may stand in a comment: anything but control characters,
of which only the tab may. -/
def isPrintable (c : Char) : Bool := c == '\t' || (0x20 ≤ c.toNat && c.toNat != 0x7F)

/-- Whether a character stands for itself between double quotes. -/
def isBasicChar (c : Char) : Bool := isPrintable c && c != '"' && c != '\\'

/-- Whether a character may stand between single quotes. -/
def isLiteralChar (c : Char) : Bool := isPrintable c && c != '\''

/-- What follows the end of a line. -/
def afterNewline? : List Char → Option (List Char)
  | '\n' :: rest => some rest
  | '\r' :: '\n' :: rest => some rest
  | _ => none

/-! ### Texts -/

/-- The character that a number of hexadecimal digits denotes. -/
def hexChar? (count : Nat) (cs : List Char) : Option (Char × List Char) :=
  let digits := cs.take count
  let isHex := fun (c : Char) => c.isDigit || ('a' ≤ c && c ≤ 'f') || ('A' ≤ c && c ≤ 'F')
  if digits.length = count ∧ digits.all isHex then
    let value := fun (c : Char) => if c.isDigit then c.toNat - 48 else c.toNat % 32 + 9
    let code := digits.foldl (fun n c => n * 16 + value c) 0
    if code.isValidChar then some (Char.ofNat code, cs.drop count) else none
  else none

/-- The character of an escape, behind its backslash. -/
def escape? : List Char → Option (Char × List Char)
  | 'b' :: rest => some ('\x08', rest)
  | 't' :: rest => some ('\t', rest)
  | 'n' :: rest => some ('\n', rest)
  | 'f' :: rest => some ('\x0c', rest)
  | 'r' :: rest => some ('\r', rest)
  | '"' :: rest => some ('"', rest)
  | '\\' :: rest => some ('\\', rest)
  | 'u' :: rest => hexChar? 4 rest
  | 'U' :: rest => hexChar? 8 rest
  | _ => none

/-- A text on one line behind its double quote. -/
def basicText? : Nat → List Char → Option (List Char × List Char)
  | 0, _ => none
  | fuel + 1, cs =>
    match cs with
    | '"' :: rest => some ([], rest)
    | '\\' :: rest => do
      let (c, rest) ← escape? rest
      let (more, rest) ← basicText? fuel rest
      some (c :: more, rest)
    | c :: rest => do
      if !isBasicChar c then none
      else
        let (more, rest) ← basicText? fuel rest
        some (c :: more, rest)
    | [] => none

/-- A text on one line behind its single quote. -/
def literalText? (cs : List Char) : Option (List Char × List Char) :=
  match cs.dropWhile isLiteralChar with
  | '\'' :: rest => some (cs.takeWhile isLiteralChar, rest)
  | _ => none

/-- What follows blanks and line ends. -/
def dropLines : List Char → List Char
  | [] => []
  | c :: rest =>
    if isBlank c || c == '\n' || (c == '\r' && rest.head? == some '\n') then dropLines rest
    else c :: rest

/-- The quotes at the front of a text: up to two of them belong to the text, and
three in a row close it. -/
def closing? (quote : Char) (cs : List Char) : Option (List Char × Bool × List Char) :=
  match (cs.takeWhile (· == quote)).length with
  | 0 => none
  | 1 => some ([quote], false, cs.drop 1)
  | 2 => some ([quote, quote], false, cs.drop 2)
  | 3 => some ([], true, cs.drop 3)
  | 4 => some ([quote], true, cs.drop 4)
  | _ => some ([quote, quote], true, cs.drop 5)

/-- A text on several lines. A backslash at the end of a line takes away the end
of the line and what is blank behind it. -/
def linesText? (quote : Char) : Nat → List Char → Option (List Char × List Char)
  | 0, _ => none
  | fuel + 1, cs =>
    match closing? quote cs with
    | some (quotes, true, rest) => some (quotes, rest)
    | some (quotes, false, rest) => do
      let (more, rest) ← linesText? quote fuel rest
      some (quotes ++ more, rest)
    | none =>
      match afterNewline? cs, cs with
      | some rest, _ => do
        let (more, rest) ← linesText? quote fuel rest
        some ('\n' :: more, rest)
      | none, '\\' :: rest =>
        if quote = '\'' then do
          let (more, rest) ← linesText? quote fuel rest
          some ('\\' :: more, rest)
        else
          match afterNewline? (dropBlanks rest) with
          | some rest => linesText? quote fuel (dropLines rest)
          | none => do
            let (c, rest) ← escape? rest
            let (more, rest) ← linesText? quote fuel rest
            some (c :: more, rest)
      | none, c :: rest => do
        if !isPrintable c then none
        else
          let (more, rest) ← linesText? quote fuel rest
          some (c :: more, rest)
      | none, [] => none

/-- A text on several lines behind its opening quotes; a line end right there does
not count. -/
def openLines? (quote : Char) (cs : List Char) : Option (List Char × List Char) :=
  linesText? quote (cs.length + 1) ((afterNewline? cs).getD cs)

/-- A text in any of the four forms. -/
def text? : List Char → Option (List Char × List Char)
  | '"' :: '"' :: '"' :: rest => openLines? '"' rest
  | '\'' :: '\'' :: '\'' :: rest => openLines? '\'' rest
  | '"' :: rest => basicText? (rest.length + 1) rest
  | '\'' :: rest => literalText? rest
  | _ => none

/-! ### Numbers -/

/-- Digits behind a first one, with single underscores between them. -/
def moreDigits (isDigit : Char → Bool) : List Char → List Char × List Char
  | [] => ([], [])
  | '_' :: c :: rest =>
    if isDigit c then
      let (more, rest) := moreDigits isDigit rest
      (c :: more, rest)
    else ([], '_' :: c :: rest)
  | c :: rest =>
    if isDigit c then
      let (more, rest) := moreDigits isDigit rest
      (c :: more, rest)
    else ([], c :: rest)

/-- Some digits, at least one, with single underscores between them. -/
def digits? (isDigit : Char → Bool) : List Char → Option (List Char × List Char)
  | c :: rest =>
    if isDigit c then
      let (more, rest) := moreDigits isDigit rest
      some (c :: more, rest)
    else none
  | [] => none

/-- Whether there is a minus sign, and what follows the sign. -/
def sign : List Char → Bool × List Char
  | '-' :: rest => (true, rest)
  | '+' :: rest => (false, rest)
  | cs => (false, cs)

/-- The digits of an integer without its sign: a zero is alone. -/
def wholeDigits? : List Char → Option (List Char × List Char)
  | '0' :: rest => some (['0'], rest)
  | cs => digits? Char.isDigit cs

/-- An integer, which must fit 64 bits. -/
def bounded? (i : Int) (rest : List Char) : Option (Toml × List Char) :=
  if Int64.minValue.toInt ≤ i ∧ i ≤ Int64.maxValue.toInt then some (.integer i, rest) else none

/-- An integer in a base that is a power of two. -/
def basedInteger? (base : Nat) (isDigit : Char → Bool) (cs : List Char) :
    Option (Toml × List Char) := do
  let (digits, rest) ← digits? isDigit cs
  let value := fun (c : Char) => if c.isDigit then c.toNat - 48 else c.toNat % 32 + 9
  bounded? (digits.foldl (fun n c => n * base + value c) 0) rest

/-- An exponent behind its letter, if there is one. -/
def exponent? : List Char → Option (Int × List Char)
  | 'e' :: rest | 'E' :: rest => do
    let (minus, rest) := sign rest
    let (digits, rest) ← digits? Char.isDigit rest
    let power : Int := Decimal.natOfDigits digits
    some (if minus then -power else power, rest)
  | _ => none

/-- A decimal, which must not be greater than all doubles. -/
def decimalOf? (negative : Bool) (digits fraction : List Char) (exponent : Int)
    (rest : List Char) : Option (Toml × List Char) :=
  let value := Decimal.ofDigits negative (Decimal.natOfDigits (digits ++ fraction))
    (exponent - fraction.length)
  if value = Decimal.infinity false then none else some (.decimal value, rest)

/-- A number that starts with a decimal digit or a sign. -/
def decimalNumber? (cs : List Char) : Option (Toml × List Char) := do
  let (negative, rest) := sign cs
  match rest with
  | 'i' :: 'n' :: 'f' :: rest => some (.decimal (Decimal.infinity negative), rest)
  | 'n' :: 'a' :: 'n' :: rest => some (.decimal .nan, rest)
  | _ =>
    let (digits, rest) ← wholeDigits? rest
    match rest with
    | '.' :: more =>
      let (fraction, rest) ← digits? Char.isDigit more
      match exponent? rest with
      | some (exponent, rest) => decimalOf? negative digits fraction exponent rest
      | none => decimalOf? negative digits fraction 0 rest
    | _ =>
      match exponent? rest with
      | some (exponent, rest) => decimalOf? negative digits [] exponent rest
      | none =>
        let i : Int := Decimal.natOfDigits digits
        bounded? (if negative then -i else i) rest

/-- A number in any of its forms. -/
def number? : List Char → Option (Toml × List Char)
  | '0' :: 'x' :: rest =>
    basedInteger? 16 (fun c => c.isDigit || ('a' ≤ c && c ≤ 'f') || ('A' ≤ c && c ≤ 'F')) rest
  | '0' :: 'o' :: rest => basedInteger? 8 (fun c => '0' ≤ c && c ≤ '7') rest
  | '0' :: 'b' :: rest => basedInteger? 2 (fun c => c == '0' || c == '1') rest
  | cs => decimalNumber? cs

/-! ### Moments -/

/-- A number of exactly so many digits, between two bounds. -/
def field? (count low high : Nat) (cs : List Char) : Option (Nat × List Char) :=
  let digits := cs.take count
  let n := Decimal.natOfDigits digits
  if digits.length = count ∧ digits.all Char.isDigit ∧ low ≤ n ∧ n ≤ high then
    some (n, cs.drop count)
  else none

/-- What follows a certain character. -/
def after? (c : Char) : List Char → Option (List Char)
  | d :: rest => if c = d then some rest else none
  | [] => none

/-- The number of days in a month. -/
def daysInMonth (year month : Nat) : Nat :=
  if month = 2 then
    if year % 4 = 0 ∧ (year % 100 ≠ 0 ∨ year % 400 = 0) then 29 else 28
  else if month = 4 ∨ month = 6 ∨ month = 9 ∨ month = 11 then 30
  else 31

/-- What follows a date. -/
def afterDate? (cs : List Char) : Option (List Char) := do
  let (year, rest) ← field? 4 0 9999 cs
  let (month, rest) ← field? 2 1 12 (← after? '-' rest)
  let (_, rest) ← field? 2 1 (daysInMonth year month) (← after? '-' rest)
  some rest

/-- What follows a time of day. A minute may have a leap second. -/
def afterTime? (cs : List Char) : Option (List Char) := do
  let (_, rest) ← field? 2 0 23 cs
  let (_, rest) ← field? 2 0 59 (← after? ':' rest)
  let (_, rest) ← field? 2 0 60 (← after? ':' rest)
  match rest with
  | '.' :: more =>
    some (if (more.takeWhile Char.isDigit).isEmpty then rest else more.dropWhile Char.isDigit)
  | _ => some rest

/-- What follows an offset from the universal time. -/
def afterOffset? : List Char → Option (List Char)
  | 'Z' :: rest | 'z' :: rest => some rest
  | '+' :: rest | '-' :: rest => do
    let (_, rest) ← field? 2 0 23 rest
    let (_, rest) ← field? 2 0 59 (← after? ':' rest)
    some rest
  | _ => none

/-- What follows the time behind a date, if there is one. -/
def afterClock (cs : List Char) : List Char :=
  let clock? := match cs with
    | 'T' :: rest | 't' :: rest | ' ' :: rest => afterTime? rest
    | _ => none
  match clock? with
  | some rest => (afterOffset? rest).getD rest
  | none => cs

/-- What follows a date, a time or both. -/
def afterMoment? (cs : List Char) : Option (List Char) :=
  match afterDate? cs with
  | some rest => some (afterClock rest)
  | none => afterTime? cs

/-- A date, a time or both, as it is written. -/
def moment? (cs : List Char) : Option (Toml × List Char) := do
  let rest ← afterMoment? cs
  some (.moment (String.ofList (cs.take (cs.length - rest.length))), rest)

end ColumnChecks.Toml
