import ColumnChecks.Decimal.Stepwise
import ColumnChecks.Json.Basic

/-!
# Reading JSON texts

A text is read into a `Draft`: the value as far as it can be read. Where the
text goes wrong the draft stops, and says how. What is done with the draft then
decides which error is met first. A reader that wants a text and finds a number
does not care for what is wrong further on; one that skips over a value does not
care whether its numbers are too large, and one that needs the whole value
does. `Draft.strict` and `Draft.skip` are the two ends of that scale.

Besides going wrong as a text, a value may be of the wrong shape for its reader;
such errors are the readers' own.
-/

namespace ColumnChecks

/-- What can be wrong with a JSON text. -/
inductive JsonError where
  /-- It is no JSON text. -/
  | malformed
  /-- It ends too early. -/
  | truncated
  /-- Its value is not of the shape that is wanted. -/
  | mismatch
  deriving DecidableEq, Repr

/-- What is wrong with a place of a JSON text, for a reader that needs what stands
there and for one that skips it. -/
structure Break where
  needed : JsonError
  skipped : JsonError
  deriving DecidableEq, Repr

/-- What is wrong for either reader. -/
def Break.both (e : JsonError) : Break := ⟨e, e⟩

/-- The text ends too early, for either reader. -/
def Break.truncated : Break := .both .truncated

/-- The text is no JSON text, for either reader. -/
def Break.malformed : Break := .both .malformed

/-- A JSON value as far as it can be read. -/
inductive Draft where
  | null
  | bool (value : Bool)
  /-- A number, unless it is beyond all doubles. -/
  | number (value : Option JsonNumber)
  /-- A text, unless it has half of a surrogate pair. -/
  | text (value : Option String)
  /-- Items, and what is wrong behind the last one. -/
  | array (items : List Draft) (ending : Option Break)
  /-- Members, and what is wrong behind the last one. -/
  | object (members : List (Option String × Draft)) (ending : Option Break)
  /-- Nothing that can be read. -/
  | broken (error : Break)
  deriving Repr, Inhabited

namespace Draft

/-- The depth of arrays and objects that a text may have. -/
def depthLimit : Nat := 127

def isSpace (c : Char) : Bool := c == ' ' || c == '\n' || c == '\t' || c == '\r'

def dropSpace (cs : List Char) : List Char := cs.dropWhile isSpace

/-- What is read, and what is left of the text if reading can go on. -/
abbrev Step := Draft × Option (List Char)

/-! ### Numbers -/

/-- The number that the parts of a numeral are read as: an integer without a point and an
exponent, if it is one of 64 bits, and else a double. -/
def numberOf (negative : Bool) (digits fraction : List Char) (exponent : Option Int) :
    Option JsonNumber :=
  let whole := Decimal.natOfDigits digits
  let decimal := Decimal.ofParts negative digits fraction (exponent.getD 0)
  if fraction.isEmpty && exponent.isNone && !(negative && whole == 0)
      && whole < (if negative then Nat.pow 2 63 + 1 else UInt64.size) then
    some (.whole (if negative then -(whole : Int) else whole))
  else if decimal.isFinite then some (.decimal decimal)
  else none

/-- A numeral that goes wrong: at the end of the text it is only too short, for
a reader that needs it. -/
def badNumber (cs : List Char) : Step :=
  (.broken ⟨if cs.isEmpty then .truncated else .malformed, .malformed⟩, none)

/-- The exponent of a numeral, behind its letter. -/
def exponentPart (negative : Bool) (digits fraction : List Char) (cs : List Char) : Step :=
  let (minus, cs) := match cs with
    | '+' :: rest => (false, rest)
    | '-' :: rest => (true, rest)
    | _ => (false, cs)
  let power := cs.takeWhile Char.isDigit
  if power.isEmpty then badNumber cs
  else
    let n := Decimal.natOfDigits power
    (.number (numberOf negative digits fraction (some (if minus then -(n : Int) else n))),
      some (cs.dropWhile Char.isDigit))

/-- What follows the digits of a numeral and its fraction. -/
def afterFraction (negative : Bool) (digits fraction : List Char) (cs : List Char) : Step :=
  match cs with
  | 'e' :: rest | 'E' :: rest => exponentPart negative digits fraction rest
  | _ => (.number (numberOf negative digits fraction none), some cs)

/-- A numeral, behind its sign. -/
def numeral (negative : Bool) (cs : List Char) : Step :=
  let digits := cs.takeWhile Char.isDigit
  let rest := cs.dropWhile Char.isDigit
  if digits.isEmpty then badNumber cs
  else if digits.head? = some '0' ∧ 1 < digits.length then (.broken .malformed, none)
  else
    match rest with
    | '.' :: rest =>
      let fraction := rest.takeWhile Char.isDigit
      if fraction.isEmpty then badNumber rest
      else afterFraction negative digits fraction (rest.dropWhile Char.isDigit)
    | _ => afterFraction negative digits [] rest

/-! ### Texts -/

/-- The number that four hexadecimal digits denote; without as many bytes left,
the text ends too early. -/
def fourHex (cs : List Char) : Except JsonError (Nat × List Char) :=
  if (String.ofList cs).utf8ByteSize < 4 then .error .truncated
  else
    let digits := cs.take 4
    let isHex := fun (c : Char) => c.isDigit || ('a' ≤ c && c ≤ 'f') || ('A' ≤ c && c ≤ 'F')
    if digits.length = 4 ∧ digits.all isHex then
      let value := fun (c : Char) => if c.isDigit then c.toNat - 48 else c.toNat % 32 + 9
      .ok (digits.foldl (fun n c => n * 16 + value c) 0, cs.drop 4)
    else .error .malformed

/-- The character that a simple escape stands for. -/
def simpleEscape? (c : Char) : Option Char :=
  if c = '"' then some '"'
  else if c = '\\' then some '\\'
  else if c = '/' then some '/'
  else if c = 'b' then some '\x08'
  else if c = 'f' then some '\x0c'
  else if c = 'n' then some '\n'
  else if c = 'r' then some '\r'
  else if c = 't' then some '\t'
  else none

/-- The character behind `\u`, with the second half of a surrogate pair. -/
def unicodeEscape (cs : List Char) : Except JsonError (Char × List Char) := do
  let (high, rest) ← fourHex cs
  if 0xDC00 ≤ high ∧ high ≤ 0xDFFF then .error .malformed
  else if high < 0xD800 ∨ 0xDFFF < high then .ok (Char.ofNat high, rest)
  else
    match rest with
    | [] | ['\\'] => .error .truncated
    | '\\' :: 'u' :: rest => do
      let (low, rest) ← fourHex rest
      if 0xDC00 ≤ low ∧ low ≤ 0xDFFF then
        .ok (Char.ofNat ((high - 0xD800) * 0x400 + (low - 0xDC00) + 0x10000), rest)
      else .error .malformed
    | _ => .error .malformed

/-- A text up to its closing quote, for a reader that needs it. -/
def textChars : Nat → List Char → Except JsonError (List Char)
  | 0, _ => .error .truncated
  | fuel + 1, cs =>
    match cs with
    | [] => .error .truncated
    | '"' :: _ => .ok []
    | ['\\'] => .error .truncated
    | '\\' :: 'u' :: rest => do
      let (c, rest) ← unicodeEscape rest
      .ok (c :: (← textChars fuel rest))
    | '\\' :: c :: rest =>
      match simpleEscape? c with
      | some c => do .ok (c :: (← textChars fuel rest))
      | none => .error .malformed
    | c :: rest =>
      if c.toNat < 0x20 then .error .malformed else do .ok (c :: (← textChars fuel rest))

/-- What follows the closing quote of a text, for a reader that skips it. -/
def skipText : Nat → List Char → Except JsonError (List Char)
  | 0, _ => .error .truncated
  | fuel + 1, cs =>
    match cs with
    | [] => .error .truncated
    | '"' :: rest => .ok rest
    | ['\\'] => .error .truncated
    | '\\' :: 'u' :: rest => do
      let (_, rest) ← fourHex rest
      skipText fuel rest
    | '\\' :: c :: rest =>
      if (simpleEscape? c).isSome then skipText fuel rest else .error .malformed
    | c :: rest => if c.toNat < 0x20 then .error .malformed else skipText fuel rest

/-- A text, behind its opening quote: the characters unless half of a surrogate
pair is among them, or the errors of both kinds of readers. -/
def readText (cs : List Char) :
    Except Break (Option String × List Char) :=
  let needed := textChars (cs.length + 1) cs
  match skipText (cs.length + 1) cs with
  | .ok rest => .ok (needed.toOption.map String.ofList, rest)
  | .error skipped =>
    match needed with
    | .error e => .error ⟨e, skipped⟩
    | .ok _ => .error (.both skipped)

/-! ### Words -/

/-- The rest of a word such as `null`, behind its first letter. -/
def word (value : Draft) : List Char → List Char → Step
  | [], cs => (value, some cs)
  | _ :: _, [] => (.broken .truncated, none)
  | w :: ws, c :: cs => if w = c then word value ws cs else (.broken .malformed, none)

/-! ### Values -/

/-- What is wrong where something else should stand, or the text just ends. -/
def breakAt (cs : List Char) : Break := if cs.isEmpty then .truncated else .malformed

/-- A value that cannot be read at all. -/
def nothing (cs : List Char) : Step := (.broken (breakAt cs), none)

mutual

/-- The value at the front of a text. -/
def value : Nat → List Char → Step
  | 0, _ => (.broken .truncated, none)
  | fuel + 1, cs =>
    match dropSpace cs with
    | 'n' :: rest => word .null ['u', 'l', 'l'] rest
    | 't' :: rest => word (.bool true) ['r', 'u', 'e'] rest
    | 'f' :: rest => word (.bool false) ['a', 'l', 's', 'e'] rest
    | '"' :: rest =>
      match readText rest with
      | .ok (found, rest) => (.text found, some rest)
      | .error e => (.broken e, none)
    | '[' :: rest =>
      let (read, ending, rest) := items fuel true rest
      (.array read ending, rest)
    | '\x7b' :: rest =>
      let (read, ending, rest) := members fuel true rest
      (.object read ending, rest)
    | '-' :: rest => numeral true rest
    | c :: rest => if c.isDigit then numeral false (c :: rest) else nothing (c :: rest)
    | [] => nothing []

/-- The items of an array and its closing bracket. -/
def items : Nat → Bool → List Char → List Draft × Option Break × Option (List Char)
  | 0, _, _ => ([], some .truncated, none)
  | fuel + 1, first, cs =>
    match first, dropSpace cs with
    | _, ']' :: rest => ([], none, some rest)
    | true, c :: rest => item fuel (c :: rest)
    | false, ',' :: rest =>
      match dropSpace rest with
      | ']' :: _ => ([], some .malformed, none)
      | start => item fuel start
    | _, rest => ([], some (breakAt rest), none)

/-- An item of an array, what follows it, and its closing bracket. -/
def item : Nat → List Char → List Draft × Option Break × Option (List Char)
  | 0, _ => ([], some .truncated, none)
  | fuel + 1, cs =>
    match value fuel cs with
    | (found, some rest) =>
      let (more, ending, rest) := items fuel false rest
      (found :: more, ending, rest)
    | (found, none) => ([found], none, none)

/-- The members of an object and its closing brace. -/
def members : Nat → Bool → List Char →
    List (Option String × Draft) × Option Break × Option (List Char)
  | 0, _, _ => ([], some .truncated, none)
  | fuel + 1, first, cs =>
    match first, dropSpace cs with
    | _, '\x7d' :: rest => ([], none, some rest)
    | true, '"' :: rest => member fuel rest
    | false, ',' :: rest =>
      match dropSpace rest with
      | '"' :: rest => member fuel rest
      | rest => ([], some (breakAt rest), none)
    | _, rest => ([], some (breakAt rest), none)

/-- A member of an object behind the opening quote of its name, what follows it,
and the closing brace. -/
def member : Nat → List Char →
    List (Option String × Draft) × Option Break × Option (List Char)
  | 0, _ => ([], some .truncated, none)
  | fuel + 1, cs =>
    match readText cs with
    | .error e => ([], some e, none)
    | .ok (name, rest) =>
      match dropSpace rest with
      | ':' :: rest =>
        match value fuel rest with
        | (found, some rest) =>
          let (more, ending, rest) := members fuel false rest
          ((name, found) :: more, ending, rest)
        | (found, none) => ([(name, found)], none, none)
      | rest => ([(name, (nothing rest).1)], none, none)

end

/-! ### Needing or skipping a whole value -/

mutual

/-- The first error for a reader that skips the value. -/
def skip : Draft → Except JsonError Unit
  | .array items ending => do
    skipItems items
    match ending with
    | some e => .error e.skipped
    | none => .ok ()
  | .object members ending => do
    skipMembers members
    match ending with
    | some e => .error e.skipped
    | none => .ok ()
  | .broken e => .error e.skipped
  | _ => .ok ()

def skipItems : List Draft → Except JsonError Unit
  | [] => .ok ()
  | item :: items => do
    item.skip
    skipItems items

def skipMembers : List (Option String × Draft) → Except JsonError Unit
  | [] => .ok ()
  | (_, value) :: members => do
    value.skip
    skipMembers members

end

mutual

/-- The value, for a reader that needs all of it, no more than so many levels
deep. -/
def strict (depth : Nat) : Draft → Except JsonError Json
  | .null => .ok .null
  | .bool b => .ok (.bool b)
  | .number (some n) => .ok (.number n)
  | .number none => .error .malformed
  | .text (some s) => .ok (.text s)
  | .text none => .error .malformed
  | .array items ending =>
    if depth = 0 then .error .malformed
    else do
      let items ← strictItems (depth - 1) items
      match ending with
      | some e => .error e.needed
      | none => .ok (.array items)
  | .object members ending =>
    if depth = 0 then .error .malformed
    else do
      let members ← strictMembers (depth - 1) members
      match ending with
      | some e => .error e.needed
      | none => .ok (.object members)
  | .broken e => .error e.needed

def strictItems (depth : Nat) : List Draft → Except JsonError (List Json)
  | [] => .ok []
  | item :: items => do
    let item ← item.strict depth
    .ok (item :: (← strictItems depth items))

def strictMembers (depth : Nat) :
    List (Option String × Draft) → Except JsonError (List (String × Json))
  | [] => .ok []
  | (some name, value) :: members => do
    let value ← value.strict depth
    .ok ((name, value) :: (← strictMembers depth members))
  | (none, _) :: _ => .error .malformed

end

/-! ### Whole texts -/

/-- What a text holds, and whether something follows it. -/
structure Reading where
  draft : Draft
  trailing : Bool

/-- Read a text. -/
def read (text : String) : Reading :=
  let cs := text.toList
  let (draft, rest) := value (3 * cs.length + 3) cs
  ⟨draft, rest.any fun rest => !(dropSpace rest).isEmpty⟩

/-- Read a text with a reader for its value. Something behind the value is only
met when the value is in order. -/
def parse {α : Type} (reader : Draft → Except JsonError α) (text : String) :
    Except JsonError α := do
  let reading := read text
  let found ← reader reading.draft
  if reading.trailing then .error .malformed else .ok found

/-- The value of a text. -/
def parseJson (text : String) : Except JsonError Json := parse (strict depthLimit) text

/-! ### Values as drafts -/

mutual

/-- A value that has been read already. -/
def ofJson : Json → Draft
  | .null => .null
  | .bool b => .bool b
  | .number n => .number (some n)
  | .text s => .text (some s)
  | .array items => .array (ofItems items) none
  | .object members => .object (ofMembers members) none

def ofItems : List Json → List Draft
  | [] => []
  | item :: items => ofJson item :: ofItems items

def ofMembers : List (String × Json) → List (Option String × Draft)
  | [] => []
  | (name, value) :: members => (some name, ofJson value) :: ofMembers members

end

end Draft

end ColumnChecks
