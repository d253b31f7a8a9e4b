import ColumnChecks.Json.Basic

/-!
# Writing JSON

The compact form has no blanks at all. The wide form puts every item and every
member on a line of its own, two blanks further in than what holds it; empty
arrays and objects stay on one line.
-/

namespace ColumnChecks

/-- A number in a JSON text. -/
def JsonNumber.print : JsonNumber → String
  | .whole i => toString i
  | .decimal d => Decimal.json.write d

namespace Json

/-- One character as it stands in a JSON string. -/
def printChar (c : Char) : List Char :=
  if c = '"' then ['\\', '"']
  else if c = '\\' then ['\\', '\\']
  else if c = '\x08' then ['\\', 'b']
  else if c = '\t' then ['\\', 't']
  else if c = '\n' then ['\\', 'n']
  else if c = '\x0c' then ['\\', 'f']
  else if c = '\r' then ['\\', 'r']
  else if c.toNat < 0x20 then
    ['\\', 'u', '0', '0', Nat.digitChar (c.toNat / 16), Nat.digitChar (c.toNat % 16)]
  else [c]

/-- A text as a JSON string. -/
def printText (s : String) : String :=
  String.ofList ('"' :: s.toList.flatMap printChar ++ ['"'])

/-- Texts between brackets, with commas. -/
def enclose (opening closing : String) (texts : List String) : String :=
  opening ++ ",".intercalate texts ++ closing

mutual

/-- The compact form of a value. -/
def print : Json → String
  | .null => "null"
  | .bool b => if b then "true" else "false"
  | .number n => n.print
  | .text s => printText s
  | .array items => enclose "[" "]" (printItems items)
  | .object members => enclose "\x7b" "\x7d" (printMembers members)

def printItems : List Json → List String
  | [] => []
  | item :: items => item.print :: printItems items

def printMembers : List (String × Json) → List String
  | [] => []
  | (name, value) :: members => (printText name ++ ":" ++ value.print) :: printMembers members

end

/-- Texts on lines of their own between brackets, indented by so many blanks. -/
def encloseWide (opening closing : String) (indent : Nat) (texts : List String) : String :=
  if texts.isEmpty then opening ++ closing
  else
    let margin := fun n => "\n" ++ String.ofList (List.replicate n ' ')
    opening ++ ",".intercalate (texts.map fun text => margin (indent + 2) ++ text)
      ++ margin indent ++ closing

mutual

/-- The wide form of a value that stands so many blanks in. -/
def printWide (indent : Nat) : Json → String
  | .array items => encloseWide "[" "]" indent (printWideItems (indent + 2) items)
  | .object members =>
    encloseWide "\x7b" "\x7d" indent (printWideMembers (indent + 2) members)
  | .null => "null"
  | .bool b => if b then "true" else "false"
  | .number n => n.print
  | .text s => printText s

def printWideItems (indent : Nat) : List Json → List String
  | [] => []
  | item :: items => item.printWide indent :: printWideItems indent items

def printWideMembers (indent : Nat) : List (String × Json) → List String
  | [] => []
  | (name, value) :: members =>
    (printText name ++ ": " ++ value.printWide indent) :: printWideMembers indent members

end

end Json

end ColumnChecks
