import ColumnChecks.Text.CharSet
import ColumnChecks.Unicode.CategoryTable
import ColumnChecks.Unicode.ScriptTable
import ColumnChecks.Unicode.PropertyTable
import ColumnChecks.Unicode.BreakTable

/-!
# Character classes of the Unicode standard

A class is looked up under its loose name. One class is spelled in many ways:
`Greek`, `greek` and `is_Greek` are the same script, so names are compared after
`ColumnChecks.Unicode.looseName`.

General categories come in groups (`L` is the union of the five kinds of
letters), and the assigned characters are what the categories of the table take
together. A script has two sets: the characters that belong to it, and those it
is used with.
-/

namespace ColumnChecks.Unicode

open Text

/-! ### Reading the tables -/

/-- The numbers of a text in which blanks and line ends separate numerals. -/
def numbersOf (text : String) : List Nat :=
  let step := fun (state : Option Nat × List Nat) (c : Char) =>
    if c.isDigit then (some (state.1.getD 0 * 10 + (c.toNat - 48)), state.2)
    else (none, state.1.toList ++ state.2)
  let final := text.toList.foldl step (none, [])
  (final.1.toList ++ final.2).reverse

/-- The intervals that alternating gaps and lengths describe. -/
def intervalsOfGaps (start : Nat) : List Nat → List (Nat × Nat)
  | gap :: length :: rest =>
    (start + gap, start + gap + length - 1) :: intervalsOfGaps (start + gap + length) rest
  | _ => []

/-- The set that a table row describes. -/
def charSetOfGaps (text : String) : CharSet := ⟨intervalsOfGaps 0 (numbersOf text)⟩

/-- Whether a loose name is one of the names of a row. -/
def isNamed (name : String) (row : String × String) : Bool :=
  (row.1.splitOn " ").contains name

/-- The set that a table gives to a loose name. -/
def find? (table : List (String × String)) (name : String) : Option CharSet :=
  (table.find? (isNamed name)).map fun row => charSetOfGaps row.2

/-! ### Names -/

/-- A name in loose form: lower case, ASCII, without blanks, hyphens,
underscores and a leading `is`. The name `isc` is kept, as `c` alone is a
category. -/
def looseName (name : List Char) : String :=
  let keep := fun (cs : List Char) =>
    (cs.filter fun c => c.toNat < 0x80 && c != ' ' && c != '_' && c != '-').map Char.toLower
  match name with
  | a :: b :: rest =>
    if a.toLower = 'i' ∧ b.toLower = 's' then
      let kept := keep rest
      String.ofList (if kept = ['c'] then ['i', 's', 'c'] else kept)
    else String.ofList (keep name)
  | _ => String.ofList (keep name)

/-! ### General categories -/

/-- The groups of categories, each with its names and its members. -/
def categoryGroups : List (String × List String) := [
  ("lc casedletter", ["lu", "ll", "lt"]),
  ("l letter", ["lu", "ll", "lt", "lm", "lo"]),
  ("m mark combiningmark", ["mn", "mc", "me"]),
  ("n number", ["nd", "nl", "no"]),
  ("p punctuation punct", ["pc", "pd", "ps", "pe", "pi", "pf", "po"]),
  ("s symbol", ["sm", "sc", "sk", "so"]),
  ("z separator", ["zs", "zl", "zp"])]

/-- The characters of a single category of the table. -/
def category (name : String) : CharSet := (find? categoryTable name).getD CharSet.empty

/-- The union of several categories. -/
def categories (names : List String) : CharSet :=
  CharSet.ofIntervals (names.flatMap fun name => (category name).intervals)

/-- The characters that the standard assigns. -/
def assigned : CharSet :=
  CharSet.ofIntervals (categoryTable.flatMap fun row => (charSetOfGaps row.2).intervals)

/-- The characters of a general category or of a group of categories; `any`,
`assigned` and `ascii` count as categories too. -/
def category? (name : String) : Option CharSet :=
  if name = "any" then some CharSet.all
  else if name = "ascii" then some CharSet.ascii
  else if name = "assigned" then some assigned
  else if name = "cn" ∨ name = "unassigned" then some assigned.complement
  else if name = "c" ∨ name = "other" then
    some ((categories ["cc", "cf", "co"]).union assigned.complement)
  else
    match categoryGroups.find? fun row => (row.1.splitOn " ").contains name with
    | some row => some (categories row.2)
    | none => find? categoryTable name

/-! ### Scripts, properties, break classes and ages -/

/-- The characters of a script. -/
def script? (name : String) : Option CharSet := find? scriptTable name

/-- The characters that a script is used with. -/
def scriptExtension? (name : String) : Option CharSet :=
  match find? scriptExtensionTable name with
  | some set => some set
  | none => find? scriptTable name

/-- The characters that have a binary property. -/
def property? (name : String) : Option CharSet := find? propertyTable name

/-- The characters assigned by a version of the standard or an earlier one. -/
def age? (version : String) : Option CharSet :=
  match ageTable.findIdx? (isNamed version) with
  | some k => some (CharSet.ofIntervals
      ((ageTable.take (k + 1)).flatMap fun row => (charSetOfGaps row.2).intervals))
  | none => none

/-! ### The classes with a short name -/

/-- Decimal digits. -/
def digits : CharSet := category "nd"

/-- Word characters: letters, marks, decimal digits, connectors and joiners. -/
def wordCharacters : CharSet :=
  CharSet.ofIntervals ((categories ["mn", "mc", "me", "nd", "pc"]).intervals
    ++ ((property? "alphabetic").getD CharSet.empty).intervals
    ++ ((property? "joincontrol").getD CharSet.empty).intervals)

/-- Alphabetic characters. -/
def alphabetic : CharSet := (property? "alphabetic").getD CharSet.empty

/-- Numeric characters: decimal digits, letter numbers and other numbers. -/
def numeric : CharSet := categories ["nd", "nl", "no"]

/-- Characters that a diagnostic text does not show as they are: marks that
extend a neighbour, controls, formats, separators, and what is private or
unassigned. The plain blank is shown. -/
def unprintable : CharSet :=
  (((CharSet.ofIntervals ((categories ["cc", "cf", "co", "zl", "zp", "zs"]).intervals
    ++ ((property? "graphemeextend").getD CharSet.empty).intervals)).union
      assigned.complement)).diff (CharSet.singleton ' ')

end ColumnChecks.Unicode
