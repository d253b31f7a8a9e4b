import ColumnChecks.Rule.Basic
import ColumnChecks.Json.Printer
import ColumnChecks.Json.Draft

/-!
# Rules as JSON

A rule is written as an object: its target, the name of its kind and the
parameters of that kind, and the rest. Options that are not set are left out.

Reading is more generous than writing. Members may come in any order, unknown
ones are passed over, and parameters with a default may be missing; a variant is
named by its word, and the variants of a kind and of a condition also by their
numbers. A member that is given twice is an error.

The members that belong to the kind are only looked at when the object has been
read to its end; those of every rule are looked at as they come.
-/

namespace ColumnChecks

open Sql (Comparison)

/-! ### Writing -/

def Numeric.toJson : Numeric → Json
  | .integer i => .number (.whole i.toInt)
  | .decimal d => .number (.decimal d)

def Literal.toJson : Literal → Json
  | .boolean b => .bool b
  | .integer i => .number (.whole i.toInt)
  | .decimal d => .number (.decimal d)
  | .text s => .text s

/-- The word for a comparison. -/
def comparisonWord : Comparison → String
  | .eq => "eq"
  | .ne => "ne"
  | .lt => "lt"
  | .le => "le"
  | .gt => "gt"
  | .ge => "ge"

/-- A member that is left out when it has no value. -/
def optionalMember {α : Type} (name : String) (toJson : α → Json) :
    Option α → List (String × Json)
  | some value => [(name, toJson value)]
  | none => []

def integerJson (i : Int64) : Json := .number (.whole i.toInt)

def Condition.toJson : Condition → Json
  | .compare column operator value => .object [("op", .text "compare"), ("column", .text column),
      ("operator", .text (comparisonWord operator)), ("value", value.toJson)]
  | .isIn column values => .object [("op", .text "in"), ("column", .text column),
      ("values", .array (values.map Literal.toJson))]
  | .isNull column => .object [("op", .text "is_null"), ("column", .text column)]
  | .isNotNull column => .object [("op", .text "is_not_null"), ("column", .text column)]

/-- The members that belong to a kind, its name apart. -/
def RuleKind.parameters : RuleKind → List (String × Json)
  | .range bounds =>
    optionalMember "min" Numeric.toJson bounds.min ++ optionalMember "max" Numeric.toJson bounds.max
      ++ [("min_inclusive", .bool bounds.minInclusive),
        ("max_inclusive", .bool bounds.maxInclusive)]
  | .parity p => [("parity", .text (match p with | .even => "even" | .odd => "odd"))]
  | .presence t =>
    [("column_type", .text (match t with | .text => "text" | .nonText => "non_text"))]
  | .length bounds =>
    optionalMember "min_length" integerJson bounds.min
      ++ optionalMember "max_length" integerJson bounds.max
  | .inclusion values => [("values", .array (values.map Literal.toJson))]
  | .format f => [("pattern", .text f.pattern),
      ("mode", .text (match f.mode with | .accepts => "accepts" | .rejects => "rejects")),
      ("case_insensitive", .bool f.caseInsensitive)]
  | .conditional r => [("when", .array (r.when.map Condition.toJson)),
      ("reject_blank", .bool r.rejectBlank)]

/-- A rule as a JSON object. -/
def RuleSpec.toJson (spec : RuleSpec) : Json :=
  .object ([("target", .array (spec.target.map .text)), ("kind", .text spec.kind.name)]
    ++ spec.kind.parameters
    ++ [("allow_null", .bool spec.allowNull), ("allow_blank", .bool spec.allowBlank)]
    ++ optionalMember "label" .text spec.label
    ++ [("validate", .bool spec.validate)])

/-! ### Reading values

The readers below take values that have been read already and are `none` when the
value is of the wrong shape. -/

def Numeric.ofJson? : Json → Option Numeric
  | .number n => some n.toNumeric
  | _ => none

def Literal.ofJson? : Json → Option Literal
  | .bool b => some (.boolean b)
  | .number n => some n.toNumeric.toLiteral
  | .text s => some (.text s)
  | _ => none

def textOfJson? : Json → Option String
  | .text s => some s
  | _ => none

def boolOfJson? : Json → Option Bool
  | .bool b => some b
  | _ => none

def integerOfJson? : Json → Option Int64
  | .number n => n.toInteger?
  | _ => none

def listOfJson? {α : Type} (reader : Json → Option α) : Json → Option (List α)
  | .array items => items.mapM reader
  | _ => none

/-- A value that may be null. -/
def nullableOfJson? {α : Type} (reader : Json → Option α) : Json → Option (Option α)
  | .null => some none
  | other => (reader other).map some

/-- A variant without parameters: its word, or an object with the word as its
only member and nothing in that. -/
def variantOfJson? {α : Type} (variant : String → Option α) : Json → Option α
  | .text word => variant word
  | .object [(word, .null)] | .object [(word, .object [])] => variant word
  | _ => none

/-- A variant with parameters: its word, or its number among the words. -/
def tagOfJson? (words : List String) : Json → Option String
  | .text word => if words.contains word then some word else none
  | .number (.whole i) => if 0 ≤ i then words[i.toNat]? else none
  | _ => none

/-- The value of a member that is given at most once. -/
def memberOnce? (name : String) (members : List (String × Json)) : Option (Option Json) :=
  match members.filter fun entry => entry.1 == name with
  | [] => some none
  | [entry] => some (some entry.2)
  | _ => none

/-- A member that must be given. -/
def required? {α : Type} (reader : Json → Option α) (name : String)
    (members : List (String × Json)) : Option α := do
  match ← memberOnce? name members with
  | some value => reader value
  | none => none

/-- A member with a default. -/
def withDefault? {α : Type} (reader : Json → Option α) (default : α) (name : String)
    (members : List (String × Json)) : Option α := do
  match ← memberOnce? name members with
  | some value => reader value
  | none => some default

/-! ### Reading conditions and kinds -/

def comparisonOfWord? (word : String) : Option Comparison :=
  [Comparison.eq, .ne, .lt, .le, .gt, .ge].find? fun op => comparisonWord op == word

def conditionWords : List String := ["compare", "in", "is_null", "is_not_null"]

/-- The names of the parameters of a condition, in order. -/
def conditionParameters (word : String) : List String :=
  if word = "compare" then ["column", "operator", "value"]
  else if word = "in" then ["column", "values"]
  else ["column"]

/-- A condition by its word and its parameters. -/
def conditionOf? (word : String) (members : List (String × Json)) : Option Condition := do
  let column ← required? textOfJson? "column" members
  if word = "compare" then
    let operator ← required? (variantOfJson? comparisonOfWord?) "operator" members
    let value ← required? Literal.ofJson? "value" members
    some (.compare column operator value)
  else if word = "in" then
    some (.isIn column (← required? (listOfJson? Literal.ofJson?) "values" members))
  else if word = "is_null" then some (.isNull column)
  else some (.isNotNull column)

/-- A condition: an object, or its parts in an array. -/
def Condition.ofJson? : Json → Option Condition
  | .object members => do
    let word ← required? (tagOfJson? conditionWords) "op" members
    conditionOf? word members
  | .array (tag :: parts) => do
    let word ← tagOfJson? conditionWords tag
    let names := conditionParameters word
    if parts.length = names.length then conditionOf? word (names.zip parts) else none
  | _ => none

def parityOfWord? (word : String) : Option Parity :=
  if word = "even" then some .even else if word = "odd" then some .odd else none

def columnTypeOfWord? (word : String) : Option ColumnType :=
  if word = "text" then some .text else if word = "non_text" then some .nonText else none

def formatModeOfWord? (word : String) : Option FormatMode :=
  if word = "accepts" then some .accepts else if word = "rejects" then some .rejects else none

def kindWords : List String :=
  ["range", "parity", "presence", "length", "inclusion", "format", "conditional"]

/-- A kind by its word and its parameters. -/
def kindOf? (word : String) (members : List (String × Json)) : Option RuleKind :=
  if word = "range" then do
    some (.range {
      min := ← withDefault? (nullableOfJson? Numeric.ofJson?) none "min" members
      max := ← withDefault? (nullableOfJson? Numeric.ofJson?) none "max" members
      minInclusive := ← withDefault? boolOfJson? true "min_inclusive" members
      maxInclusive := ← withDefault? boolOfJson? true "max_inclusive" members })
  else if word = "parity" then do
    some (.parity (← required? (variantOfJson? parityOfWord?) "parity" members))
  else if word = "presence" then do
    some (.presence
      (← withDefault? (variantOfJson? columnTypeOfWord?) .text "column_type" members))
  else if word = "length" then do
    some (.length {
      min := ← withDefault? (nullableOfJson? integerOfJson?) none "min_length" members
      max := ← withDefault? (nullableOfJson? integerOfJson?) none "max_length" members })
  else if word = "inclusion" then do
    some (.inclusion (← required? (listOfJson? Literal.ofJson?) "values" members))
  else if word = "format" then do
    some (.format {
      pattern := ← required? textOfJson? "pattern" members
      mode := ← withDefault? (variantOfJson? formatModeOfWord?) .accepts "mode" members
      caseInsensitive := ← withDefault? boolOfJson? false "case_insensitive" members })
  else do
    some (.conditional {
      when := ← required? (listOfJson? Condition.ofJson?) "when" members
      rejectBlank := ← withDefault? boolOfJson? false "reject_blank" members })

/-- The kind of a rule, from the members that are not those of every rule. -/
def RuleKind.ofMembers? (members : List (String × Json)) : Option RuleKind := do
  let word ← required? (tagOfJson? kindWords) "kind" members
  kindOf? word members

/-! ### Reading drafts -/

namespace Draft

/-- The error of a draft that is not of the wanted shape: its own, if it goes
wrong before its shape is known. -/
def wrongShape : Draft → JsonError
  | .number none | .text none => .malformed
  | .broken e => e.needed
  | _ => .mismatch

def bool? : Draft → Except JsonError Bool
  | .bool b => .ok b
  | other => .error other.wrongShape

def text? : Draft → Except JsonError String
  | .text (some s) => .ok s
  | other => .error other.wrongShape

/-- A value that may be null. -/
def nullable? {α : Type} (reader : Draft → Except JsonError α) :
    Draft → Except JsonError (Option α)
  | .null => .ok none
  | other => do .ok (some (← reader other))

/-- The items of an array, each with a reader, no deeper than allowed. -/
def list? {α : Type} (depth : Nat) (reader : Draft → Except JsonError α) :
    Draft → Except JsonError (List α)
  | .array items ending =>
    if depth = 0 then .error .malformed
    else do
      let found ← items.mapM reader
      match ending with
      | some e => .error e.needed
      | none => .ok found
  | other => .error other.wrongShape

/-- Read the members of an object into a state, one after the other. -/
def foldMembers {σ : Type} (step : σ → String → Draft → Except JsonError σ) (start : σ)
    (members : List (Option String × Draft)) (ending : Option Break) : Except JsonError σ := do
  let final ← members.foldlM (fun state entry =>
    match entry.1 with
    | some name => step state name entry.2
    | none => .error .malformed) start
  match ending with
  | some e => .error e.needed
  | none => .ok final

/-- Set a part of a state that must not be set yet. -/
def once {α : Type} (already : Option α) (found : Except JsonError α) :
    Except JsonError (Option α) :=
  match already with
  | some _ => .error .mismatch
  | none => do .ok (some (← found))

/-- A part that must be set. -/
def need {α : Type} : Option α → Except JsonError α
  | some value => .ok value
  | none => .error .mismatch

end Draft

/-- The members of a rule that have been read. -/
structure RuleParts where
  target : Option (List String) := none
  allowNull : Option Bool := none
  allowBlank : Option Bool := none
  label : Option (Option String) := none
  validate : Option Bool := none
  /-- The members that are not those of every rule. -/
  others : List (String × Json) := []

/-- Read one member of a rule. -/
def RuleParts.step (depth : Nat) (parts : RuleParts) (name : String) (value : Draft) :
    Except JsonError RuleParts :=
  if name = "target" then do
    .ok { parts with target := ← Draft.once parts.target (value.list? depth Draft.text?) }
  else if name = "allow_null" then do
    .ok { parts with allowNull := ← Draft.once parts.allowNull value.bool? }
  else if name = "allow_blank" then do
    .ok { parts with allowBlank := ← Draft.once parts.allowBlank value.bool? }
  else if name = "label" then do
    .ok { parts with label := ← Draft.once parts.label (value.nullable? Draft.text?) }
  else if name = "validate" then do
    .ok { parts with validate := ← Draft.once parts.validate value.bool? }
  else do
    .ok { parts with others := parts.others ++ [(name, ← value.strict depth)] }

/-- A rule, from its members. -/
def RuleParts.toSpec (parts : RuleParts) : Except JsonError RuleSpec := do
  let target ← Draft.need parts.target
  let kind ← Draft.need (RuleKind.ofMembers? parts.others)
  .ok {
    target := target
    kind := kind
    allowNull := parts.allowNull.getD false
    allowBlank := parts.allowBlank.getD false
    label := parts.label.getD none
    validate := parts.validate.getD true }

/-- Read a rule, no deeper than allowed. -/
def RuleSpec.ofDraft (depth : Nat) : Draft → Except JsonError RuleSpec
  | .object members ending =>
    if depth = 0 then .error .malformed
    else do (← Draft.foldMembers (RuleParts.step (depth - 1)) {} members ending).toSpec
  | other => .error other.wrongShape

/-- Read the text of a rule. -/
def RuleSpec.parse (text : String) : Except JsonError RuleSpec :=
  Draft.parse (RuleSpec.ofDraft Draft.depthLimit) text

/-- Read a value of a row, no deeper than allowed. -/
def Literal.ofDraft (depth : Nat) (draft : Draft) : Except JsonError Literal := do
  Draft.need (Literal.ofJson? (← draft.strict depth))

/-- Read a row, no deeper than allowed. Of two values for one column the later
one counts. -/
def rowOfDraft (depth : Nat) : Draft → Except JsonError (String → Option Literal)
  | .object members ending =>
    if depth = 0 then .error .malformed
    else
      Draft.foldMembers (fun row name value => do
        let value ← value.nullable? (Literal.ofDraft (depth - 1))
        .ok fun column => if column = name then value else row column)
        (fun _ => none) members ending
  | other => .error other.wrongShape

/-- Read the text of a row. -/
def parseRow (text : String) : Except JsonError (String → Option Literal) :=
  Draft.parse (rowOfDraft Draft.depthLimit) text

end ColumnChecks
