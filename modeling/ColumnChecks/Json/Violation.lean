import ColumnChecks.Json.Schema
import ColumnChecks.Json.Printer

/-!
# Where a value does not fit its schema

`Schema.violations` lists every place at which a value departs from a schema. The
violations of one value come in the order of the keywords they belong to: the
alternatives, the items, the members, then the required members and the type at
last. A failed choice between alternatives is one violation; what is wrong with
each alternative is not told.

`Schema.accepts` is the same question as a yes or no.
-/

namespace ColumnChecks

/-- A step from a value to a part of it. -/
inductive PathStep where
  | member (name : String)
  | item (index : Nat)
  deriving DecidableEq, Repr

def PathStep.text : PathStep → String
  | .member name => name
  | .item index => toString index

/-- The steps from the whole value to a part of it, as a pointer. -/
def pointer (path : List PathStep) : String :=
  if path.isEmpty then "/" else String.join (path.map fun step => "/" ++ step.text)

/-- What is wrong with a value at one place. -/
inductive Mismatch where
  | wrongType (wanted : List JsonType)
  | noSuchWord (words : List String)
  | missing (name : String)
  /-- No alternative fits where at least one should. -/
  | noChoice
  /-- No alternative fits where exactly one should. -/
  | noneOf
  /-- More than one alternative fits where exactly one should. -/
  | severalOf
  deriving DecidableEq, Repr

/-- A place where a value does not fit. -/
structure Violation where
  path : List PathStep
  found : Json
  mismatch : Mismatch

/-- The words for types, each between quotes, in alphabetical order. -/
def quotedTypes (types : List JsonType) : String :=
  ", ".intercalate (((types.map JsonType.name).mergeSort (· ≤ ·)).map Json.printText)

/-- A violation in words. -/
def Violation.message (v : Violation) : String :=
  match v.mismatch with
  | .wrongType [type] => v.found.print ++ " is not of type " ++ Json.printText type.name
  | .wrongType types => v.found.print ++ " is not of types " ++ quotedTypes types
  | .noSuchWord words => v.found.print ++ " is not one of " ++ (Schema.wordsJson words).print
  | .missing name => Json.printText name ++ " is a required property"
  | .noChoice =>
    v.found.print ++ " is not valid under any of the schemas listed in the 'anyOf' keyword"
  | .noneOf =>
    v.found.print ++ " is not valid under any of the schemas listed in the 'oneOf' keyword"
  | .severalOf =>
    v.found.print ++ " is valid under more than one of the schemas listed in the 'oneOf' keyword"

namespace Schema

/-! ### Single keywords -/

/-- Report a mismatch if a test fails. -/
def expect (ok : Bool) (path : List PathStep) (value : Json) (mismatch : Mismatch) :
    List Violation :=
  if ok then [] else [⟨path, value, mismatch⟩]

/-- Whether a value is of one of some types. -/
def ofTypes (types : List JsonType) (value : Json) : Bool := types.any (·.holds value)

/-- Whether a value is one of some words. -/
def isWord (words : List String) : Json → Bool
  | .text word => words.contains word
  | _ => false

/-- The required members that an object lacks. -/
def missingMembers (required : List String) (path : List PathStep) : Json → List Violation
  | .object found => required.flatMap fun name =>
    expect (Json.member? name found).isSome path (.object found) (.missing name)
  | _ => []

/-- The items of an array, each with its path. -/
def itemsFrom (path : List PathStep) (index : Nat) : List Json → List (List PathStep × Json)
  | [] => []
  | item :: more => (path ++ [.item index], item) :: itemsFrom path (index + 1) more

/-- The items of a value, each with its path. -/
def itemsOf (path : List PathStep) : Json → List (List PathStep × Json)
  | .array items => itemsFrom path 0 items
  | _ => []

/-- The member of a value with a name. -/
def memberOf? (name : String) : Json → Option Json
  | .object found => Json.member? name found
  | _ => none

/-- What a number of fitting alternatives says when exactly one should fit. -/
def exactlyOne (fitting : Nat) (path : List PathStep) (value : Json) : List Violation :=
  match fitting with
  | 0 => [⟨path, value, .noneOf⟩]
  | 1 => []
  | _ => [⟨path, value, .severalOf⟩]

/-! ### Whole schemas -/

mutual

/-- The places where a value does not fit a schema. -/
def violations (path : List PathStep) (value : Json) : Schema → List Violation
  | .reference _ target => target.violations path value
  | .typed types _ => expect (ofTypes types value) path value (.wrongType types)
  | .enumerated words =>
    expect (isWord words value) path value (.noSuchWord words)
      ++ expect (JsonType.text.holds value) path value (.wrongType [.text])
  | .list items =>
    (itemsOf path value).flatMap (fun entry => items.violations entry.1 entry.2)
      ++ expect (JsonType.array.holds value) path value (.wrongType [.array])
  | .record alternatives required properties =>
    (if alternatives.isEmpty then [] else exactlyOne (fitting value alternatives) path value)
      ++ memberViolations path value properties
      ++ missingMembers required path value
      ++ expect (JsonType.object.holds value) path value (.wrongType [.object])
  | .every parts => allViolations path value parts
  | .choice alternatives => expect (0 < fitting value alternatives) path value .noChoice
  | .one alternatives => exactlyOne (fitting value alternatives) path value
  | .described _ schema => schema.violations path value
  | .withDefault _ schema => schema.violations path value

/-- The places where a value does not fit one of several schemas. -/
def allViolations (path : List PathStep) (value : Json) : List Schema → List Violation
  | [] => []
  | part :: parts => part.violations path value ++ allViolations path value parts

/-- How many of some alternatives a value fits. -/
def fitting (value : Json) : List Schema → Nat
  | [] => 0
  | schema :: more =>
    (if (schema.violations [] value).isEmpty then 1 else 0) + fitting value more

/-- The places in the members of a value where they do not fit. -/
def memberViolations (path : List PathStep) (value : Json) :
    List (String × Schema) → List Violation
  | [] => []
  | (name, schema) :: more =>
    (match memberOf? name value with
      | some found => schema.violations (path ++ [.member name]) found
      | none => [])
      ++ memberViolations path value more

end

/-- Whether a value fits a schema. -/
def accepts (schema : Schema) (value : Json) : Bool := (schema.violations [] value).isEmpty

end Schema

end ColumnChecks
