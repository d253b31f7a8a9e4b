import ColumnChecks.Value

/-!
# JSON values

A number is kept as it was meant: whole when it is written without a point and
without an exponent and fits a machine word, signed or not; a double otherwise.

The members of an object are kept in the order they were written in, repeated
names included. `Json.canonical` is what is left when only the last member of
each name counts: the members in the order of their names.
-/

namespace ColumnChecks

/-- A JSON number. -/
inductive JsonNumber where
  | whole (value : Int)
  | decimal (value : Decimal)
  deriving DecidableEq, Repr

/-- A JSON value. -/
inductive Json where
  | null
  | bool (value : Bool)
  | number (value : JsonNumber)
  | text (value : String)
  | array (items : List Json)
  | object (members : List (String × Json))
  deriving Repr, Inhabited

namespace JsonNumber

/-- Whether an integer fits a 64-bit word. -/
def fitsInteger (i : Int) : Bool :=
  decide (Int64.minValue.toInt ≤ i) && decide (i ≤ Int64.maxValue.toInt)

/-- The number as a bound or a literal: an integer if it is one that fits. -/
def toNumeric : JsonNumber → Numeric
  | .whole i => if fitsInteger i then .integer (Int64.ofInt i) else .decimal (Decimal.ofInt i)
  | .decimal d => .decimal d

/-- The number as a 64-bit integer. -/
def toInteger? : JsonNumber → Option Int64
  | .whole i => if fitsInteger i then some (Int64.ofInt i) else none
  | .decimal _ => none

end JsonNumber

namespace Json

/-! ### Objects -/

/-- Put a member where its name belongs in a list in the order of names; a
member of the same name gives way. -/
def insertMember (name : String) (value : Json) : List (String × Json) → List (String × Json)
  | [] => [(name, value)]
  | (other, v) :: rest =>
    match compare name other with
    | .lt => (name, value) :: (other, v) :: rest
    | .eq => (name, value) :: rest
    | .gt => (other, v) :: insertMember name value rest

mutual

/-- The value with the members of every object in the order of their names, the
last one of each name. -/
def canonical : Json → Json
  | .array items => .array (canonicalItems items)
  | .object members => .object (canonicalMembers [] members)
  | other => other

def canonicalItems : List Json → List Json
  | [] => []
  | item :: items => item.canonical :: canonicalItems items

/-- Add members to a list that is in order. -/
def canonicalMembers (sofar : List (String × Json)) : List (String × Json) → List (String × Json)
  | [] => sofar
  | (name, value) :: members =>
    canonicalMembers (insertMember name value.canonical sofar) members

end

mutual

/-- How many arrays and objects are nested in a value. -/
def depth : Json → Nat
  | .array items => depthOfItems items + 1
  | .object members => depthOfMembers members + 1
  | _ => 0

def depthOfItems : List Json → Nat
  | [] => 0
  | item :: items => max item.depth (depthOfItems items)

def depthOfMembers : List (String × Json) → Nat
  | [] => 0
  | (_, value) :: members => max value.depth (depthOfMembers members)

end

/-- The member of a name in a list. -/
def member? (name : String) (members : List (String × Json)) : Option Json :=
  (members.find? fun entry => entry.1 == name).map (·.2)

end Json

end ColumnChecks
