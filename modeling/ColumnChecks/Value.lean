import ColumnChecks.Decimal.Layout
import ColumnChecks.Decimal.Reading
import ColumnChecks.Text.Quoted

/-!
# Values of rules and rows

A literal is a boolean, an integer, a decimal or a text. Integers are 64-bit
words and decimals are doubles, and the two are compared as numbers: two
integers exactly, and any other pair as doubles, the integer being rounded
first. Booleans and texts only compare with their own kind, texts in the order
of their code points.
-/

namespace ColumnChecks

/-- A bound or a literal that is a number. -/
inductive Numeric where
  | integer (value : Int64)
  | decimal (value : Decimal)
  deriving DecidableEq, Repr, Inhabited

namespace Numeric

/-- The value as a double, an integer being rounded to the nearest one. -/
def toDecimal : Numeric → Decimal
  | .integer i => Decimal.ofInt i.toInt
  | .decimal d => d

def isFinite : Numeric → Bool
  | .integer _ => true
  | .decimal d => d.isFinite

/-- The order of two numbers; integers are compared exactly. -/
def compare? : Numeric → Numeric → Option Ordering
  | .integer i, .integer j => some (compare i.toInt j.toInt)
  | x, y => x.toDecimal.compare? y.toDecimal

/-- The numeral, as in SQL and in messages. -/
def text : Numeric → String
  | .integer i => toString i.toInt
  | .decimal d => Decimal.plain.write d

/-- Equality within a kind of number: an integer never equals a decimal. -/
def same : Numeric → Numeric → Bool
  | .integer i, .integer j => i == j
  | .decimal x, .decimal y => x.numEq y
  | _, _ => false

end Numeric

/-- A value that a predicate mentions or a row holds. -/
inductive Literal where
  | boolean (value : Bool)
  | integer (value : Int64)
  | decimal (value : Decimal)
  | text (value : String)
  deriving DecidableEq, Repr, Inhabited

/-- The broad kind of a literal: values of different kinds do not compare. -/
inductive LiteralKind where
  | boolean
  | numeric
  | text
  deriving DecidableEq, Repr

def LiteralKind.name : LiteralKind → String
  | .boolean => "boolean"
  | .numeric => "numeric"
  | .text => "text"

/-- A number as a literal. -/
def Numeric.toLiteral : Numeric → Literal
  | .integer i => .integer i
  | .decimal d => .decimal d

namespace Literal

def kind : Literal → LiteralKind
  | .boolean _ => .boolean
  | .integer _ | .decimal _ => .numeric
  | .text _ => .text

def numeric? : Literal → Option Numeric
  | .integer i => some (.integer i)
  | .decimal d => some (.decimal d)
  | _ => none

def isText : Literal → Bool
  | .text _ => true
  | _ => false

def isFinite : Literal → Bool
  | .decimal d => d.isFinite
  | _ => true

/-- The order of two literals of one kind. -/
def compare? : Literal → Literal → Option Ordering
  | .text s, .text t => some (compare s t)
  | .boolean a, .boolean b => some (compare a b)
  | x, y =>
    match x.numeric?, y.numeric? with
    | some m, some n => m.compare? n
    | _, _ => none

/-- Equality of literals as parts of a rule: of one constructor, and decimals
as numbers. -/
def same : Literal → Literal → Bool
  | .boolean a, .boolean b => a == b
  | .integer i, .integer j => i == j
  | .decimal x, .decimal y => x.numEq y
  | .text s, .text t => s == t
  | _, _ => false

/-- The literal as diagnostics show it: its constructor and its value. -/
def diagnostic : Literal → String
  | .boolean b => "Boolean(" ++ toString b ++ ")"
  | .integer i => "Integer(" ++ toString i.toInt ++ ")"
  | .decimal d => "Decimal(" ++ Decimal.diagnostic.write d ++ ")"
  | .text s => "Text(" ++ Text.Quoted.quote s ++ ")"

end Literal

/-- The 64-bit integer that a signed decimal numeral denotes. -/
def integerOfText? (text : String) : Option Int64 :=
  match Decimal.signedDigits? text.toList with
  | some i =>
    if Int64.minValue.toInt ≤ i ∧ i ≤ Int64.maxValue.toInt then some (Int64.ofInt i) else none
  | none => none

end ColumnChecks
