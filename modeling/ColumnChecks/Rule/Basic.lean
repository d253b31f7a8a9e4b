import ColumnChecks.Sql.Expr

/-!
# Rules on columns

A rule names the columns it is about, in order, and says what their values must
be like. There are seven kinds: bounds on a number, parity, presence, bounds on
the length of a text, membership in a list, a regular expression, and a
requirement that only holds under conditions on other columns.

A `RuleSpec` is a rule as somebody wrote it down; it need not make sense.
-/

namespace ColumnChecks

open Sql (Comparison)

/-- Bounds on a number, each included or not. -/
structure Range where
  min : Option Numeric
  max : Option Numeric
  minInclusive : Bool
  maxInclusive : Bool
  deriving DecidableEq, Repr

inductive Parity where
  | even
  | odd
  deriving DecidableEq, Repr

/-- Whether a column holds text, where blank is not the same as absent. -/
inductive ColumnType where
  | text
  | nonText
  deriving DecidableEq, Repr

/-- Bounds on the number of characters of a text. -/
structure Length where
  min : Option Int64
  max : Option Int64
  deriving DecidableEq, Repr

/-- What a pattern has to do with a value. -/
inductive FormatMode where
  /-- The whole value must match. -/
  | accepts
  /-- No part of the value may match. -/
  | rejects
  deriving DecidableEq, Repr

/-- A regular expression on a text. -/
structure Format where
  pattern : String
  mode : FormatMode
  caseInsensitive : Bool
  deriving DecidableEq, Repr

/-- A condition on a column, as part of a trigger. -/
inductive Condition where
  | compare (column : String) (operator : Comparison) (value : Literal)
  | isIn (column : String) (values : List Literal)
  | isNull (column : String)
  | isNotNull (column : String)
  deriving DecidableEq, Repr

/-- Conditions under which the target columns become mandatory. -/
structure Requirement where
  when : List Condition
  /-- Whether the empty text counts as absent. -/
  rejectBlank : Bool
  deriving DecidableEq, Repr

/-- What a rule asks of its columns. -/
inductive RuleKind where
  | range (bounds : Range)
  | parity (parity : Parity)
  | presence (columnType : ColumnType)
  | length (bounds : Length)
  | inclusion (values : List Literal)
  | format (format : Format)
  | conditional (requirement : Requirement)
  deriving DecidableEq, Repr

/-- A rule as it was written down. -/
structure RuleSpec where
  /-- The columns that the rule is about, in order. -/
  target : List String
  kind : RuleKind
  /-- Whether a row with no value in any of the columns satisfies the rule. -/
  allowNull : Bool
  /-- Whether the empty text satisfies a rule on texts. -/
  allowBlank : Bool
  /-- A part of the constraint name that tells similar rules apart. -/
  label : Option String
  /-- Whether existing rows are checked when the constraint is added. -/
  validate : Bool
  deriving DecidableEq, Repr

namespace Condition

def column : Condition → String
  | .compare c _ _ | .isIn c _ | .isNull c | .isNotNull c => c

end Condition

namespace RuleKind

/-- The word for a kind of rule. -/
def name : RuleKind → String
  | .range _ => "range"
  | .parity _ => "parity"
  | .presence _ => "presence"
  | .length _ => "length"
  | .inclusion _ => "inclusion"
  | .format _ => "format"
  | .conditional _ => "conditional"

/-- The short code of a kind, the last part of a constraint name. -/
def code : RuleKind → String
  | .range _ => "rng"
  | .parity _ => "par"
  | .presence _ => "pres"
  | .length _ => "len"
  | .inclusion _ => "incl"
  | .format _ => "fmt"
  | .conditional _ => "cond"

/-- Whether the rule is about texts, so that blank may be allowed. -/
def isTextValued : RuleKind → Bool
  | .length _ | .format _ => true
  | .inclusion values => values.all Literal.isText
  | _ => false

end RuleKind

/-! ### Equality of rules

Two rules are the same when they are written with the same parts, where decimals
count as numbers: a bound of `-0.0` is a bound of `0.0`. -/

/-- Whether two lists agree entry by entry. -/
def sameLists {α : Type} (same : α → α → Bool) : List α → List α → Bool
  | [], [] => true
  | x :: xs, y :: ys => same x y && sameLists same xs ys
  | _, _ => false

/-- Whether two optional values agree. -/
def sameOptions {α : Type} (same : α → α → Bool) : Option α → Option α → Bool
  | none, none => true
  | some x, some y => same x y
  | _, _ => false

def Condition.same : Condition → Condition → Bool
  | .compare c op v, .compare c' op' v' => c == c' && op == op' && v.same v'
  | .isIn c vs, .isIn c' vs' => c == c' && sameLists Literal.same vs vs'
  | .isNull c, .isNull c' | .isNotNull c, .isNotNull c' => c == c'
  | _, _ => false

def RuleKind.same : RuleKind → RuleKind → Bool
  | .range r, .range s =>
    sameOptions Numeric.same r.min s.min && sameOptions Numeric.same r.max s.max
      && r.minInclusive == s.minInclusive && r.maxInclusive == s.maxInclusive
  | .parity p, .parity q => p == q
  | .presence t, .presence u => t == u
  | .length l, .length m => l == m
  | .inclusion vs, .inclusion ws => sameLists Literal.same vs ws
  | .format f, .format g => f == g
  | .conditional r, .conditional s =>
    sameLists Condition.same r.when s.when && r.rejectBlank == s.rejectBlank
  | _, _ => false

namespace RuleSpec

/-- Whether two rules are the same. -/
def same (r s : RuleSpec) : Bool :=
  r.target == s.target && r.kind.same s.kind && r.allowNull == s.allowNull
    && r.allowBlank == s.allowBlank && r.label == s.label && r.validate == s.validate

/-- A short description, such as `range(month)` or `length(code)[short]`. -/
def describe (r : RuleSpec) : String :=
  r.kind.name ++ "(" ++ ", ".intercalate r.target ++ ")"
    ++ (match r.label with
      | some label => "[" ++ label ++ "]"
      | none => "")

end RuleSpec

end ColumnChecks
