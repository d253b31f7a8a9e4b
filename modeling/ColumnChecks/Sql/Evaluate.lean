import ColumnChecks.Sql.Expr
import ColumnChecks.Pattern.Compile

/-!
# Evaluating predicates on rows

A predicate is evaluated in three-valued logic: comparing with a missing value
gives an unknown one, a false operand decides a conjunction and a true one a
disjunction, and operands behind a deciding one are not evaluated. A constraint
accepts a row unless its predicate is false.

Values of the wrong kind are errors, not unknowns.
-/

namespace ColumnChecks.Sql

/-- A row: the value of each column, if it has one. -/
abbrev Row := String → Option Literal

/-- A truth value; `none` is unknown. -/
abbrev Truth := Option Bool

/-- Why a predicate has no value on a row. -/
inductive EvalError where
  | notBoolean (found : Literal)
  | notText (found : Literal)
  | notNumber (found : Literal)
  | lengthOfNonText (found : Literal)
  | incomparable (left right : Literal)
  | divisionByZero
  /-- The quotient of the least integer and minus one is no integer. -/
  | quotientOverflow
  | invalidPattern (pattern : String) (error : Pattern.Error)
  deriving DecidableEq, Repr

namespace EvalError

/-- What is wrong, without the class of the error. -/
def detail : EvalError → String
  | .notBoolean found => "expected a boolean, found " ++ found.diagnostic
  | .notText found => "regular expressions only match text, found " ++ found.diagnostic
  | .notNumber found => "modulo needs a number, found " ++ found.diagnostic
  | .lengthOfNonText found => "char_length needs text, found " ++ found.diagnostic
  | .incomparable left right =>
    "cannot compare " ++ left.diagnostic ++ " with " ++ right.diagnostic
  | .divisionByZero => "division by zero"
  | .quotientOverflow => "remainder overflows"
  | .invalidPattern pattern error => error.describe pattern

def message : EvalError → String
  | .invalidPattern pattern error => "invalid pattern: " ++ error.describe pattern
  | e => "type mismatch: " ++ e.detail

end EvalError

/-- The order of two values, which must compare. -/
def compareValues (left right : Literal) : Except EvalError Ordering :=
  match left.compare? right with
  | some o => .ok o
  | none => .error (.incomparable left right)

/-- A value as a truth value. -/
def truthOf : Option Literal → Except EvalError Truth
  | none => .ok none
  | some (.boolean b) => .ok (some b)
  | some other => .error (.notBoolean other)

/-- A truth value as a value. -/
def ofTruth (t : Truth) : Option Literal := t.map .boolean

/-- The remainder of a value by an integer. -/
def remainderOf (value : Literal) (divisor : Int64) : Except EvalError Literal :=
  match value with
  | .integer i =>
    if i = Int64.minValue ∧ divisor = -1 then .error .quotientOverflow
    else .ok (.integer (Int64.ofInt (i.toInt.tmod divisor.toInt)))
  | .decimal d => .ok (.decimal (d.remainder (Decimal.ofInt divisor.toInt)))
  | other => .error (.notNumber other)

/-- Whether a value equals one of a list; values behind an equal one are not
looked at. -/
def isAmong (value : Literal) : List Literal → Except EvalError Bool
  | [] => .ok false
  | candidate :: candidates => do
    if (← compareValues value candidate) == .eq then .ok true else isAmong value candidates

variable [Pattern.SizeTest]

/-- Whether a text matches a pattern anywhere. -/
def matchesPattern (pattern : String) (caseInsensitive : Bool) (text : String) :
    Except EvalError Bool :=
  match Pattern.compile caseInsensitive pattern with
  | .ok r => .ok (r.occursIn text.toList)
  | .error e => .error (.invalidPattern pattern e)

/-- The number of characters of a text. -/
def lengthOf : Literal → Except EvalError Literal
  | .text s => .ok (.integer (Int64.ofNat s.length))
  | other => .error (.lengthOfNonText other)

mutual

/-- The value of an expression on a row; a condition has a truth value. -/
def Expr.value (row : Row) : Expr → Except EvalError (Option Literal)
  | .column name => .ok (row name)
  | .literal v => .ok (some v)
  | .compare left op right => do
    let l ← left.value row
    let r ← right.value row
    match l, r with
    | some l, some r => do .ok (some (.boolean (op.holds (← compareValues l r))))
    | _, _ => .ok none
  | .modulo e divisor =>
    if divisor = 0 then .error .divisionByZero
    else do
      match ← e.value row with
      | none => .ok none
      | some v => do .ok (some (← remainderOf v divisor))
  | .charLength e => do
    match ← e.value row with
    | none => .ok none
    | some v => do .ok (some (← lengthOf v))
  | .between e low high => do
    match ← e.value row with
    | none => .ok none
    | some v => do
      let low ← compareValues v low.toLiteral
      let high ← compareValues v high.toLiteral
      .ok (some (.boolean (low != .lt && high != .gt)))
  | .inList e values => do
    match ← e.value row with
    | none => .ok none
    | some v => do .ok (some (.boolean (← isAmong v values)))
  | .regexMatch e pattern negated caseInsensitive => do
    match ← e.value row with
    | none => .ok none
    | some (.text s) => do
      .ok (some (.boolean ((← matchesPattern pattern caseInsensitive s) != negated)))
    | some other => .error (.notText other)
  | .isNull e negated => do .ok (some (.boolean ((← e.value row).isNone != negated)))
  | .coalesce e fallback => do
    .ok (some (.boolean ((← truthOf (← e.value row)).getD fallback)))
  | .not e => do .ok (ofTruth ((← truthOf (← e.value row)).map (!·)))
  | .and es => do .ok (ofTruth (← Expr.connect row true (some true) es))
  | .or es => do .ok (ofTruth (← Expr.connect row false (some false) es))

/-- Join operands: the first one that is not `neutral` and not unknown decides;
if there is none, an unknown operand makes the whole unknown. `sofar` is the
truth value of the operands before. -/
def Expr.connect (row : Row) (neutral : Bool) (sofar : Truth) :
    List Expr → Except EvalError Truth
  | [] => .ok sofar
  | e :: es => do
    match ← truthOf (← e.value row) with
    | none => Expr.connect row neutral none es
    | some b => if b = neutral then Expr.connect row neutral sofar es else .ok (some b)

end

/-- The truth value of a predicate on a row. -/
def Expr.evaluate (row : Row) (e : Expr) : Except EvalError Truth := do truthOf (← e.value row)

/-- Whether a constraint with a predicate accepts a row. -/
def Expr.accepts (row : Row) (e : Expr) : Except EvalError Bool := do
  .ok ((← e.evaluate row) != some false)

end ColumnChecks.Sql
