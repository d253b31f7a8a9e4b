import ColumnChecks.Rule.Validity
import ColumnChecks.Sql.Dialect
import ColumnChecks.Hash.Sha256

/-!
# The predicate of a rule

A rule becomes the expression of a CHECK constraint. Such a constraint rejects a
row only when its expression is false, so an unknown value would slip through;
each predicate therefore says itself what happens to rows without a value.

* A rule that does not allow NULL starts with `IS NOT NULL` for every column, in
  front of what its kind asks.
* A rule that does is a choice between what its kind asks and all columns being
  NULL.
* A conditional rule turns an unknown trigger into a false one.
-/

namespace ColumnChecks

open Sql

/-- Why a rule has no predicate in a dialect. -/
inductive UnsupportedRule where
  | nothingToCheck (kind : String)
  | conditionalPerColumn
  | emptyPattern
  | noRegexMatch (dialect : String)
  | noCaseInsensitiveMatch (dialect : String)
  deriving DecidableEq, Repr

namespace UnsupportedRule

/-- The kind of the rule. -/
def kind : UnsupportedRule → String
  | .nothingToCheck kind => kind
  | .conditionalPerColumn => "conditional"
  | .emptyPattern | .noRegexMatch _ | .noCaseInsensitiveMatch _ => "format"

def reason : UnsupportedRule → String
  | .nothingToCheck _ => "allowing NULL leaves nothing to check"
  | .conditionalPerColumn => "conditional rules are compiled as a whole, not per column"
  | .emptyPattern => "empty pattern"
  | .noRegexMatch dialect => "dialect " ++ dialect ++ " has no regular expression match"
  | .noCaseInsensitiveMatch dialect =>
    "dialect " ++ dialect ++ " has no case-insensitive regular expression match"

def message (e : UnsupportedRule) : String := "unsupported " ++ e.kind ++ " rule: " ++ e.reason

end UnsupportedRule

/-! ### What each kind asks of a column -/

/-- The empty text as a value. -/
def blankText : Literal := .text ""

/-- A number as an expression. -/
def numberExpr (n : Numeric) : Expr := .literal n.toLiteral

def Range.expr (range : Range) (column : String) : Expr :=
  let lower := range.min.map fun min =>
    Expr.compare (.column column) (if range.minInclusive then .ge else .gt) (numberExpr min)
  let upper := range.max.map fun max =>
    Expr.compare (.column column) (if range.maxInclusive then .le else .lt) (numberExpr max)
  .all (lower.toList ++ upper.toList)

def Parity.expr (parity : Parity) (column : String) : Expr :=
  .compare (.modulo (.column column) 2)
    (match parity with | .even => .eq | .odd => .ne) (.literal (.integer 0))

def Length.expr (length : Length) (column : String) : Expr :=
  let measured := Expr.charLength (.column column)
  match length.min, length.max with
  | some min, some max => .between measured (.integer min) (.integer max)
  | some min, none => .compare measured .ge (.literal (.integer min))
  | none, some max => .compare measured .le (.literal (.integer max))
  | none, none => .isNull measured true

/-- A pattern that only matches whole values. Patterns with anchors of their own
are wrapped as well: in `^a|b$` each anchor holds for one branch only. -/
def anchored (pattern : String) : String := "^(?:" ++ pattern ++ ")$"

def Format.expr (format : Format) (column : String) (dialect : Dialect) :
    Except UnsupportedRule Expr :=
  if format.pattern.isEmpty then .error .emptyPattern
  else if !dialect.regexMatch then .error (.noRegexMatch dialect.name)
  else if format.caseInsensitive && !dialect.caseInsensitiveRegex then
    .error (.noCaseInsensitiveMatch dialect.name)
  else
    match format.mode with
    | .accepts =>
      .ok (.regexMatch (.column column) (anchored format.pattern) false format.caseInsensitive)
    | .rejects =>
      .ok (.regexMatch (.column column) format.pattern true format.caseInsensitive)

/-- What a kind asks of the value of a column; presence that is not about texts
asks nothing beyond there being a value. -/
def RuleKind.columnExpr (dialect : Dialect) (column : String) :
    RuleKind → Except UnsupportedRule (Option Expr)
  | .range bounds => .ok (some (bounds.expr column))
  | .parity p => .ok (some (p.expr column))
  | .presence .text => .ok (some (.compare (.column column) .ne (.literal blankText)))
  | .presence .nonText => .ok none
  | .length bounds => .ok (some (bounds.expr column))
  | .inclusion values => .ok (some (.inList (.column column) values))
  | .format f => do .ok (some (← f.expr column dialect))
  | .conditional _ => .error .conditionalPerColumn

/-- What a rule asks of the value of a column, with blank allowed if it is. -/
def RuleSpec.columnExpr (spec : RuleSpec) (dialect : Dialect) (column : String) :
    Except UnsupportedRule (Option Expr) := do
  let body ← spec.kind.columnExpr dialect column
  .ok (body.map fun body =>
    if spec.allowBlank then
      .any [body, .compare (.column column) .eq (.literal blankText)]
    else body)

/-! ### Conditional rules -/

def Condition.expr : Condition → Expr
  | .compare column operator value => .compare (.column column) operator (.literal value)
  | .isIn column values => .inList (.column column) values
  | .isNull column => .isNull (.column column) false
  | .isNotNull column => .isNull (.column column) true

/-- What a required column must satisfy. -/
def requiredExprs (rejectBlank : Bool) (column : String) : List Expr :=
  .isNull (.column column) true ::
    (if rejectBlank then [.compare (.column column) .ne (.literal blankText)] else [])

/-- The trigger does not hold, or all columns have a value. -/
def Requirement.expr (requirement : Requirement) (target : List String) : Expr :=
  .or [.not (.coalesce (.all (requirement.when.map Condition.expr)) false),
    .all (target.flatMap (requiredExprs requirement.rejectBlank))]

/-! ### Predicates -/

variable [Pattern.SizeTest]

/-- The predicate of a rule in a dialect. -/
def RuleSpec.predicate (spec : RuleSpec) (dialect : Dialect) : Except UnsupportedRule Expr :=
  match spec.kind with
  | .conditional requirement => .ok (requirement.expr spec.target)
  | kind => do
    let bodies ← spec.target.mapM (spec.columnExpr dialect)
    let bodies := bodies.filterMap id
    if spec.allowNull then
      if bodies.isEmpty then .error (.nothingToCheck kind.name)
      else
        .ok (.or [.all bodies, .all (spec.target.map fun column => .isNull (.column column) false)])
    else
      let body := if bodies.isEmpty then [] else [.all bodies]
      .ok (.all (spec.target.map (fun column => .isNull (.column column) true) ++ body))

/-- The predicate of a rule in a dialect. -/
def Rule.predicate (rule : Rule) (dialect : Dialect) : Except UnsupportedRule Expr :=
  rule.spec.predicate dialect

/-- A stable mark of a predicate: the first sixteen digits of the digest of its
SQL text. -/
def fingerprint (sql : String) : String := String.ofList ((Hash.sha256 sql).toList.take 16)

/-- A rule as a constraint holds it: its predicate and the SQL text of that. -/
structure CompiledRule where
  expr : Expr
  sql : String

/-- The predicate of a rule and its SQL text. -/
def Rule.compile (rule : Rule) (dialect : Dialect) : Except UnsupportedRule CompiledRule := do
  let expr ← rule.predicate dialect
  .ok ⟨expr, expr.sql⟩

def CompiledRule.fingerprint (c : CompiledRule) : String := ColumnChecks.fingerprint c.sql

end ColumnChecks
