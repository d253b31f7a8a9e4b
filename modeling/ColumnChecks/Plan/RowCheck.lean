import ColumnChecks.Plan.Planner
import ColumnChecks.Sql.Evaluate

/-!
# Checking a row against rules

A row is put to the predicates of some rules, in the order of the rules. A rule
without a predicate is skipped. A predicate that has no value on the row ends the
checking.
-/

namespace ColumnChecks

open Sql

variable [Pattern.SizeTest]

/-- What is found about a row and one rule, under the name of its constraint. -/
inductive RowVerdict where
  /-- The rule has no predicate. -/
  | skipped (name : String) (error : UnsupportedRule)
  /-- The constraint accepts the row. -/
  | passed (name : String)
  /-- The constraint rejects the row. -/
  | failed (name : String) (predicate : Expr)

namespace RowVerdict

def isFailure : RowVerdict → Bool
  | .failed _ _ => true
  | _ => false

/-- The verdict on one line. -/
def line : RowVerdict → String
  | .skipped name error => "skip " ++ name ++ ": " ++ error.message
  | .passed name => "pass " ++ name
  | .failed name predicate => "fail " ++ name ++ ": CHECK (" ++ predicate.sql ++ ")"

end RowVerdict

namespace Planner

/-- The verdict on a row and a rule of a table. -/
def verdict (planner : Planner) (table : TableRef) (row : Row) (rule : Rule) :
    Except EvalError RowVerdict :=
  let name := planner.namer.name table.name rule
  match rule.predicate planner.dialect with
  | .error error => .ok (.skipped name error)
  | .ok predicate => do
    if ← predicate.accepts row then .ok (.passed name) else .ok (.failed name predicate)

/-- The verdicts on a row and some rules, each with its table, up to the first
predicate that has no value. -/
def verdicts (planner : Planner) (row : Row) :
    List (TableRef × Rule) → List RowVerdict × Option EvalError
  | [] => ([], none)
  | (table, rule) :: rules =>
    match planner.verdict table row rule with
    | .error error => ([], some error)
    | .ok found =>
      let (more, error) := verdicts planner row rules
      (found :: more, error)

end Planner

end ColumnChecks
