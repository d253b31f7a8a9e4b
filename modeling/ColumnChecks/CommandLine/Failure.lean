import ColumnChecks.Document.Issue
import ColumnChecks.Json.Draft
import ColumnChecks.Plan.Planner
import ColumnChecks.Settings
import ColumnChecks.Sql.Evaluate

/-!
# Why a command fails

A failure is shown as a diagnostic: the class of the failure, and in parentheses
what is known about it, with texts in quotes.
-/

namespace ColumnChecks.CommandLine

open Text.Quoted (quote)

inductive Failure where
  /-- A file cannot be read. -/
  | file
  | json (error : JsonError)
  /-- The settings cannot be read; there is no error when it is their file that
  cannot. -/
  | settings (error : Option SettingsError)
  | rule (error : InvalidRule)
  | collision (error : NameCollision)
  | evaluation (error : Sql.EvalError)
  /-- The document has so many errors. -/
  | invalidDocument (errors : Nat)
  /-- So many constraints reject the row. -/
  | rejected (rules : Nat)
  | unknownTable (name : String)
  /-- A listing of constraints is given for several tables. -/
  | severalTables
  /-- The database is not of a known kind; its connection string has no passwords. -/
  | unsupportedEngine (connection : String)
  /-- There is no connection to the database. -/
  | noConnection
  deriving DecidableEq, Repr

/-- A diagnostic with fields. -/
def withFields (name : String) (fields : List (String × String)) : String :=
  name ++ " \x7b " ++ ", ".intercalate (fields.map fun entry => entry.1 ++ ": " ++ quote entry.2)
    ++ " \x7d"

/-- The diagnostic of an error of evaluation. -/
def evaluationDiagnostic (error : Sql.EvalError) : String :=
  match error with
  | .invalidPattern _ _ => "InvalidPattern(" ++ quote error.detail ++ ")"
  | _ => "TypeMismatch(" ++ quote error.detail ++ ")"

namespace Failure

/-- The failure as a diagnostic. -/
def diagnostic : Failure → String
  | .file => "Io"
  | .json _ => "Json"
  | .settings _ => "Settings"
  | .rule error =>
    "Rule(" ++ withFields "InvalidRuleError" [("field", error.field), ("reason", error.reason)]
      ++ ")"
  | .collision error =>
    "Collision(" ++ withFields "NameCollisionError" [("name", error.name),
      ("first", error.first), ("second", error.second)] ++ ")"
  | .evaluation error => "Eval(" ++ evaluationDiagnostic error ++ ")"
  | .invalidDocument errors => "InvalidRules(" ++ toString errors ++ ")"
  | .rejected rules => "CheckFailed(" ++ toString rules ++ ")"
  | .unknownTable name =>
    "InvalidConfig(" ++ quote ("table " ++ name ++ " is not declared in the rules document") ++ ")"
  | .severalTables =>
    "InvalidConfig(" ++ quote "--present describes a single table; select it with --table" ++ ")"
  | .unsupportedEngine connection => "UnsupportedEngine(" ++ quote connection ++ ")"
  | .noConnection => "Database"

end Failure

end ColumnChecks.CommandLine
