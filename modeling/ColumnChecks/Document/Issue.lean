import ColumnChecks.Json.Violation
import ColumnChecks.Rule.Validity
import ColumnChecks.Sql.Identifier

/-!
# What can be wrong with a document

An issue says what is wrong, where, and what may be done about it. Errors keep a
document from being used, warnings do not.
-/

namespace ColumnChecks

open Sql (TableRef)

/-- The version of documents. -/
def documentVersion : String := "0.1"

inductive Severity where
  | error
  | warning
  deriving DecidableEq, Repr

def Severity.name : Severity → String
  | .error => "error"
  | .warning => "warning"

/-- Something about a document that its author should know. Tables and rules are
counted from zero. -/
inductive Issue where
  /-- The document is not of the shape of its schema. -/
  | violation (violation : Violation)
  /-- The document is of the right shape but cannot be read; the number, if it is
  known, stands for a length and is no 64-bit integer. -/
  | unreadable (length : Option JsonNumber)
  | unsupportedVersion (version : String)
  | invalidPrefix (error : InvalidRule)
  | emptyTable (table : Nat)
  | duplicateTable (table : Nat) (ref : TableRef)
  /-- A table without rules loses all its managed constraints. -/
  | noRules (table : Nat) (ref : TableRef)
  | invalidRule (table rule : Nat) (error : InvalidRule)

namespace Issue

def severity : Issue → Severity
  | .noRules _ _ => .warning
  | _ => .error

/-- The short name of a kind of issue. -/
def code : Issue → String
  | .violation _ => "schema_violation"
  | .unreadable _ => "invalid_rules_json"
  | .unsupportedVersion _ => "unsupported_rules_version"
  | .invalidPrefix _ => "invalid_prefix"
  | .emptyTable _ => "table_empty"
  | .duplicateTable _ _ => "duplicate_table"
  | .noRules _ _ => "rules_empty"
  | .invalidRule _ _ _ => "invalid_rule"

/-- The place of the entry of a table. -/
def tablePath (table : Nat) : String := "/tables/" ++ toString table

/-- The place in the document. -/
def path : Issue → String
  | .violation v => pointer v.path
  | .unreadable _ => "/"
  | .unsupportedVersion _ => "/rules_version"
  | .invalidPrefix _ => "/prefix"
  | .emptyTable table | .duplicateTable table _ => tablePath table ++ "/table"
  | .noRules table _ => tablePath table ++ "/rules"
  | .invalidRule table rule error =>
    tablePath table ++ "/rules/" ++ toString rule ++ "/" ++ error.field

/-- A double as a numeral with a point. -/
def pointed (d : Decimal) : String :=
  let digits := Decimal.plain.write d
  if digits.toList.contains '.' then digits else digits ++ ".0"

/-- Why a document of the right shape cannot be read. -/
def unreadableMessage : Option JsonNumber → String
  | some (.whole i) => "invalid value: integer `" ++ toString i ++ "`, expected i64"
  | some (.decimal d) => "invalid type: floating point `" ++ pointed d ++ "`, expected i64"
  | none => "invalid document"

/-- What is wrong, in words. -/
def message : Issue → String
  | .violation v => v.message
  | .unreadable length => unreadableMessage length
  | .unsupportedVersion version => "rules_version " ++ version ++ " is not supported"
  | .invalidPrefix error | .invalidRule _ _ error => error.reason
  | .emptyTable _ => "table name must not be empty"
  | .duplicateTable _ ref => "table " ++ ref.sql ++ " is declared more than once"
  | .noRules _ ref => "table " ++ ref.sql ++ " declares no rules"

/-- What may be done about it. -/
def hint? : Issue → Option String
  | .unsupportedVersion _ => some ("set rules_version to " ++ documentVersion)
  | .invalidPrefix _ => some "use a short prefix of ASCII letters, digits or '_'"
  | .duplicateTable _ _ => some "merge the rules into a single table entry"
  | .noRules _ _ => some "every rein-owned constraint on this table will be dropped"
  | _ => none

/-- The issue on one line. -/
def line (issue : Issue) : String :=
  issue.severity.name ++ " " ++ issue.code ++ " " ++ issue.path ++ ": " ++ issue.message

end Issue

/-- The issues of a document. -/
structure Report where
  errors : List Issue
  warnings : List Issue

namespace Report

/-- Sort issues into errors and warnings, each in the order they came in. -/
def ofIssues (issues : List Issue) : Report :=
  ⟨issues.filter (·.severity = .error), issues.filter (·.severity = .warning)⟩

/-- Whether nothing keeps the document from being used. -/
def isOk (report : Report) : Bool := report.errors.isEmpty

end Report

end ColumnChecks
