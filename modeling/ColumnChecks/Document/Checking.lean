import ColumnChecks.Document.Basic
import ColumnChecks.Document.Issue
import ColumnChecks.Document.Schema
import ColumnChecks.Naming

/-!
# Checking documents

A document passes three stages: its shape, its reading, and the sense of what it
says. The first stage that finds an error is the last one.

`RulesDocument.check` is the last stage. It reports every error it finds, not
only the first, and keeps the tables and rules that make sense. An entry whose
table is blank, or was there before, is left out with all its rules.
-/

namespace ColumnChecks

open Sql (TableRef Dialect)

variable [Pattern.SizeTest]

/-- A table with rules that make sense. -/
structure CheckedTable where
  table : TableRef
  rules : List Rule

/-- A document that makes sense, and what its author should know about it. -/
structure CheckedDocument where
  namePrefix : Option String
  tables : List CheckedTable
  warnings : List Issue

/-! ### The sense of a document -/

/-- Build rules, counted from an index; what does not make sense becomes an
issue. -/
def checkRules (table index : Nat) : List RuleSpec → List Rule × List Issue
  | [] => ([], [])
  | spec :: specs =>
    let (rules, issues) := checkRules table (index + 1) specs
    match spec.build with
    | .ok rule => (rule :: rules, issues)
    | .error e => (rules, .invalidRule table index e :: issues)

/-- What is found about the entry of a table, given the tables before it. -/
def TableRules.check (seen : List TableRef) (index : Nat) (entry : TableRules) :
    Option CheckedTable × List Issue :=
  if (Text.trim entry.table.toList).isEmpty then (none, [.emptyTable index])
  else if seen.contains entry.ref then (none, [.duplicateTable index entry.ref])
  else
    let (rules, issues) := checkRules index 0 entry.rules
    (some ⟨entry.ref, rules⟩,
      (if entry.rules.isEmpty then [.noRules index entry.ref] else []) ++ issues)

/-- What is found about entries, counted from an index. -/
def checkTables (seen : List TableRef) (index : Nat) :
    List TableRules → List CheckedTable × List Issue
  | [] => ([], [])
  | entry :: entries =>
    match entry.check seen index with
    | (some table, issues) =>
      let (tables, more) := checkTables (table.table :: seen) (index + 1) entries
      (table :: tables, issues ++ more)
    | (none, issues) =>
      let (tables, more) := checkTables seen (index + 1) entries
      (tables, issues ++ more)

/-- The issue of a document's prefix in a dialect. -/
def prefixIssues (dialect : Dialect) : Option String → List Issue
  | some text =>
    match Namer.make text dialect with
    | .error e => [.invalidPrefix e]
    | .ok _ => []
  | none => []

/-- What is found about a document: the tables and rules that make sense, and all
issues. -/
def RulesDocument.check (doc : RulesDocument) (dialect : Dialect) :
    List CheckedTable × Report :=
  let (tables, issues) := checkTables [] 0 doc.tables
  (tables, .ofIssues
    ((if doc.version = documentVersion then [] else [.unsupportedVersion doc.version])
      ++ prefixIssues dialect doc.namePrefix ++ issues))

/-! ### All stages -/

/-- The length in a member of a rule that is no 64-bit integer. -/
def strayLength? (name : String) (rule : List (String × Json)) : Option JsonNumber :=
  match Json.member? name rule with
  | some (.number n) => if n.toInteger?.isSome then none else some n
  | _ => none

/-- The items of a member that is an array. -/
def itemsOfMember (name : String) : Json → List Json
  | .object found =>
    match Json.member? name found with
    | some (.array items) => items
    | _ => []
  | _ => []

/-- The first length in a rule that is no 64-bit integer. -/
def strayLengthOfRule? : Json → Option JsonNumber
  | .object found =>
    match Json.member? "kind" found with
    | some (.text "length") =>
      (strayLength? "max_length" found).or (strayLength? "min_length" found)
    | _ => none
  | _ => none

/-- The first length in a document that is no 64-bit integer. -/
def strayLengthOfDocument? (value : Json) : Option JsonNumber :=
  ((itemsOfMember "tables" value).flatMap (itemsOfMember "rules")).findSome? strayLengthOfRule?

/-- The report on the shape of a document. -/
def structureReport (value : Json) : Report :=
  .ofIssues ((DocumentSchema.document.violations [] value.canonical).map .violation)

/-- Load a document in a dialect: the document, or the errors of the first stage
that finds any. Of two members with one name the last one counts. -/
def RulesDocument.load (value : Json) (dialect : Dialect) : Except Report CheckedDocument :=
  let report := structureReport value
  if !report.isOk then .error report
  else
    match RulesDocument.ofJson value.canonical with
    | .error _ => .error (.ofIssues [.unreadable (strayLengthOfDocument? value.canonical)])
    | .ok doc =>
      let (tables, report) := doc.check dialect
      if report.isOk then .ok ⟨doc.namePrefix, tables, report.warnings⟩ else .error report

end ColumnChecks
