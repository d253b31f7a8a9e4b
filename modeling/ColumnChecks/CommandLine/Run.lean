import ColumnChecks.CommandLine.Failure
import ColumnChecks.CommandLine.Files
import ColumnChecks.CommandLine.Help
import ColumnChecks.CommandLine.Invocation
import ColumnChecks.Connection.Redaction
import ColumnChecks.Document.Checking
import ColumnChecks.Plan.RowCheck

/-!
# Running commands

A command reads files, writes texts to the output and to the error output, and
succeeds or fails. What it has written before it fails stays written.

Every command reads the settings first. Those on a rules document then load the
document, report its issues, and go on if it has no errors.
-/

namespace ColumnChecks.CommandLine

open Sql (TableRef)

variable [Pattern.SizeTest]

/-- What a command has written. -/
structure Transcript where
  output : String
  errors : String
  deriving DecidableEq, Repr

/-- A command that may write and may fail. -/
abbrev Script := ExceptT Failure (StateM Transcript)

namespace Script

/-- Write to the output. -/
def write (text : String) : Script Unit :=
  modify fun t => { t with output := t.output ++ text }

/-- Write a line to the error output. -/
def warn (line : String) : Script Unit :=
  modify fun t => { t with errors := t.errors ++ line ++ "\n" }

/-- Go on with a result, or fail. -/
def orFail {ε α : Type} (failure : ε → Failure) : Except ε α → Script α
  | .ok value => pure value
  | .error e => throw (failure e)

end Script

open Script (write warn orFail)

/-! ### Documents and settings -/

/-- The text of a file. -/
def readText (files : Files) (path : String) : Script String :=
  match files path with
  | .text content => pure content
  | _ => throw .file

/-- The settings; a file that is not there sets nothing. -/
def loadSettings (files : Files) (path : String) : Script Settings :=
  match files path with
  | .absent => pure Settings.default
  | .unreadable => throw (.settings none)
  | .text content => orFail (fun e => .settings (some e)) (Settings.parse content)

/-- The lines that tell an issue. -/
def issueLines (issue : Issue) : List String :=
  issue.line :: (issue.hint?.map fun hint => "  hint: " ++ hint).toList

/-- Tell issues. -/
def tell (issues : List Issue) : Script Unit := (issues.flatMap issueLines).forM warn

/-- Load the document in a file and tell its issues. -/
def loadDocument (files : Files) (settings : Settings) (path : String) :
    Script CheckedDocument := do
  let value ← orFail .json (Draft.parseJson (← readText files path))
  match RulesDocument.load value settings.dialect with
  | .ok document =>
    tell document.warnings
    pure document
  | .error report =>
    tell (report.errors ++ report.warnings)
    throw (.invalidDocument report.errors.length)

/-- The planner for a document: its prefix, if it sets one, goes before that of the
settings. -/
def plannerFor (settings : Settings) (namePrefix : Option String) :
    Except InvalidRule Planner := do
  .ok ⟨settings.dialect, ← Namer.make (namePrefix.getD settings.namePrefix) settings.dialect⟩

/-- Whether a table is meant by a name: its own, or that with its schema in front. -/
def isMeant (wanted : String) (table : TableRef) : Bool :=
  table.name == wanted || table.sql == wanted

/-- The tables of a document that are asked for; all of them if no name is given. -/
def selectTables (document : CheckedDocument) :
    Option String → Except Failure (List CheckedTable)
  | none => .ok document.tables
  | some wanted =>
    let selected := document.tables.filter fun entry => isMeant wanted entry.table
    if selected.isEmpty then .error (.unknownTable wanted) else .ok selected

/-! ### Commands -/

/-- What the commands on a document start with: its planner and the tables that are
asked for. -/
def openDocument (files : Files) (settings : Settings) (rules : String)
    (table : Option String) : Script (Planner × List CheckedTable) := do
  let document ← loadDocument files settings rules
  let planner ← orFail .rule (plannerFor settings document.namePrefix)
  let tables ← orFail id (selectTables document table)
  pure (planner, tables)

/-- The constraints in a listing, which is about a single table. -/
def loadPresent (files : Files) (tables : List CheckedTable) : Option String → Script Present
  | none => pure .empty
  | some path => do
    if 1 < tables.length then throw .severalTables
    pure (.ofListing (← readText files path))

/-- Print the plan of every table. -/
def runPlan (files : Files) (settings : Settings) (rules : String)
    (present table : Option String) : Script Unit := do
  let (planner, tables) ← openDocument files settings rules table
  let present ← loadPresent files tables present
  tables.forM fun entry => do
    let plan ← orFail .collision (planner.plan entry.table entry.rules present)
    write plan.toSql

/-- The rules of some tables, each with its table. -/
def rulesOf (tables : List CheckedTable) : List (TableRef × Rule) :=
  tables.flatMap fun entry => entry.rules.map fun rule => (entry.table, rule)

/-- Print the verdicts on a row, and fail if a constraint rejects it. -/
def runCheck (files : Files) (settings : Settings) (rules table row : String) :
    Script Unit := do
  let (planner, tables) ← openDocument files settings rules (some table)
  let row ← orFail .json (parseRow row)
  let (verdicts, error) := planner.verdicts row (rulesOf tables)
  verdicts.forM fun verdict => write (verdict.line ++ "\n")
  if let some error := error then throw (.evaluation error)
  let failures := (verdicts.filter RowVerdict.isFailure).length
  if 0 < failures then throw (.rejected failures)

/-- Prepare the migration of a database. -/
def runApply (files : Files) (settings : Settings) (connection rules : String)
    (table : Option String) : Script Unit := do
  if !Connection.isPostgres connection then
    throw (.unsupportedEngine (Connection.redact connection))
  let _ ← openDocument files settings rules table
  throw .noConnection

/-- Print the schema of rules documents. -/
def runSchema : Script Unit := write (DocumentSchema.toJson.printWide 0 ++ "\n")

/-- Run a command. -/
def Invocation.script (invocation : Invocation) (files : Files) : Script Unit := do
  let settings ← loadSettings files invocation.config
  match invocation.command with
  | .plan rules present table => runPlan files settings rules present table
  | .apply connection rules table _ _ => runApply files settings connection rules table
  | .check rules table row => runCheck files settings rules table row
  | .schema => runSchema

/-! ### Command lines -/

/-- What a command line comes to. -/
structure Outcome where
  code : Nat
  output : String
  errors : String
  deriving DecidableEq, Repr

/-- The outcome of a script. -/
def Script.outcome (script : Script Unit) : Outcome :=
  match script.run.run ⟨"", ""⟩ with
  | (.ok (), written) => ⟨0, written.output, written.errors⟩
  | (.error failure, written) =>
    ⟨1, written.output, written.errors ++ "Error: " ++ failure.diagnostic ++ "\n"⟩

/-- Run a command line on files. -/
def run (files : Files) (arguments : List String) : Outcome :=
  match readArguments arguments with
  | .error _ => ⟨2, "", ""⟩
  | .ok (.help command) => ⟨0, helpText command, ""⟩
  | .ok .version => ⟨0, versionText, ""⟩
  | .ok (.run invocation) => (invocation.script files).outcome

end ColumnChecks.CommandLine
