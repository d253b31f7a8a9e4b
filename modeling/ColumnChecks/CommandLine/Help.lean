/-!
# Help

The texts that answer to a request for help. They list the options of a command,
each with what it means; the options of all commands come at their own places
among them.
-/

namespace ColumnChecks.CommandLine

/-- The answer to a request for the version. -/
def versionText : String := "rein 0.1.0\n"

/-- An entry of a list: a term and what it means. -/
abbrev HelpEntry := String × String

/-- A text with blanks up to a width. -/
def padTo (width : Nat) (text : String) : String :=
  text ++ String.ofList (List.replicate (width - text.length) ' ')

/-- Entries with their meanings beside them. -/
def besideLines (margin : String) (entries : List HelpEntry) : List String :=
  let width := (entries.map fun entry => entry.1.length).foldl max 0
  entries.map fun entry => margin ++ padTo width entry.1 ++ "  " ++ entry.2

/-- Entries with their meanings below them. -/
def belowLines (margin : String) (entries : List HelpEntry) : List String :=
  entries.flatMap fun entry => [margin ++ entry.1, "          " ++ entry.2]

/-- A help text. -/
def helpOf (about usage : String) (sections : List (List String)) : String :=
  "\n".intercalate ([about, "", "Usage: rein " ++ usage]
    ++ sections.flatMap fun lines => "" :: lines) ++ "\n"

def configEntry : HelpEntry := ("    --config <CONFIG>", "Settings file [default: rein.toml]")

def logJsonEntry : HelpEntry := ("    --log-json", "Emit JSON log lines")

def helpEntry : HelpEntry := ("-h, --help", "Print help")

def rulesEntry : HelpEntry := ("    --rules <RULES>", "Rules document (JSON)")

/-- The help on all commands. -/
def outerHelp : String :=
  helpOf "Declarative CHECK constraints for PostgreSQL" "[OPTIONS] <COMMAND>" [
    "Commands:" :: besideLines "  " [
      ("plan", "Print the migration SQL for a rules document"),
      ("apply", "Plan against a live database and apply the result"),
      ("check", "Evaluate a table's rules against a sample row"),
      ("schema", "Print the rules document JSON Schema"),
      ("help", "Print this message or the help of the given subcommand(s)")],
    "Options:" :: besideLines "  " [configEntry, logJsonEntry, helpEntry,
      ("-V, --version", "Print version")]]

def planHelp : String :=
  helpOf "Print the migration SQL for a rules document" "plan [OPTIONS] --rules <RULES>" [
    "Options:" :: besideLines "  " [configEntry, rulesEntry, logJsonEntry,
      ("    --present <PRESENT>",
        "Constraint names already present, one per line (`name[<TAB>fingerprint]`)"),
      ("    --table <TABLE>", "Only plan this table (`name` or `schema.name`)"),
      helpEntry]]

def applyHelp : String :=
  helpOf "Plan against a live database and apply the result"
    "apply [OPTIONS] --conn <CONNECTION_STRING> --rules <RULES>" [
    "Options:" :: belowLines "  " [configEntry,
      ("    --conn <CONNECTION_STRING>", "Database connection string"),
      logJsonEntry, rulesEntry,
      ("    --table <TABLE>", "Only migrate this table (`name` or `schema.name`)"),
      ("    --dry-run", "Log the statements instead of executing them"),
      ("    --lock-timeout-ms <LOCK_TIMEOUT_MS>",
        "Lock timeout for each table's migration, in milliseconds [default: 5000]"),
      helpEntry]]

def checkHelp : String :=
  helpOf "Evaluate a table's rules against a sample row"
    "check [OPTIONS] --rules <RULES> --table <TABLE> --row <ROW>" [
    "Options:" :: besideLines "  " [configEntry, rulesEntry, logJsonEntry,
      ("    --table <TABLE>", "Table whose rules are evaluated"),
      ("    --row <ROW>", "Sample row as a JSON object, e.g. "
        ++ "`\x7b\"state\": \"on_loan\", \"due_date\": null\x7d`"),
      helpEntry]]

def schemaHelp : String :=
  helpOf "Print the rules document JSON Schema" "schema [OPTIONS]" [
    "Options:" :: besideLines "  " [configEntry, logJsonEntry, helpEntry]]

def helpHelp : String :=
  helpOf "Print this message or the help of the given subcommand(s)" "help [COMMAND]..." [
    "Arguments:" :: besideLines "  " [("[COMMAND]...", "Print help for the subcommand(s)")]]

/-- The help on a command, or on all of them. -/
def helpText : Option String → String
  | some "plan" => planHelp
  | some "apply" => applyHelp
  | some "check" => checkHelp
  | some "schema" => schemaHelp
  | some "help" => helpHelp
  | _ => outerHelp

end ColumnChecks.CommandLine
