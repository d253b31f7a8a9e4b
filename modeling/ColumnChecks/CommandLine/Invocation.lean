import ColumnChecks.CommandLine.Options
import ColumnChecks.Decimal.Reading

/-!
# Commands

There are four commands. Two options belong to all of them and may stand in front
of the command or behind it; where both are given the one behind it counts.
-/

namespace ColumnChecks.CommandLine

/-- A command with its options. -/
inductive Command where
  /-- Print the statements that bring tables to their rules. -/
  | plan (rules : String) (present table : Option String)
  /-- Bring the tables of a database to their rules. -/
  | apply (connection rules : String) (table : Option String) (dryRun : Bool)
      (lockTimeout : Nat)
  /-- Check a row against the rules of a table. -/
  | check (rules table row : String)
  /-- Print the schema of rules documents. -/
  | schema
  deriving DecidableEq, Repr

/-- A command, and what belongs to all commands. -/
structure Invocation where
  /-- The file of the settings. -/
  config : String
  /-- Whether log lines are JSON. -/
  logJson : Bool
  command : Command
  deriving DecidableEq, Repr

/-- What a command line asks for. -/
inductive Request where
  | run (invocation : Invocation)
  /-- Help on a command, or on all of them. -/
  | help (command : Option String)
  | version
  deriving DecidableEq, Repr

/-- The file of the settings unless another one is given. -/
def defaultConfig : String := "rein.toml"

/-- The lock timeout in milliseconds unless another one is given. -/
def defaultLockTimeout : Nat := 5000

/-! ### Options -/

def isPath (value : String) : Bool := !value.isEmpty

/-- The 64-bit word that a numeral denotes. -/
def word? (value : String) : Option Nat :=
  match value.toList with
  | '-' :: _ => none
  | cs =>
    match Decimal.signedDigits? cs with
    | some i => if i.toNat < UInt64.size then some i.toNat else none
    | none => none

def path : OptionKind := .value isPath

def anyText : OptionKind := .value fun _ => true

/-- The options of all commands. -/
def commonOptions : OptionKinds := [("config", path), ("log-json", .flag)]

/-- The commands, each with its own options. -/
def commandOptions : List (String × OptionKinds) := [
  ("plan", [("rules", path), ("present", path), ("table", anyText)]),
  ("apply", [("conn", anyText), ("rules", path), ("table", anyText), ("dry-run", .flag),
    ("lock-timeout-ms", .value fun value => (word? value).isSome)]),
  ("check", [("rules", path), ("table", anyText), ("row", anyText)]),
  ("schema", [])]

/-- The command line in front of the command. -/
def outerGrammar : Grammar :=
  ⟨commonOptions, true, commandOptions.map (·.1) ++ ["help"]⟩

/-- The command line behind the name of a command. -/
def innerGrammar (options : OptionKinds) : Grammar := ⟨options ++ commonOptions, false, []⟩

/-! ### Reading a command line -/

/-- The command of a name, if all that it needs is given. -/
def commandOf? (name : String) (found : Given) : Option Command :=
  if name = "plan" then do
    some (.plan (← given? "rules" found) (given? "present" found) (given? "table" found))
  else if name = "apply" then do
    some (.apply (← given? "conn" found) (← given? "rules" found) (given? "table" found)
      (isGiven "dry-run" found)
      (((given? "lock-timeout-ms" found).bind word?).getD defaultLockTimeout))
  else if name = "check" then do
    some (.check (← given? "rules" found) (← given? "table" found) (← given? "row" found))
  else some .schema

/-- What the command `help` asks for. -/
def helpRequest : List String → Except Stop Request
  | [] => .ok (.help none)
  | [name] =>
    if outerGrammar.subcommands.contains name then .ok (.help (some name))
    else .error .misused
  | _ => .error .misused

/-- Read the arguments behind the name of a command. -/
def readCommand (outer : Given) (name : String) (options : OptionKinds)
    (arguments : List String) : Except Stop Request :=
  match (innerGrammar options).read [] arguments with
  | .error .help => .ok (.help (some name))
  | .error stop => .error stop
  | .ok (found, _) =>
    match commandOf? name found with
    | none => .error .misused
    | some command =>
      let config := (given? "config" found).or (given? "config" outer)
      .ok (.run ⟨config.getD defaultConfig, isGiven "log-json" (found ++ outer), command⟩)

/-- Read a command line. -/
def readArguments (arguments : List String) : Except Stop Request :=
  match outerGrammar.read [] arguments with
  | .error .help => .ok (.help none)
  | .error .version => .ok .version
  | .error stop => .error stop
  | .ok (_, none) => .error .misused
  | .ok (outer, some (name, rest)) =>
    if name = "help" then helpRequest rest
    else
      match commandOptions.find? fun entry => entry.1 == name with
      | some (_, options) => readCommand outer name options rest
      | none => .error .misused

end ColumnChecks.CommandLine
