import ColumnChecks.Naming
import ColumnChecks.Toml.Reader

/-!
# Settings

Settings come from a TOML document. A key that is not there leaves its default,
and a key that nobody knows is passed over.
-/

namespace ColumnChecks

open Sql (Dialect)

structure Settings where
  /-- The prefix for the names of constraints. -/
  namePrefix : String
  maxIdentifierLength : Nat
  /-- Whether log lines are JSON. -/
  logJson : Bool
  deriving DecidableEq, Repr

/-- Why settings cannot be read. -/
inductive SettingsError where
  | malformed
  | wrongType (key : String)
  deriving DecidableEq, Repr

namespace Settings

/-- The settings when nothing is set. -/
def default : Settings := ⟨defaultNamePrefix, Sql.postgresIdentifierLength, false⟩

/-- The value of a key, with a reader for its type; a key that is not there has its
default. -/
def get {α : Type} (members : Toml.Members) (key : String) (reader : Toml → Option α)
    (default : α) : Except SettingsError α :=
  match Toml.member? key members with
  | none => .ok default
  | some value =>
    match reader value with
    | some found => .ok found
    | none => .error (.wrongType key)

def text? : Toml → Option String
  | .text s => some s
  | _ => none

def natural? : Toml → Option Nat
  | .integer i => if 0 ≤ i then some i.toNat else none
  | _ => none

def boolean? : Toml → Option Bool
  | .boolean b => some b
  | _ => none

/-- Read settings. -/
def parse (document : String) : Except SettingsError Settings :=
  match Toml.read? document with
  | none => .error .malformed
  | some members => do
    .ok ⟨← get members "prefix" text? default.namePrefix,
      ← get members "max_identifier_len" natural? default.maxIdentifierLength,
      ← get members "log_json" boolean? default.logJson⟩

/-- The dialect that the settings make of PostgreSQL. -/
def dialect (settings : Settings) : Dialect :=
  { Dialect.postgres with maxIdentifierLength := settings.maxIdentifierLength }

end Settings

end ColumnChecks
