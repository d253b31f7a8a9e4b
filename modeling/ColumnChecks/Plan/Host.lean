import ColumnChecks.Plan.Planner

/-!
# Carrying plans out

A host holds the constraints of every table and a log of the statements it was
given. It carries a plan out step by step: an add takes effect when the name is
free, a drop when it is not, and every statement goes into the log either way.

Migrating reads the constraints of a table, plans, and carries the plan out
unless there is nothing to do. A host may be out of order when it is read or when
it is written to.
-/

namespace ColumnChecks

open Sql

variable [Pattern.SizeTest]

/-- What a host reports when it is out of order. -/
inductive HostError where
  | database (text : String)
  | other (text : String)
  deriving DecidableEq, Repr

def HostError.message : HostError → String
  | .database text => "database error: " ++ text
  | .other text => "host error: " ++ text

/-- Why a migration fails. -/
inductive MigrationError where
  | collision (error : NameCollision)
  | host (error : HostError)
  deriving DecidableEq, Repr

/-- The constraints of every table, and the statements given so far. -/
structure Host where
  tables : TableRef → Present
  log : List String

/-- What is out of order with a host. -/
structure Outage where
  onRead : Option HostError
  onWrite : Option HostError

/-- The effect of one step on the constraints of its table. -/
def Action.applyTo (present : Present) : Action → Present
  | .add name _ fingerprint =>
    if present.contains name then present else present.insert name (some fingerprint)
  | .drop name _ => present.erase name

/-- The effect of a plan on the constraints of its table. -/
def Plan.applyTo (plan : Plan) (present : Present) : Present :=
  plan.actions.foldl Action.applyTo present

namespace Host

/-- No constraints and no statements. -/
def empty : Host := ⟨fun _ => .empty, []⟩

/-- Give a table other constraints. -/
def set (host : Host) (table : TableRef) (present : Present) : Host :=
  { host with tables := fun t => if t = table then present else host.tables t }

/-- Put a constraint there before any plan is carried out. -/
def seed (host : Host) (table : TableRef) (name : String) (fingerprint : Option String) : Host :=
  host.set table ((host.tables table).insert name fingerprint)

/-- Carry a plan out. -/
def apply (host : Host) (plan : Plan) : Host :=
  { host.set plan.table (plan.applyTo (host.tables plan.table)) with
    log := host.log ++ plan.statements }

/-- Plan for the constraints that the host has. -/
def plan (host : Host) (planner : Planner) (table : TableRef) (rules : List Rule) :
    Except NameCollision Plan :=
  planner.plan table rules (host.tables table)

/-- Migrate a table on a host that may be out of order. -/
def migrateWith (host : Host) (outage : Outage) (planner : Planner) (table : TableRef)
    (rules : List Rule) : Except MigrationError Plan × Host :=
  match outage.onRead with
  | some error => (.error (.host error), host)
  | none =>
    match host.plan planner table rules with
    | .error error => (.error (.collision error), host)
    | .ok plan =>
      if plan.isEmpty then (.ok plan, host)
      else
        match outage.onWrite with
        | some error => (.error (.host error), host)
        | none => (.ok plan, host.apply plan)

/-- Migrate a table. -/
def migrate (host : Host) (planner : Planner) (table : TableRef) (rules : List Rule) :
    Except MigrationError Plan × Host :=
  host.migrateWith ⟨none, none⟩ planner table rules

end Host

end ColumnChecks
