import ColumnChecks.Naming
import ColumnChecks.Plan.Statement

/-!
# Planning a migration

A plan turns the constraints that a table has into those that its rules ask for.
Only constraints with managed names are touched. A rule whose constraint is
missing is added; one whose recorded fingerprint is another is dropped and added
again; one without a fingerprint is taken as it is. What is managed but not asked
for is dropped. All drops come before all adds, each in the order of names.

A rule that the dialect cannot express is set aside, and a constraint under its
name is left alone. Two different rules with one name make planning fail; the
same rule twice counts once.
-/

namespace ColumnChecks

open Sql

variable [Pattern.SizeTest]

/-- Two different rules ask for one name. -/
structure NameCollision where
  name : String
  first : String
  second : String
  deriving DecidableEq, Repr

def NameCollision.message (e : NameCollision) : String :=
  "constraint name " ++ e.name ++ " is claimed by two different rules: " ++ e.first ++ " and "
    ++ e.second

/-- One step of a plan, with its statement. -/
inductive Action where
  | add (name statement fingerprint : String)
  | drop (name statement : String)
  deriving DecidableEq, Repr

namespace Action

def name : Action → String
  | .add name _ _ | .drop name _ => name

def statement : Action → String
  | .add _ statement _ | .drop _ statement => statement

def isAdd : Action → Bool
  | .add _ _ _ => true
  | .drop _ _ => false

/-- The fingerprint that the step records. -/
def fingerprint? : Action → Option String
  | .add _ _ fingerprint => some fingerprint
  | .drop _ _ => none

end Action

/-- A rule that the dialect cannot express. -/
structure Rejection where
  name : String
  rule : Rule
  error : UnsupportedRule

/-- The steps that bring a table to its rules. -/
structure Plan where
  table : TableRef
  /-- Drops first, then adds, each in the order of names. -/
  actions : List Action
  rejected : List Rejection

namespace Plan

def isEmpty (plan : Plan) : Bool := plan.actions.isEmpty

def adds (plan : Plan) : List Action := plan.actions.filter Action.isAdd

def drops (plan : Plan) : List Action := plan.actions.filter (!·.isAdd)

def statements (plan : Plan) : List String := plan.actions.map Action.statement

/-- The plan as an SQL script, with what was set aside in comments. -/
def toSql (plan : Plan) : String :=
  let header := "-- " ++ plan.table.sql ++ ": " ++ toString plan.drops.length ++ " drop(s), "
    ++ toString plan.adds.length ++ " add(s)"
  let skipped := plan.rejected.map fun r => "-- skipped " ++ r.name ++ ": " ++ r.error.message
  String.join ((header :: skipped ++ plan.statements).map fun line => line ++ "\n")

end Plan

/-- What plans are made for: a dialect and a naming. -/
structure Planner where
  dialect : Dialect
  namer : Namer

/-- The rules that are asked for, by the names of their constraints. -/
abbrev Desired := Std.ExtTreeMap String Rule

/-- What planning finds for one rule. -/
inductive Finding where
  /-- The constraint is as it should be. -/
  | kept
  /-- The constraint is added. -/
  | added (action : Action)
  /-- The constraint is dropped and added again. -/
  | replaced (removal action : Action)
  /-- The rule has no predicate. -/
  | rejected (rejection : Rejection)

namespace Planner

/-- PostgreSQL with the default prefix. -/
def postgres : Planner := ⟨.postgres, .postgres⟩

/-- The step that adds the constraint of a rule. -/
def addAction (table : TableRef) (name : String) (rule : Rule) (compiled : CompiledRule) :
    Action :=
  .add name (addStatement table name compiled.sql compiled.fingerprint rule.spec.validate)
    compiled.fingerprint

/-- The step that drops a constraint. -/
def dropAction (table : TableRef) (name : String) : Action :=
  .drop name (dropStatement table name)

/-- Add a rule to those asked for, unless another rule has its name. -/
def addDesired (planner : Planner) (table : TableRef) (desired : Desired) (rule : Rule) :
    Except NameCollision Desired :=
  let name := planner.namer.name table.name rule
  match desired[name]? with
  | none => .ok (desired.insert name rule)
  | some earlier =>
    if earlier.same rule then .ok desired
    else .error ⟨name, earlier.describe, rule.describe⟩

/-- The rules asked for, by name. -/
def desired (planner : Planner) (table : TableRef) (rules : List Rule) :
    Except NameCollision Desired :=
  rules.foldlM (planner.addDesired table) ∅

/-- What to do about one rule, given the constraints that are there. -/
def finding (planner : Planner) (table : TableRef) (present : Present) (name : String)
    (rule : Rule) : Finding :=
  match rule.compile planner.dialect with
  | .error error => .rejected ⟨name, rule, error⟩
  | .ok compiled =>
    let action := addAction table name rule compiled
    match present.find? name with
    | none => .added action
    | some none => .kept
    | some (some recorded) =>
      if recorded = compiled.fingerprint then .kept
      else .replaced (dropAction table name) action

/-- The managed constraints that no rule asks for. -/
def obsolete (planner : Planner) (desired : Desired) (present : Present) : List String :=
  present.names.filter fun name => planner.namer.owns name && !desired.contains name

/-- Put steps in the order of their names. -/
def sortByName (actions : List Action) : List Action :=
  actions.mergeSort fun a b => a.name ≤ b.name

/-- The plan for rules that have been told apart by name. -/
def planDesired (planner : Planner) (table : TableRef) (desired : Desired) (present : Present) :
    Plan :=
  let findings := desired.toList.map fun entry => planner.finding table present entry.1 entry.2
  let adds := findings.filterMap fun
    | .added action | .replaced _ action => some action
    | _ => none
  let replaced := findings.filterMap fun
    | .replaced removal _ => some removal
    | _ => none
  let rejected := findings.filterMap fun
    | .rejected rejection => some rejection
    | _ => none
  let obsolete := (planner.obsolete desired present).map (dropAction table)
  ⟨table, sortByName (replaced ++ obsolete) ++ sortByName adds, rejected⟩

/-- Plan the changes that bring a table to its rules. -/
def plan (planner : Planner) (table : TableRef) (rules : List Rule) (present : Present) :
    Except NameCollision Plan := do
  .ok (planner.planDesired table (← planner.desired table rules) present)

end Planner

end ColumnChecks
