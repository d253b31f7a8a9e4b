import ColumnChecks.Proofs.Plan.Convergence

/-!
# What a host keeps

Over time a host has constraints seeded, is migrated, and has plans carried out that
were made earlier. Nothing is assumed of when such a plan was made: **any plan that the
planner makes for any constraints** may be carried out
(`ColumnChecks.Planner.Makes`), so that a stale plan is one of them.

Whatever the order of these steps, `ColumnChecks.Host.run_frame` says what they leave
alone: the constraints whose names the planner does not own, every table but the one
that a step is about, the log of statements so far, and all of the host when a
migration fails. Each of these is a fact about one step, and a run adds nothing to it
but the induction.
-/

namespace ColumnChecks

open Sql (TableRef)

theorem Host.tables_seed (host : Host) (table : TableRef) (name : String)
    (fingerprint : Option String) (other : TableRef) :
    (host.seed table name fingerprint).tables other =
      if other = table then (host.tables table).insert name fingerprint else host.tables other :=
  rfl

section

variable [Pattern.SizeTest]

/-- The planner makes a plan, for the constraints of some moment. -/
def Planner.Makes (planner : Planner) (plan : Plan) : Prop :=
  ∃ table rules present, planner.plan table rules present = .ok plan

/-- What is done to a host with one planner. -/
inductive HostStep (planner : Planner) where
  /-- A constraint is put there by somebody else. -/
  | seed (table : TableRef) (name : String) (fingerprint : Option String)
  /-- A table is migrated to its rules. -/
  | migrate (table : TableRef) (rules : List Rule)
  /-- A plan is carried out, whenever it was made. -/
  | carryOut (plan : Plan) (made : planner.Makes plan)

namespace HostStep

variable {planner : Planner}

/-- The table that a step is about. -/
def table : HostStep planner → TableRef
  | .seed table _ _ | .migrate table _ => table
  | .carryOut plan _ => plan.table

/-- The plan that a step carries out on a host. -/
def carried? (host : Host) : HostStep planner → Option Plan
  | .seed _ _ _ => none
  | .migrate table rules =>
    match host.plan planner table rules with
    | .ok plan => if plan.isEmpty then none else some plan
    | .error _ => none
  | .carryOut plan _ => some plan

/-- What a step seeds under a name. -/
def seeded? (table : TableRef) (name : String) : HostStep planner → Option (Option String)
  | .seed table' name' fingerprint =>
    if table' = table ∧ name' = name then some fingerprint else none
  | _ => none

/-- What a name was last seeded with. -/
def lastSeeded? (table : TableRef) (name : String) :
    List (HostStep planner) → Option (Option String)
  | [] => none
  | step :: steps => (lastSeeded? table name steps).or (step.seeded? table name)

end HostStep

namespace Host

variable {planner : Planner}

/-- The host after a step. -/
def take (host : Host) : HostStep planner → Host
  | .seed table name fingerprint => host.seed table name fingerprint
  | .migrate table rules => (host.migrate planner table rules).2
  | .carryOut plan _ => host.apply plan

/-- The host after some steps. -/
def run (host : Host) (steps : List (HostStep planner)) : Host := steps.foldl take host

/-- The plans that some steps carry out, in order. -/
def carried (host : Host) : List (HostStep planner) → List Plan
  | [] => []
  | step :: steps => (step.carried? host).toList ++ carried (host.take step) steps

/-! ### One step -/

variable {host : Host} {table : TableRef} {rules : List Rule}

theorem tables_apply_eq (host : Host) (plan : Plan) (other : TableRef) :
    (host.apply plan).tables other =
      if other = plan.table then plan.applyTo (host.tables plan.table) else host.tables other :=
  rfl

/-- Migrating is carrying out the plan, if there is one with anything in it. -/
theorem migrate_eq (host : Host) (planner : Planner) (table : TableRef) (rules : List Rule) :
    host.migrate planner table rules =
      match host.plan planner table rules with
      | .error error => (.error (.collision error), host)
      | .ok plan => (.ok plan, if plan.isEmpty then host else host.apply plan) := by
  simp only [migrate, migrateWith]
  cases host.plan planner table rules with
  | error error => rfl
  | ok plan =>
    simp only
    split_ifs <;> rfl

/-- **A migration that fails** changes nothing. -/
theorem migrate_of_error {error : MigrationError}
    (h : (host.migrate planner table rules).1 = .error error) :
    (host.migrate planner table rules).2 = host := by
  rw [migrate_eq] at h ⊢
  cases hplan : host.plan planner table rules with
  | error collision => rfl
  | ok plan =>
    rw [hplan] at h
    cases h

/-- **What a step can do**: seed a constraint, carry out a plan of the planner for the
table that it is about, or nothing. -/
theorem take_cases (host : Host) (step : HostStep planner) :
    (∃ table name fingerprint, step = .seed table name fingerprint) ∨
      (∀ table name, step.seeded? table name = none) ∧
        ((∃ plan, planner.Makes plan ∧ plan.table = step.table ∧
            step.carried? host = some plan ∧ host.take step = host.apply plan) ∨
          step.carried? host = none ∧ host.take step = host) := by
  cases step with
  | seed table name fingerprint => exact Or.inl ⟨table, name, fingerprint, rfl⟩
  | carryOut plan made => exact Or.inr ⟨fun _ _ => rfl, Or.inl ⟨plan, made, rfl, rfl, rfl⟩⟩
  | migrate table rules =>
    refine Or.inr ⟨fun _ _ => rfl, ?_⟩
    rw [take, migrate_eq, HostStep.carried?]
    cases hplan : host.plan planner table rules with
    | error collision => exact Or.inr ⟨rfl, rfl⟩
    | ok plan =>
      simp only
      split_ifs
      · exact Or.inr ⟨rfl, rfl⟩
      · exact Or.inl ⟨plan, ⟨table, rules, _, hplan⟩, plan_table hplan, rfl, rfl⟩

/-- **A step keeps the names that are not owned**, apart from what it seeds. -/
theorem find?_take (host : Host) (step : HostStep planner) (table : TableRef) {name : String}
    (hforeign : planner.namer.owns name = false) :
    ((host.take step).tables table).find? name =
      (step.seeded? table name).or ((host.tables table).find? name) := by
  obtain ⟨table', name', fingerprint, rfl⟩ | ⟨hseeded, h⟩ := take_cases host step
  · rw [take, tables_seed, HostStep.seeded?]
    by_cases htable : table = table'
    · subst htable
      by_cases hname : name' = name
      · simp [hname, Present.find?_insert]
      · simp [hname, Present.find?_insert]
    · rw [if_neg htable, if_neg fun h => htable h.1.symm, Option.none_or]
  · rw [hseeded, Option.none_or]
    obtain ⟨plan, ⟨_, rules, present, hplan⟩, -, -, htake⟩ | ⟨-, htake⟩ := h
    · rw [htake, tables_apply_eq]
      split_ifs with htable
      · rw [htable, Planner.find?_applyTo_of_foreign hplan hforeign]
      · rfl
    · rw [htake]

/-- A step leaves the other tables alone. -/
theorem tables_take_of_ne (host : Host) (step : HostStep planner) (h : table ≠ step.table) :
    (host.take step).tables table = host.tables table := by
  obtain ⟨table', name, fingerprint, rfl⟩ | ⟨-, hstep⟩ := take_cases host step
  · exact if_neg h
  · obtain ⟨plan, -, htable, -, htake⟩ | ⟨-, htake⟩ := hstep
    · rw [htake, tables_apply_eq, htable, if_neg h]
    · rw [htake]

/-- A step puts the statements of the plan that it carries out into the log. -/
theorem log_take (host : Host) (step : HostStep planner) :
    (host.take step).log = host.log ++ (step.carried? host).toList.flatMap Plan.statements := by
  obtain ⟨table, name, fingerprint, rfl⟩ | ⟨-, h⟩ := take_cases host step
  · exact (List.append_nil _).symm
  · obtain ⟨plan, -, -, hcarried, htake⟩ | ⟨hcarried, htake⟩ := h
    · rw [htake, hcarried, Option.toList_some, List.flatMap_singleton]
      rfl
    · rw [htake, hcarried, Option.toList_none, List.flatMap_nil, List.append_nil]

/-! ### Runs -/

theorem run_cons (host : Host) (step : HostStep planner) (steps : List (HostStep planner)) :
    host.run (step :: steps) = (host.take step).run steps := rfl

/-- A run keeps the names that are not owned, as they were last seeded. -/
theorem find?_run (host : Host) (steps : List (HostStep planner)) (table : TableRef)
    {name : String} (hforeign : planner.namer.owns name = false) :
    ((host.run steps).tables table).find? name =
      (HostStep.lastSeeded? table name steps).or ((host.tables table).find? name) := by
  induction steps generalizing host with
  | nil => exact Option.none_or.symm
  | cons step steps ih =>
    -- The steps that follow may seed the name again, and then what this one does is lost.
    rw [run_cons, ih, find?_take host step table hforeign, HostStep.lastSeeded?, Option.or_assoc]

/-- The log of a run is that of the plans carried out. -/
theorem log_run (host : Host) (steps : List (HostStep planner)) :
    (host.run steps).log = host.log ++ (host.carried steps).flatMap Plan.statements := by
  induction steps generalizing host with
  | nil => exact (List.append_nil _).symm
  | cons step steps ih =>
    rw [run_cons, ih, log_take, carried, List.flatMap_append, List.append_assoc]

/-- **What every run leaves alone.** A constraint whose name the planner does not own is
as it was last seeded; a next step, whatever it is, changes no table but its own; the
log has grown by the statements of the plans carried out, in order; and a migration
that fails changes nothing. -/
theorem run_frame (host : Host) (steps : List (HostStep planner)) :
    let now := host.run steps
    (∀ table name, planner.namer.owns name = false →
      (now.tables table).find? name =
        (HostStep.lastSeeded? table name steps).or ((host.tables table).find? name)) ∧
    (∀ (step : HostStep planner) (other : TableRef), other ≠ step.table →
      (now.take step).tables other = now.tables other) ∧
    now.log = host.log ++ (host.carried steps).flatMap Plan.statements ∧
    ∀ table rules error, (now.migrate planner table rules).1 = .error error →
      (now.migrate planner table rules).2 = now :=
  ⟨fun table _ hforeign => find?_run host steps table hforeign,
    fun step _ hother => tables_take_of_ne _ step hother, log_run host steps,
    fun _ _ _ herror => migrate_of_error herror⟩

end Host

end

namespace Host

/-- A check on the ISBN that somebody else looks after stays as it was seeded last, also
when a plan is carried out that was made before. -/
theorem isbnCheck_kept : ∃ (plan : Plan) (made : Planner.postgres.Makes plan),
    Planner.postgres.namer.owns "books_isbn_check" = false ∧
      ((shelf.run [.seed ⟨none, "books"⟩ "books_isbn_check" (some "0011"),
        .migrate ⟨none, "books"⟩ [monthRule], .seed ⟨none, "books"⟩ "books_isbn_check" none,
        .carryOut plan made]).tables ⟨none, "books"⟩).find? "books_isbn_check" = some none := by
  have hplan : shelf.plan .postgres ⟨none, "books"⟩ [] = .ok _ := rfl
  have made : Planner.postgres.Makes _ := ⟨_, _, _, hplan⟩
  have hforeign : Planner.postgres.namer.owns "books_isbn_check" = false := by decide
  exact ⟨_, made, hforeign,
    (run_frame shelf [.seed ⟨none, "books"⟩ "books_isbn_check" (some "0011"),
      .migrate ⟨none, "books"⟩ [monthRule], .seed ⟨none, "books"⟩ "books_isbn_check" none,
      .carryOut _ made]).1 ⟨none, "books"⟩ "books_isbn_check" hforeign⟩

end Host

end ColumnChecks
