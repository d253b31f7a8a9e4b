import ColumnChecks.Proofs.Plan.Rollout

/-!
# Systems that share a table

Several systems may look after constraints of one table, each with a planner of its own. They know
nothing of each other: a system reads the constraints and plans, and some time later carries its
plan out, while the others do the same (`ColumnChecks.Shared`).

What keeps them apart is the prefixes of their names. No name is owned by two systems just if the
prefix of neither, with the underscore behind it, is a beginning of that of the other
(`ColumnChecks.Namer.separate_iff`); for prefixes alone this would not be enough to ask, and
`app` and `app_v2` are not separate. A plan looks at owned names only
(`ColumnChecks.Planner.plan_congr`) and changes owned names only, so a step of one system cannot be
noticed by another one. Hence **each system gets what it would get alone**
(`ColumnChecks.Shared.run_separate`), whatever the order of the steps and however stale the plans.
-/

namespace ColumnChecks

open Sql (TableRef)

/-! ### Separate prefixes -/

namespace Text

theorem after?_eq_some_iff {before cs rest : List Char} :
    after? before cs = some rest ↔ cs = before ++ rest := by
  refine ⟨fun h => ?_, fun h => by rw [h, after?_append]⟩
  induction before generalizing cs with
  | nil => exact Option.some.inj h
  | cons c before ih =>
    cases cs with
    | nil => cases h
    | cons d cs =>
      rw [after?] at h
      split_ifs at h with hcd
      rw [hcd, ih h, List.cons_append]

end Text

namespace Namer

variable {namer other : Namer} {name : String}

/-- What all owned names begin with. -/
def mark (namer : Namer) : List Char := namer.namePrefix ++ ['_']

theorem owns_iff : namer.owns name = true ↔ namer.mark <+: name.toList := by
  unfold owns
  constructor
  · intro h
    split at h
    · next rest hrest => exact ⟨rest, by rw [mark, Text.after?_eq_some_iff.1 hrest]; simp⟩
    · cases h
  · rintro ⟨rest, hrest⟩
    rw [mark, List.append_assoc] at hrest
    rw [Text.after?_eq_some_iff.2 hrest.symm]
    rfl

/-- **Two namings are separate** if what the names of one begin with never begins what the names of
the other begin with. -/
def Separate (namer other : Namer) : Prop :=
  ¬ namer.mark <+: other.mark ∧ ¬ other.mark <+: namer.mark

instance : Decidable (Separate namer other) := inferInstanceAs (Decidable (_ ∧ _))

/-- **Namings are separate just if they own no name together.** -/
theorem separate_iff :
    namer.Separate other ↔ ∀ name, namer.owns name = true → other.owns name = false := by
  constructor
  · rintro ⟨hleft, hright⟩ name howns
    refine Bool.eq_false_iff.2 fun hother => ?_
    rcases List.prefix_or_prefix_of_prefix (owns_iff.1 howns) (owns_iff.1 hother) with h | h
    · exact hleft h
    · exact hright h
  · -- If one mark began the other, both would own the longer one.
    intro h
    have howns : ∀ {n : Namer} {cs : List Char}, n.mark <+: cs → n.owns (String.ofList cs) = true :=
      fun hcs => owns_iff.2 (by rwa [String.toList_ofList])
    refine ⟨fun hmark => ?_, fun hmark => ?_⟩
    · exact Bool.false_ne_true ((h _ (howns hmark)).symm.trans (howns List.prefix_rfl))
    · exact Bool.false_ne_true ((h _ (howns List.prefix_rfl)).symm.trans (howns hmark))

end Namer

/-! ### What a plan looks at -/

/-- Two sets of constraints agree on what a naming owns. -/
def Namer.Agrees (namer : Namer) (present other : Present) : Prop :=
  ∀ name, namer.owns name = true → present.find? name = other.find? name

/-- The names that a table has and a test asks for. -/
theorem Present.names_filter_congr {present other : Present} {p : String → Bool}
    (h : ∀ name, p name = true → present.find? name = other.find? name) :
    present.names.filter p = other.names.filter p := by
  rw [Present.names, Present.names, ← Std.ExtTreeMap.keys_filter_key,
    ← Std.ExtTreeMap.keys_filter_key]
  congr 1
  refine Std.ExtTreeMap.ext_getElem? fun name => ?_
  rw [Std.ExtTreeMap.getElem?_filter', Std.ExtTreeMap.getElem?_filter']
  -- Under a name that is not asked for, nothing is left of either.
  cases hp : p name with
  | true => exact congrArg _ (h name hp)
  | false =>
    have hnone : ∀ found : Option (Option String), found.filter (fun _ => false) = none :=
      fun found => by cases found <;> rfl
    rw [hnone, hnone]

section

variable [Pattern.SizeTest]

namespace Planner

variable {planner : Planner} {table : TableRef} {rules : List Rule} {present other : Present}
  {desired : Desired} {plan : Plan}

theorem finding_congr {name : String} (h : present.find? name = other.find? name) (rule : Rule) :
    planner.finding table present name rule = planner.finding table other name rule := by
  rw [finding, finding, h]

theorem obsolete_congr (h : planner.namer.Agrees present other) :
    planner.obsolete desired present = planner.obsolete desired other :=
  Present.names_filter_congr fun name hname => h name (Bool.and_eq_true_iff.1 hname).1

theorem findings_congr (h : planner.namer.Agrees present other)
    (hdesired : planner.desired table rules = .ok desired) :
    planner.findings table desired present = planner.findings table desired other := by
  refine List.map_congr_left fun entry hentry => ?_
  rw [Std.ExtTreeMap.mem_toList_iff_getElem?_eq_some, getElem?_desired hdesired] at hentry
  exact finding_congr (h entry.1 (owns_of_wanted? hentry)) entry.2

/-- **A plan looks at owned names only.** -/
theorem plan_congr (h : planner.namer.Agrees present other) :
    planner.plan table rules present = planner.plan table rules other := by
  unfold Planner.plan
  cases hdesired : planner.desired table rules with
  | error error => rfl
  | ok desired =>
    have hplan : planner.planDesired table desired present =
        planner.planDesired table desired other := by
      have hfindings := findings_congr h hdesired
      have hobsolete : planner.obsolete desired present = planner.obsolete desired other :=
        obsolete_congr h
      unfold findings at hfindings
      unfold planDesired
      rw [hfindings, hobsolete]
    exact congrArg Except.ok hplan

/-- What a plan leaves under a name is up to what was there. -/
theorem applyTo_congr (made : planner.Makes plan) {name : String}
    (h : present.find? name = other.find? name) :
    (plan.applyTo present).find? name = (plan.applyTo other).find? name := by
  obtain ⟨table, rules, planned, hplan⟩ := made
  rw [find?_applyTo hplan, find?_applyTo hplan, h]

end Planner

/-! ### Systems at work -/

/-- What a system does to the table. -/
inductive SystemStep where
  /-- It reads the constraints and plans for some rules. -/
  | readAndPlan (rules : List Rule)
  /-- It carries out the plan that it has in hand. -/
  | carryOut

/-- A host on which several systems look after one table, each with the plan in its hand. -/
structure Shared (System : Type) where
  host : Host
  inHand : System → Option Plan

namespace Shared

variable {System : Type}

/-- No system has a plan. -/
def start (host : Host) : Shared System := ⟨host, fun _ => none⟩

variable [DecidableEq System]

/-- A system does its step. Rules that cannot be planned for leave it without a plan. -/
def take (planner : System → Planner) (table : TableRef) (shared : Shared System) :
    System × SystemStep → Shared System
  | (system, .readAndPlan rules) =>
    let plan? := (shared.host.plan (planner system) table rules).toOption
    { shared with inHand := Function.update shared.inHand system plan? }
  | (system, .carryOut) =>
    match shared.inHand system with
    | some plan =>
      { shared with host := if plan.isEmpty then shared.host else shared.host.apply plan }
    | none => shared

/-- Systems do their steps, in the order of the list. -/
def run (planner : System → Planner) (table : TableRef) (shared : Shared System)
    (steps : List (System × SystemStep)) : Shared System :=
  steps.foldl (take planner table) shared

/-- The steps of a single system. -/
def stepsOf (system : System) (steps : List (System × SystemStep)) : List (System × SystemStep) :=
  steps.filter fun step => step.1 = system

/-- The steps with which a system migrates the table to one list of rules after the other. -/
def migrations (system : System) (lists : List (List Rule)) : List (System × SystemStep) :=
  lists.flatMap fun rules => [(system, .readAndPlan rules), (system, .carryOut)]

variable {planner : System → Planner} {table : TableRef} {shared alone : Shared System}
  {system other : System} {step : SystemStep} {name : String}

/-- The constraints of the table. -/
def present (table : TableRef) (shared : Shared System) : Present := shared.host.tables table

/-! ### One step -/

/-- Every plan in hand was made by the planner of its system, for the table. -/
def Made (planner : System → Planner) (table : TableRef) (shared : Shared System) : Prop :=
  ∀ system plan, shared.inHand system = some plan →
    plan.table = table ∧ (planner system).Makes plan

omit [DecidableEq System] in
theorem made_start (host : Host) : Made planner table (start host : Shared System) := nofun

/-- **What a step can do**: it leaves the host alone and puts a plan in the hand of its system, or
it leaves all hands alone and does to the table what the plan in the hand of its system says. -/
theorem take_cases (hmade : Made planner table shared) (system : System) (step : SystemStep) :
    (∃ rules, step = .readAndPlan rules ∧
      (shared.take planner table (system, step)).present table = shared.present table ∧
      (shared.take planner table (system, step)).inHand = Function.update shared.inHand system
        ((planner system).plan table rules (shared.present table)).toOption) ∨
    step = .carryOut ∧
      (shared.take planner table (system, step)).present table =
        ((shared.inHand system).map fun plan => plan.applyTo (shared.present table)).getD
          (shared.present table) ∧
      (shared.take planner table (system, step)).inHand = shared.inHand := by
  cases step with
  | readAndPlan rules => exact Or.inl ⟨rules, rfl, rfl, rfl⟩
  | carryOut =>
    refine Or.inr ⟨rfl, ?_⟩
    simp only [take]
    cases hplan : shared.inHand system with
    | none => exact ⟨rfl, rfl⟩
    | some plan => exact ⟨Host.tables_apply_unless_empty (hmade system plan hplan).1, rfl⟩

theorem Made.take (hmade : Made planner table shared) (system : System) (step : SystemStep) :
    Made planner table (shared.take planner table (system, step)) := by
  intro owner plan hplan
  obtain ⟨rules, -, -, hhand⟩ | ⟨-, -, hhand⟩ := take_cases hmade system step
  · rw [hhand, Function.update_apply] at hplan
    split_ifs at hplan with howner
    · subst howner
      cases hmakes : (planner owner).plan table rules (shared.present table) with
      | error error => rw [hmakes] at hplan; cases hplan
      | ok found =>
        rw [hmakes] at hplan
        cases hplan
        have hhost : shared.host.plan (planner owner) table rules = .ok plan := hmakes
        exact ⟨Host.plan_table hhost, table, rules, _, hmakes⟩
    · exact hmade owner plan hplan
  · rw [hhand] at hplan
    exact hmade owner plan hplan

/-- **A step changes owned names only.** -/
theorem find?_take (hmade : Made planner table shared) (system : System) (step : SystemStep)
    (hforeign : (planner system).namer.owns name = false) :
    ((shared.take planner table (system, step)).present table).find? name =
      (shared.present table).find? name := by
  obtain ⟨rules, -, hpresent, -⟩ | ⟨-, hpresent, -⟩ := take_cases hmade system step
  · rw [hpresent]
  · rw [hpresent]
    cases hplan : shared.inHand system with
    | none => rfl
    | some plan =>
      obtain ⟨-, _, rules, planned, hmakes⟩ := hmade system plan hplan
      exact Planner.find?_applyTo_of_foreign hmakes hforeign

/-! ### A system among others and alone -/

/-- **A system cannot tell two situations apart**: it has the same plan in hand, and the constraints
that it owns are the same. -/
structure Alike (planner : System → Planner) (table : TableRef) (system : System)
    (shared alone : Shared System) : Prop where
  inHand_eq : shared.inHand system = alone.inHand system
  agrees : (planner system).namer.Agrees (shared.present table) (alone.present table)

/-- A step of the system itself. -/
theorem Alike.take_self (halike : Alike planner table system shared alone)
    (hmade : Made planner table shared) (hmade' : Made planner table alone) (step : SystemStep) :
    Alike planner table system (shared.take planner table (system, step))
      (alone.take planner table (system, step)) := by
  obtain ⟨hinHand, hagrees⟩ := halike
  obtain ⟨rules, rfl, hpresent, hhand⟩ | ⟨rfl, hpresent, hhand⟩ := take_cases hmade system step
  · obtain ⟨rules', hrules, hpresent', hhand'⟩ | ⟨hstep, -⟩ :=
      take_cases hmade' system (.readAndPlan rules)
    · obtain rfl := SystemStep.readAndPlan.inj hrules
      refine ⟨?_, by rwa [hpresent, hpresent']⟩
      rw [hhand, hhand', Function.update_self, Function.update_self, Planner.plan_congr hagrees]
    · cases hstep
  · obtain ⟨rules', hrules, -⟩ | ⟨-, hpresent', hhand'⟩ := take_cases hmade' system .carryOut
    · cases hrules
    · refine ⟨by rw [hhand, hhand', hinHand], ?_⟩
      rw [hpresent, hpresent', ← hinHand]
      cases hplan : shared.inHand system with
      | none => exact hagrees
      | some plan =>
        exact fun name howns =>
          Planner.applyTo_congr (hmade system plan hplan).2 (hagrees name howns)

/-- A step of another system is not noticed. -/
theorem Alike.take_other (halike : Alike planner table system shared alone)
    (hmade : Made planner table shared) (hne : system ≠ other)
    (hseparate : (planner system).namer.Separate (planner other).namer) (step : SystemStep) :
    Alike planner table system (shared.take planner table (other, step)) alone := by
  refine ⟨?_, fun name howns => ?_⟩
  · rw [← halike.inHand_eq]
    obtain ⟨rules, -, -, hhand⟩ | ⟨-, -, hhand⟩ := take_cases hmade other step
    · rw [hhand, Function.update_of_ne hne]
    · rw [hhand]
  · rw [find?_take hmade other step (Namer.separate_iff.1 hseparate name howns)]
    exact halike.agrees name howns

/-! ### Runs -/

theorem run_cons (shared : Shared System) (step : System × SystemStep)
    (steps : List (System × SystemStep)) :
    shared.run planner table (step :: steps) =
      (shared.take planner table step).run planner table steps :=
  rfl

/-- What no system owns stays as it was. -/
theorem find?_run (hmade : Made planner table shared) (steps : List (System × SystemStep))
    (hforeign : ∀ system, (planner system).namer.owns name = false) :
    ((shared.run planner table steps).present table).find? name =
      (shared.present table).find? name := by
  induction steps generalizing shared with
  | nil => rfl
  | cons step steps ih =>
    rw [run_cons, ih (hmade.take step.1 step.2), find?_take hmade step.1 step.2 (hforeign step.1)]

/-- A system among others and the system alone stay alike. -/
theorem Alike.run
    (hseparate : ∀ other, system ≠ other → (planner system).namer.Separate (planner other).namer)
    (halike : Alike planner table system shared alone) (hmade : Made planner table shared)
    (hmade' : Made planner table alone) (steps : List (System × SystemStep)) :
    Alike planner table system (shared.run planner table steps)
      (alone.run planner table (stepsOf system steps)) := by
  induction steps generalizing shared alone with
  | nil => exact halike
  | cons step steps ih =>
    obtain ⟨other, step⟩ := step
    rw [run_cons, stepsOf, List.filter_cons]
    -- Alone, the system skips the steps of the others.
    by_cases hother : other = system
    · subst hother
      rw [if_pos (decide_eq_true rfl), run_cons]
      exact ih (halike.take_self hmade hmade' step) (hmade.take other step) (hmade'.take other step)
    · rw [if_neg (by simpa using hother)]
      have hne : system ≠ other := fun h => hother h.symm
      exact ih (halike.take_other hmade hne (hseparate other hne) step) (hmade.take other step)
        hmade'

/-- **A system that is left alone migrates the table**, to one list of rules after the other. -/
theorem host_run_migrations (shared : Shared System) (system : System) (lists : List (List Rule)) :
    (shared.run planner table (migrations system lists)).host =
      lists.foldl (fun host rules => (host.migrate (planner system) table rules).2)
        shared.host := by
  induction lists generalizing shared with
  | nil => rfl
  | cons rules lists ih =>
    rw [migrations, List.flatMap_cons, List.cons_append, List.singleton_append, run_cons, run_cons,
      ← migrations, ih, List.foldl_cons]
    congr 1
    rw [Host.migrate_eq]
    simp only [take, Function.update_self]
    cases shared.host.plan (planner system) table rules <;> rfl

/-- **Systems with separate prefixes do not interfere.** Whatever the order of their steps is, a
system ends up with the constraints that its own steps alone would have given it; these are the
constraints of its migrations one after the other, if that is what its steps are. Names that no
system owns are as they were. -/
theorem run_separate (hseparate : ∀ system other, system ≠ other →
      (planner system).namer.Separate (planner other).namer)
    (host : Host) (steps : List (System × SystemStep)) :
    let after := ((start host).run planner table steps).host.tables table
    (∀ system name, (planner system).namer.owns name = true →
      after.find? name =
          (((start host).run planner table (stepsOf system steps)).host.tables table).find? name ∧
        ∀ lists, stepsOf system steps = migrations system lists →
          after.find? name = ((lists.foldl (fun host rules =>
            (host.migrate (planner system) table rules).2) host).tables table).find? name) ∧
      ∀ name, (∀ system, (planner system).namer.owns name = false) →
        after.find? name = (host.tables table).find? name := by
  intro after
  have hmade : Made planner table (start host : Shared System) := made_start host
  refine ⟨fun system name howns => ?_, fun name hforeign => find?_run hmade steps hforeign⟩
  have halike : Alike planner table system (start host : Shared System) (start host) :=
    ⟨rfl, fun _ _ => rfl⟩
  have halone := (halike.run (hseparate system) hmade hmade steps).agrees name howns
  refine ⟨halone, fun lists hlists => ?_⟩
  rw [hlists, present, present, host_run_migrations] at halone
  exact halone

end Shared

end

namespace Shared

/-- Books are also looked after by the lending desk, under a prefix of its own. -/
def lendingDesk : Planner where
  dialect := .postgres
  namer := {
    namePrefix := ['l', 'e', 'n', 'd']
    maxLength := Sql.postgresIdentifierLength
    nonempty := by decide
    normal := List.all_eq_true.1 (rfl : ['l', 'e', 'n', 'd'].all isNormalChar = true)
    fits := by decide }

/-- The planner of the lending desk, and the one of everybody else. -/
def plannerOfBooks (lending : Bool) : Planner := if lending then lendingDesk else .postgres

/-- The lending desk has planned before the books are migrated and carries its plan out after that.
Of the leftover constraint on the shelf nobody sees anything but the migration. -/
theorem shelf_run_separate :
    (plannerOfBooks false).namer.Separate (plannerOfBooks true).namer ∧
      (plannerOfBooks true).namer.Separate (plannerOfBooks false).namer ∧
      ((((start Host.shelf).run plannerOfBooks ⟨none, "books"⟩
          [(true, .readAndPlan [Host.monthRule]), (false, .readAndPlan [Host.monthRule]),
            (false, .carryOut), (true, .carryOut)]).host.tables ⟨none, "books"⟩).find?
          "rein_books_year_rng" =
        ((Host.shelf.migrate .postgres ⟨none, "books"⟩ [Host.monthRule]).2.tables
          ⟨none, "books"⟩).find? "rein_books_year_rng") := by
  have hleft : (plannerOfBooks false).namer.Separate (plannerOfBooks true).namer := by decide
  have hright : (plannerOfBooks true).namer.Separate (plannerOfBooks false).namer := by decide
  have hseparate : ∀ system other, system ≠ other →
      (plannerOfBooks system).namer.Separate (plannerOfBooks other).namer := by
    intro system other hne
    cases system <;> cases other
    · exact absurd rfl hne
    · exact hleft
    · exact hright
    · exact absurd rfl hne
  have howns : (plannerOfBooks false).namer.owns "rein_books_year_rng" = true := by decide
  exact ⟨hleft, hright, ((run_separate hseparate Host.shelf _).1 false _ howns).2
    [[Host.monthRule]] rfl⟩

end Shared

end ColumnChecks
