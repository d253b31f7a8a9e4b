import ColumnChecks.Proofs.Plan.Desired
import ColumnChecks.Proofs.Plan.Steps

/-!
# The effect of a plan, name by name

A plan is a list of steps in an order, but what it does can be said of each name
on its own. `ColumnChecks.Planner.drops` says whether a plan drops a name and
`ColumnChecks.Planner.added?` which fingerprint it adds under it; both look at the
rule that asks for the name and at what is there, and at nothing else. Since all
drops come first, a name ends up with what it had before unless that was dropped,
and otherwise with what is added (`ColumnChecks.Planner.find?_applyTo`). This holds
whatever the plan is applied to, be it the constraints it was made for or others.
-/

namespace ColumnChecks

theorem Planner.mem_sortByName {action : Action} {actions : List Action} :
    action ∈ sortByName actions ↔ action ∈ actions :=
  List.mem_mergeSort

variable [Pattern.SizeTest]

namespace Finding

/-- The step that a finding adds a constraint with. -/
def addition? : Finding → Option Action
  | .added action | .replaced _ action => some action
  | _ => none

/-- The step that a finding drops a constraint with. -/
def removal? : Finding → Option Action
  | .replaced removal _ => some removal
  | _ => none

end Finding

namespace Planner

variable {planner : Planner} {table : Sql.TableRef} {present : Present} {name : String}
  {rule : Rule}

/-! ### Findings -/

theorem finding_of_error {error : UnsupportedRule}
    (h : rule.compile planner.dialect = .error error) :
    planner.finding table present name rule = .rejected ⟨name, rule, error⟩ := by
  rw [finding, h]

/-- What is found for a rule that compiles depends on what is there. -/
theorem finding_of_ok {compiled : CompiledRule} (h : rule.compile planner.dialect = .ok compiled) :
    planner.finding table present name rule =
      match present.find? name with
      | none => .added (addAction table name rule compiled)
      | some none => .kept
      | some (some recorded) =>
        if recorded = compiled.fingerprint then .kept
        else .replaced (dropAction table name) (addAction table name rule compiled) := by
  unfold finding
  exact h ▸ rfl

/-- A finding adds under the name it is about. -/
theorem addition?_eq_some {action : Action}
    (h : (planner.finding table present name rule).addition? = some action) :
    ∃ compiled, rule.compile planner.dialect = .ok compiled ∧
      action = addAction table name rule compiled := by
  cases hc : rule.compile planner.dialect with
  | error error =>
    rw [finding_of_error hc] at h
    cases h
  | ok compiled =>
    refine ⟨compiled, rfl, ?_⟩
    rw [finding_of_ok hc] at h
    split at h
    · cases h
      rfl
    · cases h
    · split_ifs at h
      · cases h
      · cases h
        rfl

theorem removal?_eq_some {action : Action}
    (h : (planner.finding table present name rule).removal? = some action) :
    action = dropAction table name := by
  cases hc : rule.compile planner.dialect with
  | error error =>
    rw [finding_of_error hc] at h
    cases h
  | ok compiled =>
    rw [finding_of_ok hc] at h
    split at h
    · cases h
    · cases h
    · split_ifs at h
      · cases h
      · cases h
        rfl

/-! ### What a plan does to a name -/

/-- What a plan finds for a name, if a rule asks for it. -/
def finding? (planner : Planner) (table : Sql.TableRef) (rules : List Rule) (present : Present)
    (name : String) : Option Finding :=
  (planner.wanted? table rules name).map (planner.finding table present name)

/-- The fingerprint that a plan adds under a name. -/
def added? (planner : Planner) (table : Sql.TableRef) (rules : List Rule) (present : Present)
    (name : String) : Option String :=
  ((planner.finding? table rules present name).bind Finding.addition?).bind Action.fingerprint?

/-- Whether a plan drops a name. -/
def drops (planner : Planner) (table : Sql.TableRef) (rules : List Rule) (present : Present)
    (name : String) : Bool :=
  match planner.finding? table rules present name with
  | some found => found.removal?.isSome
  | none => planner.namer.owns name && present.contains name

/-! ### The steps of a plan -/

variable {desired : Desired} {action : Action}

/-- The findings of a plan. -/
def findings (planner : Planner) (table : Sql.TableRef) (desired : Desired) (present : Present) :
    List Finding :=
  desired.toList.map fun entry => planner.finding table present entry.1 entry.2

/-- The drops of a plan. -/
def removals (planner : Planner) (table : Sql.TableRef) (desired : Desired) (present : Present) :
    List Action :=
  sortByName ((planner.findings table desired present).filterMap Finding.removal? ++
    (planner.obsolete desired present).map (dropAction table))

/-- The adds of a plan. -/
def additions (planner : Planner) (table : Sql.TableRef) (desired : Desired) (present : Present) :
    List Action :=
  sortByName ((planner.findings table desired present).filterMap Finding.addition?)

theorem planDesired_actions :
    (planner.planDesired table desired present).actions =
      planner.removals table desired present ++ planner.additions table desired present :=
  rfl

/-- A finding is what was found for one of the names that rules ask for. -/
theorem exists_mem_findings {Q : Finding → Prop} :
    (∃ found ∈ planner.findings table desired present, Q found) ↔
      ∃ name rule, desired[name]? = some rule ∧ Q (planner.finding table present name rule) := by
  simp only [findings, List.mem_map, Prod.exists, Std.ExtTreeMap.mem_toList_iff_getElem?_eq_some]
  constructor
  · rintro ⟨_, ⟨name, rule, hrule, rfl⟩, h⟩
    exact ⟨name, rule, hrule, h⟩
  · rintro ⟨name, rule, hrule, h⟩
    exact ⟨_, ⟨name, rule, hrule, rfl⟩, h⟩

theorem mem_additions :
    action ∈ planner.additions table desired present ↔
      ∃ name rule, desired[name]? = some rule ∧
        (planner.finding table present name rule).addition? = some action := by
  rw [additions, mem_sortByName, List.mem_filterMap]
  exact exists_mem_findings

theorem mem_removals :
    action ∈ planner.removals table desired present ↔
      (∃ name rule, desired[name]? = some rule ∧
        (planner.finding table present name rule).removal? = some action) ∨
      ∃ name, (planner.namer.owns name = true ∧ desired[name]? = none ∧
        present.find? name ≠ none) ∧ action = dropAction table name := by
  rw [removals, mem_sortByName, List.mem_append, List.mem_filterMap]
  refine or_congr exists_mem_findings ?_
  simp only [List.mem_map, obsolete, List.mem_filter, Present.mem_names, Bool.and_eq_true,
    Bool.not_eq_true', Std.ExtTreeMap.contains_eq_isSome_getElem?, Option.isSome_eq_false_iff,
    Option.isNone_iff_eq_none]
  constructor
  · rintro ⟨name, ⟨hpresent, howns, hfree⟩, rfl⟩
    exact ⟨name, ⟨howns, hfree, hpresent⟩, rfl⟩
  · rintro ⟨name, ⟨howns, hfree, hpresent⟩, rfl⟩
    exact ⟨name, ⟨hpresent, howns, hfree⟩, rfl⟩

theorem isAdd_of_mem_removals (h : action ∈ planner.removals table desired present) :
    action.isAdd = false := by
  rcases mem_removals.1 h with ⟨name, rule, -, hremoval⟩ | ⟨name, -, rfl⟩
  · rw [removal?_eq_some hremoval]
    rfl
  · rfl

theorem isAdd_of_mem_additions (h : action ∈ planner.additions table desired present) :
    action.isAdd = true := by
  obtain ⟨name, rule, -, hadd⟩ := mem_additions.1 h
  obtain ⟨compiled, -, rfl⟩ := addition?_eq_some hadd
  rfl

theorem name_mem_removals {rules : List Rule}
    (hdesired : planner.desired table rules = .ok desired) :
    name ∈ (planner.removals table desired present).map Action.name ↔
      planner.drops table rules present name = true := by
  simp only [List.mem_map, mem_removals, getElem?_desired hdesired]
  constructor
  · rintro ⟨action, ⟨other, rule, hrule, hremoval⟩ | ⟨other, ⟨howns, hfree, hpresent⟩, rfl⟩, rfl⟩
    · rw [removal?_eq_some hremoval, dropAction, Action.name_drop, drops, finding?, hrule,
        Option.map_some]
      simp only [hremoval, Option.isSome_some]
    · rw [dropAction, Action.name_drop, drops, finding?, hfree, Option.map_none]
      simp only [howns, Present.contains_eq_isSome, Bool.true_and]
      exact Option.isSome_iff_ne_none.2 hpresent
  · intro h
    unfold drops finding? at h
    cases hrule : planner.wanted? table rules name with
    | none =>
      rw [hrule, Option.map_none] at h
      simp only [Present.contains_eq_isSome, Bool.and_eq_true, Option.isSome_iff_ne_none] at h
      exact ⟨_, Or.inr ⟨name, ⟨h.1, hrule, h.2⟩, rfl⟩, rfl⟩
    | some rule =>
      rw [hrule, Option.map_some] at h
      obtain ⟨action, haction⟩ := Option.isSome_iff_exists.1 h
      refine ⟨action, Or.inl ⟨name, rule, hrule, haction⟩, ?_⟩
      rw [removal?_eq_some haction, dropAction, Action.name_drop]

theorem find?_additions {rules : List Rule}
    (hdesired : planner.desired table rules = .ok desired) :
    ((planner.additions table desired present).find? fun a => a.name == name).map
        Action.fingerprint? =
      (planner.added? table rules present name).map some := by
  cases hfind : (planner.additions table desired present).find? fun a => a.name == name with
  | some action =>
    obtain ⟨other, rule, hrule, hadd⟩ := mem_additions.1 (List.mem_of_find?_eq_some hfind)
    obtain ⟨compiled, -, rfl⟩ := addition?_eq_some hadd
    have hname : other = name := by simpa [addAction] using List.find?_some hfind
    subst hname
    rw [getElem?_desired hdesired] at hrule
    simp [added?, finding?, hrule, hadd, addAction, Action.fingerprint?]
  | none =>
    cases hadded : planner.added? table rules present name with
    | none => rfl
    | some fingerprint =>
      obtain ⟨action, haction, -⟩ := Option.bind_eq_some_iff.1 hadded
      obtain ⟨found, hfound, hadd⟩ := Option.bind_eq_some_iff.1 haction
      obtain ⟨rule, hrule, rfl⟩ := Option.map_eq_some_iff.1 hfound
      rw [← getElem?_desired hdesired] at hrule
      have hmem := mem_additions.2 ⟨name, rule, hrule, hadd⟩
      obtain ⟨compiled, -, rfl⟩ := addition?_eq_some hadd
      exact absurd (List.find?_eq_none.1 hfind _ hmem) (by simp [addAction])

theorem name_mem_additions {rules : List Rule}
    (hdesired : planner.desired table rules = .ok desired) :
    name ∈ (planner.additions table desired present).map Action.name ↔
      (planner.added? table rules present name).isSome = true := by
  have hfind : ((planner.additions table desired present).find? fun a => a.name == name).isSome =
      (planner.added? table rules present name).isSome := by
    simpa using congrArg Option.isSome (find?_additions hdesired)
  rw [← hfind, List.find?_isSome, List.mem_map]
  simp only [beq_iff_eq]

/-! ### Plans as a whole -/

theorem exists_desired {rules : List Rule} {plan : Plan}
    (h : planner.plan table rules present = .ok plan) :
    ∃ desired, planner.desired table rules = .ok desired ∧
      plan = planner.planDesired table desired present := by
  unfold Planner.plan at h
  obtain ⟨desired, hdesired, h⟩ := exists_of_bind_eq_ok h
  cases h
  exact ⟨desired, hdesired, rfl⟩

/-- **What a plan leaves under a name**: what was there unless it is dropped, and
otherwise what is added. -/
theorem find?_applyTo {rules : List Rule} {plan : Plan}
    (h : planner.plan table rules present = .ok plan) (current : Present) (name : String) :
    (plan.applyTo current).find? name =
      (if planner.drops table rules present name then none else current.find? name).or
        ((planner.added? table rules present name).map some) := by
  obtain ⟨desired, hdesired, rfl⟩ := exists_desired h
  rw [Plan.applyTo, planDesired_actions, List.foldl_append,
    find?_foldl_adds fun _ => isAdd_of_mem_additions,
    find?_foldl_drops fun _ => isAdd_of_mem_removals, find?_additions hdesired]
  simp only [name_mem_removals hdesired]

end Planner

end ColumnChecks
