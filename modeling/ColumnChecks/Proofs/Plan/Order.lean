import ColumnChecks.Rule.Builder
import ColumnChecks.Proofs.Naming.Characters
import ColumnChecks.Proofs.Plan.Effect

/-!
# The order of the steps

A plan is a list of steps, and its statements are only right in their order: a constraint that
is replaced has to be dropped before it is added again, and no name may be added or dropped
twice. The drops come from two places, the rules whose constraints have changed and the
constraints that no rule asks for, and are put in order together.

The findings are about different names, and so is every part of them that keeps the name
(`ColumnChecks.Planner.KeepsName.nodup`). As no rule asks for what is obsolete, the steps of
either kind have different names, and sorting makes this a **strict order**
(`ColumnChecks.Planner.pairwise_sortByName`). A name that occurs among the drops and among the
adds is one whose constraint is **replaced** (`ColumnChecks.Planner.Replaces`), and
`ColumnChecks.Planner.plan_order` puts all of this together.
-/

namespace ColumnChecks

open Sql (TableRef)

namespace Planner

/-! ### Sorted steps -/

theorem names_sortByName_perm (actions : List Action) :
    ((sortByName actions).map Action.name).Perm (actions.map Action.name) :=
  (List.mergeSort_perm actions _).map Action.name

theorem nodup_names_sortByName {actions : List Action} :
    ((sortByName actions).map Action.name).Nodup ↔ (actions.map Action.name).Nodup :=
  (names_sortByName_perm actions).nodup_iff

/-- **Steps with different names** are sorted into a strict order. -/
theorem pairwise_sortByName {actions : List Action} (h : (actions.map Action.name).Nodup) :
    ((sortByName actions).map Action.name).Pairwise (· < ·) := by
  have htrans : ∀ a b c : Action, decide (a.name ≤ b.name) = true →
      decide (b.name ≤ c.name) = true → decide (a.name ≤ c.name) = true := by
    intro a b c hab hbc
    rw [decide_eq_true_eq] at *
    exact String.le_trans hab hbc
  have htotal : ∀ a b : Action,
      (decide (a.name ≤ b.name) || decide (b.name ≤ a.name)) = true := by
    intro a b
    rw [Bool.or_eq_true, decide_eq_true_eq, decide_eq_true_eq]
    exact String.le_total a.name b.name
  have hsorted : (sortByName actions).Pairwise fun a b => decide (a.name ≤ b.name) = true :=
    List.pairwise_mergeSort htrans htotal actions
  have hdistinct : ((sortByName actions).map Action.name).Nodup := nodup_names_sortByName.2 h
  rw [List.Nodup, List.pairwise_map] at hdistinct
  rw [List.pairwise_map]
  refine (hsorted.and hdistinct).imp ?_
  rintro a b ⟨hle, hne⟩
  exact Std.lt_of_le_of_ne (of_decide_eq_true hle) hne

end Planner

section

variable [Pattern.SizeTest]

namespace Planner

variable {planner : Planner} {table : TableRef} {rules : List Rule} {present : Present}
  {desired : Desired} {plan : Plan} {name : String} {rule : Rule}

/-! ### Names that occur once -/

section Parts

variable {β : Type} {part? : Finding → Option β} {nameOf : β → String}

/-- A part of a finding has the name that the finding is about. -/
def KeepsName (planner : Planner) (table : TableRef) (present : Present)
    (part? : Finding → Option β) (nameOf : β → String) : Prop :=
  ∀ name rule b, part? (planner.finding table present name rule) = some b → nameOf b = name

/-- **Findings are about different names**, and so are their parts. -/
theorem KeepsName.nodup (h : planner.KeepsName table present part? nameOf) :
    (((planner.findings table desired present).filterMap part?).map nameOf).Nodup := by
  rw [List.Nodup, List.pairwise_map, List.pairwise_filterMap, findings, List.pairwise_map]
  refine Std.ExtTreeMap.distinct_keys_toList.imp ?_
  rintro ⟨name, rule⟩ ⟨name', rule'⟩ hne b hb b' hb' heq
  -- The map has no two entries with one name.
  rw [h name rule b hb, h name' rule' b' hb'] at heq
  exact hne (Std.LawfulEqCmp.compare_eq_iff_eq.2 heq)

theorem KeepsName.mem_iff (h : planner.KeepsName table present part? nameOf) :
    name ∈ ((planner.findings table desired present).filterMap part?).map nameOf ↔
      ∃ rule, desired[name]? = some rule ∧
        (part? (planner.finding table present name rule)).isSome = true := by
  simp only [List.mem_map, List.mem_filterMap, findings, Prod.exists,
    Std.ExtTreeMap.mem_toList_iff_getElem?_eq_some, Option.isSome_iff_exists]
  constructor
  · rintro ⟨b, ⟨_, ⟨name', rule, hrule, rfl⟩, hb⟩, rfl⟩
    rw [h name' rule b hb]
    exact ⟨rule, hrule, b, hb⟩
  · rintro ⟨rule, hrule, b, hb⟩
    exact ⟨b, ⟨_, ⟨name, rule, hrule, rfl⟩, hb⟩, h name rule b hb⟩

end Parts

theorem keepsName_addition? : planner.KeepsName table present Finding.addition? Action.name := by
  intro name rule action h
  obtain ⟨compiled, -, rfl⟩ := addition?_eq_some h
  rfl

theorem keepsName_removal? : planner.KeepsName table present Finding.removal? Action.name := by
  intro name rule action h
  rw [removal?_eq_some h]
  rfl

/-- What is replaced is asked for, and what is obsolete is not. -/
theorem nodup_removed_names :
    (((planner.findings table desired present).filterMap Finding.removal? ++
      (planner.obsolete desired present).map (dropAction table)).map Action.name).Nodup := by
  have hnames : (planner.obsolete desired present).map (Action.name ∘ dropAction table) =
      planner.obsolete desired present := List.map_id _
  rw [List.map_append, List.map_map, hnames, List.nodup_append]
  refine ⟨keepsName_removal?.nodup, Std.ExtTreeMap.nodup_keys.filter _, ?_⟩
  -- The two lists are disjoint: a name that is replaced is the name of a rule.
  rintro name hreplaced other hobsolete rfl
  obtain ⟨rule, hrule, -⟩ := keepsName_removal?.mem_iff.1 hreplaced
  rw [obsolete, List.mem_filter, Std.ExtTreeMap.contains_eq_isSome_getElem?, hrule] at hobsolete
  simp at hobsolete

/-! ### The groups of a plan -/

/-- The drops of a plan come first. -/
theorem drops_planDesired :
    (planner.planDesired table desired present).drops = planner.removals table desired present := by
  have hkept : (planner.removals table desired present).filter (!·.isAdd) =
      planner.removals table desired present :=
    List.filter_eq_self.2 fun action h => by rw [isAdd_of_mem_removals h]; rfl
  have hgone : (planner.additions table desired present).filter (!·.isAdd) = [] :=
    List.filter_eq_nil_iff.2 fun action h => by rw [isAdd_of_mem_additions h]; simp
  rw [Plan.drops, planDesired_actions, List.filter_append, hkept, hgone, List.append_nil]

theorem adds_planDesired :
    (planner.planDesired table desired present).adds = planner.additions table desired present := by
  have hgone : (planner.removals table desired present).filter Action.isAdd = [] :=
    List.filter_eq_nil_iff.2 fun action h => by rw [isAdd_of_mem_removals h]; simp
  have hkept : (planner.additions table desired present).filter Action.isAdd =
      planner.additions table desired present :=
    List.filter_eq_self.2 fun action h => isAdd_of_mem_additions h
  rw [Plan.adds, planDesired_actions, List.filter_append, hgone, hkept, List.nil_append]

/-! ### Which names are dropped and added -/

/-- **A name is replaced** if the rule that asks for it compiles, but its constraint was recorded
with another fingerprint. -/
def Replaces (planner : Planner) (table : TableRef) (rules : List Rule) (present : Present)
    (name : String) : Prop :=
  ∃ rule compiled recorded, planner.wanted? table rules name = some rule ∧
    rule.compile planner.dialect = .ok compiled ∧
    present.find? name = some (some recorded) ∧ recorded ≠ compiled.fingerprint

/-- What is dropped is replaced, or it is managed and no rule asks for it. -/
theorem drops_eq_true_iff : planner.drops table rules present name = true ↔
    planner.Replaces table rules present name ∨ planner.wanted? table rules name = none ∧
      planner.namer.owns name = true ∧ present.contains name = true := by
  unfold drops finding? Replaces
  cases hrule : planner.wanted? table rules name with
  | none => simp
  | some rule =>
    cases hc : rule.compile planner.dialect with
    | error error => simp [finding_of_error hc, hc, Finding.removal?]
    | ok compiled =>
      rcases hp : present.find? name with _ | (_ | recorded)
      · simp [finding_of_ok hc, hp, Finding.removal?]
      · simp [finding_of_ok hc, hp, Finding.removal?]
      · by_cases heq : recorded = compiled.fingerprint
        · simp [finding_of_ok hc, hc, hp, heq, Finding.removal?]
        · simp [finding_of_ok hc, hc, hp, heq, Finding.removal?]

/-- What is added is replaced, or it is free and its rule compiles. -/
theorem isSome_added?_iff : (planner.added? table rules present name).isSome = true ↔
    planner.Replaces table rules present name ∨ present.contains name = false ∧
      ∃ rule compiled, planner.wanted? table rules name = some rule ∧
        rule.compile planner.dialect = .ok compiled := by
  unfold added? finding? Replaces
  rw [Present.contains_eq_isSome]
  cases hrule : planner.wanted? table rules name with
  | none => simp
  | some rule =>
    cases hc : rule.compile planner.dialect with
    | error error => simp [finding_of_error hc, hc, Finding.addition?]
    | ok compiled =>
      rcases hp : present.find? name with _ | (_ | recorded)
      · simp [finding_of_ok hc, hc, hp, Finding.addition?, addAction, Action.fingerprint?]
      · simp [finding_of_ok hc, hc, hp, Finding.addition?]
      · by_cases heq : recorded = compiled.fingerprint
        · simp [finding_of_ok hc, hc, hp, heq, Finding.addition?]
        · simp [finding_of_ok hc, hc, hp, heq, Finding.addition?, addAction, Action.fingerprint?]

/-- A name that no rule asks for is the name of no rule. -/
theorem wanted?_eq_none_iff : planner.wanted? table rules name = none ↔
    ∀ rule ∈ rules, planner.namer.name table.name rule ≠ name := by
  rw [wanted?, List.find?_eq_none]
  simp only [beq_iff_eq]

theorem Replaces.owns (h : planner.Replaces table rules present name) :
    planner.namer.owns name = true := by
  obtain ⟨rule, -, -, hrule, -⟩ := h
  exact owns_of_wanted? hrule

theorem Replaces.contains (h : planner.Replaces table rules present name) :
    present.contains name = true := by
  obtain ⟨-, -, recorded, -, -, hp, -⟩ := h
  rw [Present.contains_eq_isSome, hp]
  rfl

/-- **The order of a plan.** A plan drops before it adds, each group in strictly increasing order
of names. What it drops is there and managed, and is either asked for by no rule or added again;
what it adds is free or has been dropped; and the names that it drops and adds are just those
that are replaced. -/
theorem plan_order (h : planner.plan table rules present = .ok plan) :
    plan.actions = plan.drops ++ plan.adds ∧
      (plan.drops.map Action.name).Pairwise (· < ·) ∧
      (plan.adds.map Action.name).Pairwise (· < ·) ∧
      (∀ name ∈ plan.drops.map Action.name,
        present.contains name = true ∧ planner.namer.owns name = true ∧
          ((∀ rule ∈ rules, planner.namer.name table.name rule ≠ name) ∨
            name ∈ plan.adds.map Action.name)) ∧
      (∀ name ∈ plan.adds.map Action.name,
        present.contains name = false ∨ name ∈ plan.drops.map Action.name) ∧
      ∀ name, name ∈ plan.drops.map Action.name ∧ name ∈ plan.adds.map Action.name ↔
        planner.Replaces table rules present name := by
  obtain ⟨desired, hdesired, rfl⟩ := exists_desired h
  rw [drops_planDesired, adds_planDesired]
  refine ⟨planDesired_actions, pairwise_sortByName nodup_removed_names,
    pairwise_sortByName keepsName_addition?.nodup, ?_⟩
  simp only [name_mem_removals hdesired, name_mem_additions hdesired, drops_eq_true_iff,
    isSome_added?_iff]
  refine ⟨?_, ?_, ?_⟩
  · rintro name (hreplaces | ⟨hnone, howns, hthere⟩)
    · exact ⟨hreplaces.contains, hreplaces.owns, Or.inr (Or.inl hreplaces)⟩
    · exact ⟨hthere, howns, Or.inl (wanted?_eq_none_iff.1 hnone)⟩
  · rintro name (hreplaces | ⟨hfree, -⟩)
    · exact Or.inr (Or.inl hreplaces)
    · exact Or.inl hfree
  · intro name
    constructor
    · rintro ⟨hreplaces | ⟨hnone, -, -⟩, hreplaces' | ⟨-, rule, compiled, hrule, -⟩⟩
      · exact hreplaces
      · exact hreplaces
      · exact hreplaces'
      · -- No rule asks for a name that is only dropped, but one does for a name that is added.
        rw [hnone] at hrule
        cases hrule
    · intro hreplaces
      exact ⟨Or.inl hreplaces, Or.inl hreplaces⟩

end Planner

end

namespace Planner

/-- The number of days of a loan. -/
def loanRule : Rule where
  spec := RuleSpec.of (.range (.between (.integer 1) (.integer 28))) ["days"]
  valid := by decide

/-- A constraint on the days of a loan that was recorded for another predicate, and one that is
left over. -/
def staleLoans : Present :=
  (Present.empty.insert "rein_loans_days_rng" (some "stale")).insert "rein_loans_fee_rng" none

/-- The stale constraint is dropped and added again, and the other one is dropped. -/
theorem staleLoans_order : ∃ plan,
    Planner.postgres.plan ⟨none, "loans"⟩ [loanRule] staleLoans = .ok plan ∧
      plan.actions = plan.drops ++ plan.adds ∧
      "rein_loans_days_rng" ∈ plan.drops.map Action.name ∧
      "rein_loans_days_rng" ∈ plan.adds.map Action.name := by
  obtain ⟨plan, hplan⟩ : ∃ plan,
      Planner.postgres.plan ⟨none, "loans"⟩ [loanRule] staleLoans = .ok plan := ⟨_, rfl⟩
  obtain ⟨compiled, hcompiled⟩ : ∃ compiled,
      loanRule.compile Planner.postgres.dialect = .ok compiled := ⟨_, rfl⟩
  have hstale : staleLoans.find? "rein_loans_days_rng" = some (some "stale") := by
    simp [staleLoans, Present.find?_insert]
  have hne : "stale" ≠ compiled.fingerprint := by
    have hdigit : ∀ n < 16, Nat.digitChar n ≠ 's' := by decide
    intro heq
    have hmem : 's' ∈ compiled.fingerprint.toList := by
      rw [← heq]
      decide
    obtain ⟨n, hn, hs⟩ := exists_of_mem_fingerprint hmem
    exact hdigit n hn hs.symm
  obtain ⟨hactions, -, -, -, -, hboth⟩ := plan_order hplan
  have hreplaces : Planner.postgres.Replaces ⟨none, "loans"⟩ [loanRule] staleLoans
      "rein_loans_days_rng" :=
    ⟨loanRule, compiled, "stale", rfl, hcompiled, hstale, hne⟩
  exact ⟨plan, hplan, hactions, ((hboth _).2 hreplaces).1, ((hboth _).2 hreplaces).2⟩

end Planner

end ColumnChecks
