import ColumnChecks.Proofs.Plan.Order
import ColumnChecks.Proofs.Plan.Repetition

/-!
# Rules at odds over a name

A name stands for one rule of a table. Two rules **clash** if they have one name and are not the
same (`ColumnChecks.Planner.Clash`). Gathering the rules compares each of them with one other
only, the one that came first under its name. This is enough: sameness is an equivalence, so a
rule that is at odds with any rule before it is at odds with the first.

Hence planning fails just if two rules of the list clash, and it fails at the **first rule that
clashes with one before it** (`ColumnChecks.Planner.FirstClash`). The report names the rules that
ask for the name: the first one, and the one that was too much
(`ColumnChecks.Planner.plan_collision`). A plan that there is has each name once, be it that of a
constraint to add or of a rule that is set aside.
-/

namespace ColumnChecks

open Sql (TableRef)

variable [Pattern.SizeTest]

namespace Planner

variable {planner : Planner} {table : TableRef} {rules : List Rule} {present : Present}
  {desired : Desired} {name : String} {rule other first : Rule} {error : NameCollision}

/-! ### Clashes -/

/-- **Two rules clash** if they have one name and are not the same. -/
def Clash (planner : Planner) (table : TableRef) (rule other : Rule) : Prop :=
  planner.namer.name table.name rule = planner.namer.name table.name other ∧
    rule.same other = false

/-- **The first rule that clashes** with one before it. -/
def FirstClash (planner : Planner) (table : TableRef) (rules : List Rule) (rule : Rule) : Prop :=
  ∃ before behind, rules = before ++ rule :: behind ∧
    (before.Pairwise fun earlier later => ¬planner.Clash table earlier later) ∧
    ∃ other ∈ before, planner.Clash table other rule

theorem not_clash_iff : ¬planner.Clash table rule other ↔
    (planner.namer.name table.name rule = planner.namer.name table.name other →
      rule.same other = true) := by
  rw [Clash, not_and, Bool.not_eq_false]

theorem not_clash_self : ¬planner.Clash table rule rule :=
  not_clash_iff.2 fun _ => rule.same_self

theorem not_clash_symm (h : ¬planner.Clash table rule other) :
    ¬planner.Clash table other rule := by
  rw [not_clash_iff] at h ⊢
  intro hname
  exact Rule.same_symm (h hname.symm)

/-- Who clashes with a rule clashes with every rule that is the same. -/
theorem Clash.of_same (h : planner.Clash table other rule)
    (hsame : first.same other = true) : planner.Clash table first rule := by
  refine ⟨(planner.namer.name_eq_of_same table.name hsame).trans h.1, ?_⟩
  rw [Bool.eq_false_iff]
  intro hfirst
  have hother : other.same rule = true := Rule.same_trans (Rule.same_symm hsame) hfirst
  rw [h.2] at hother
  cases hother

/-- **Planning succeeds** just if no rule clashes with one before it. -/
theorem exists_desired_iff_pairwise :
    (∃ desired, planner.desired table rules = .ok desired) ↔
      rules.Pairwise fun earlier later => ¬planner.Clash table earlier later := by
  rw [exists_desired_iff]
  constructor
  · intro h
    refine List.pairwise_iff_forall_sublist.2 fun {earlier later} hsub => not_clash_iff.2 ?_
    exact h earlier (hsub.subset (by simp)) later (hsub.subset (by simp))
  · intro h rule hrule other hother
    -- Clashing does not depend on which of two rules comes first.
    have hflip : rules.Pairwise (flip fun earlier later => ¬planner.Clash table earlier later) :=
      h.imp not_clash_symm
    exact not_clash_iff.1
      (h.forall_of_forall_of_flip (fun _ _ => not_clash_self) hflip hrule hother)

/-! ### Where planning fails -/

/-- One more rule is refused if the rule under its name is not the same. -/
theorem addDesired_eq_error_iff : planner.addDesired table desired rule = .error error ↔
    ∃ first, desired[planner.namer.name table.name rule]? = some first ∧
      first.same rule = false ∧
      error = ⟨planner.namer.name table.name rule, first.describe, rule.describe⟩ := by
  simp only [addDesired]
  split
  · next hfree => simp [hfree]
  · next first hfirst =>
    rw [hfirst]
    constructor
    · intro h
      split_ifs at h with hsame
      cases h
      exact ⟨first, rfl, Bool.eq_false_iff.2 hsame, rfl⟩
    · rintro ⟨_, ⟨⟩, hdiffer, rfl⟩
      rw [if_neg (Bool.eq_false_iff.1 hdiffer)]

theorem wanted?_append_of_eq_some {before behind : List Rule}
    (h : planner.wanted? table before name = some rule) :
    planner.wanted? table (before ++ behind) name = some rule := by
  rw [wanted?, List.find?_append, ← wanted?, h, Option.some_or]

/-- **Gathering fails at the first clash**, and reports the first rule of the name. -/
theorem desired_eq_error_iff : planner.desired table rules = .error error ↔
    ∃ rule first, planner.FirstClash table rules rule ∧
      planner.wanted? table rules (planner.namer.name table.name rule) = some first ∧
      error = ⟨planner.namer.name table.name rule, first.describe, rule.describe⟩ := by
  constructor
  · intro h
    obtain ⟨before, rule, behind, gathered, rfl, hbefore, herror⟩ := foldlM_eq_error_iff.1 h
    have hdesired : planner.desired table before = .ok gathered := hbefore
    obtain ⟨first, hfirst, hdiffer, rfl⟩ := addDesired_eq_error_iff.1 herror
    rw [getElem?_desired hdesired] at hfirst
    obtain ⟨hmem, hname⟩ := mem_of_wanted? hfirst
    -- What has been gathered when the loop stops shows that there was no clash before.
    refine ⟨rule, first, ⟨before, behind, rfl, ?_, first, hmem, hname, hdiffer⟩, ?_, rfl⟩
    · exact exists_desired_iff_pairwise.1 ⟨gathered, hdesired⟩
    · exact wanted?_append_of_eq_some hfirst
  · rintro ⟨rule, first, ⟨before, behind, rfl, hbefore, other, hother, hclash⟩, hwanted, rfl⟩
    obtain ⟨gathered, hdesired⟩ := exists_desired_iff_pairwise.2 hbefore
    -- The rule that is remembered for the name is the same as the one that the rule clashes with.
    obtain ⟨first', hfirst', hsame⟩ := exists_same_wanted? hdesired hother
    rw [hclash.1] at hfirst'
    rw [wanted?_append_of_eq_some hfirst', Option.some_inj] at hwanted
    subst hwanted
    refine foldlM_eq_error_iff.2 ⟨before, rule, behind, gathered, rfl, hdesired, ?_⟩
    refine addDesired_eq_error_iff.2 ⟨first', ?_, (hclash.of_same hsame).2, rfl⟩
    rw [getElem?_desired hdesired, hfirst']

theorem plan_eq_error_iff : planner.plan table rules present = .error error ↔
    planner.desired table rules = .error error := by
  unfold Planner.plan
  cases planner.desired table rules with
  | error e => simp [bind, Except.bind]
  | ok desired => simp [bind, Except.bind]

/-! ### Names of a plan -/

theorem keepsName_rejection? :
    planner.KeepsName table present Finding.rejection? Rejection.name := by
  intro name rule rejection h
  unfold Finding.rejection? at h
  split at h
  · next found hfinding =>
    obtain rfl : found = rejection := Option.some.inj h
    exact (finding_eq_rejected hfinding).1
  · cases h

/-- No finding both adds a constraint and sets its rule aside. -/
theorem rejection?_of_addition? {action : Action}
    (h : (planner.finding table present name rule).addition? = some action) :
    (planner.finding table present name rule).rejection? = none := by
  cases hfinding : planner.finding table present name rule with
  | kept => rfl
  | added action => rfl
  | replaced removal action => rfl
  | rejected rejection =>
    rw [hfinding] at h
    cases h

/-- **Each name is added or set aside once.** -/
theorem nodup_names_planDesired :
    ((planner.planDesired table desired present).adds.map Action.name ++
      (planner.planDesired table desired present).rejected.map Rejection.name).Nodup := by
  rw [adds_planDesired, planDesired_rejected, List.nodup_append]
  refine ⟨nodup_names_sortByName.2 keepsName_addition?.nodup, keepsName_rejection?.nodup, ?_⟩
  rintro name hadded other hrejected rfl
  -- A name is found in both lists only if the finding about it is of both sorts.
  have hadded := (names_sortByName_perm _).mem_iff.1 hadded
  obtain ⟨rule, hrule, hadds⟩ := keepsName_addition?.mem_iff.1 hadded
  obtain ⟨rule', hrule', hrejects⟩ := keepsName_rejection?.mem_iff.1 hrejected
  obtain rfl : rule = rule' := Option.some.inj (hrule.symm.trans hrule')
  obtain ⟨action, haction⟩ := Option.isSome_iff_exists.1 hadds
  rw [rejection?_of_addition? haction] at hrejects
  cases hrejects

/-- **Collisions.** Planning fails just if two rules of the list have one name and are not the
same. The error then has the name and the description of the first rule that clashes with one
before it, and the description of the first rule of that name. A plan has each name at most once
among the constraints that it adds and the rules that it sets aside. -/
theorem plan_collision (planner : Planner) (table : TableRef) (rules : List Rule)
    (present : Present) :
    ((∃ error, planner.plan table rules present = .error error) ↔
      ∃ rule ∈ rules, ∃ other ∈ rules, planner.Clash table rule other) ∧
    (∀ error, planner.plan table rules present = .error error ↔
      ∃ rule first, planner.FirstClash table rules rule ∧
        planner.wanted? table rules (planner.namer.name table.name rule) = some first ∧
        error = ⟨planner.namer.name table.name rule, first.describe, rule.describe⟩) ∧
    ∀ plan, planner.plan table rules present = .ok plan →
      (plan.adds.map Action.name ++ plan.rejected.map Rejection.name).Nodup := by
  refine ⟨?_, fun error => plan_eq_error_iff.trans desired_eq_error_iff, ?_⟩
  · calc (∃ error, planner.plan table rules present = .error error)
        ↔ ∃ error, planner.desired table rules = .error error := by simp only [plan_eq_error_iff]
      _ ↔ ¬∃ desired, planner.desired table rules = .ok desired := by
          cases planner.desired table rules with
          | error e => simp
          | ok desired => simp
      _ ↔ ∃ rule ∈ rules, ∃ other ∈ rules, planner.Clash table rule other := by
          rw [exists_desired_iff]
          simp only [← not_clash_iff, not_forall, not_not, exists_prop]
  · intro plan hplan
    obtain ⟨desired, -, rfl⟩ := exists_desired hplan
    exact nodup_names_planDesired

end Planner

end ColumnChecks
