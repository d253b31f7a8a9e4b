import ColumnChecks.Proofs.Plan.Record
import ColumnChecks.Proofs.Plan.Script
import ColumnChecks.Proofs.Rule.Zeros

/-!
# Plans for the same rules

The rules of a table are a list, and a rule that is there twice counts once. Two lists have
the same rules if every rule of either is the same as one of the other, in whatever order and
however often (`ColumnChecks.SameRules`). Sameness decides everything before the predicates:
a rule has the name of every rule that is the same, and so planning succeeds for both lists
or for neither (`ColumnChecks.Planner.exists_desired_iff`).

The predicates are those of the rules that come first, and they show the signs of zeros. So
the plans may differ, and **they are equal just if for every name the first rules are equal,
or both find their constraint in place** (`ColumnChecks.Planner.FirstAgree`,
`ColumnChecks.Planner.plan_of_sameRules`). In
particular plans for the same rules are equal if no rule mentions `-0.0`.
-/

namespace ColumnChecks

open Sql (TableRef)

/-! ### Statements -/

/-- **A statement shows the predicate** that it adds. -/
theorem addStatement_injective {table : TableRef} {name fingerprint : String} {validate : Bool} :
    Function.Injective fun predicate => addStatement table name predicate fingerprint validate := by
  intro predicate predicate' h
  have hblock := addBlock_eq_of_addStatement_eq h
  unfold addBlock at hblock
  simpa using hblock

section

variable [Pattern.SizeTest]

/-- **The same rules**, up to order and repetition. -/
def SameRules (rules others : List Rule) : Prop :=
  (∀ rule ∈ rules, ∃ other ∈ others, rule.same other = true) ∧
    ∀ other ∈ others, ∃ rule ∈ rules, other.same rule = true

theorem SameRules.symm {rules others : List Rule} (h : SameRules rules others) :
    SameRules others rules :=
  ⟨h.2, h.1⟩

/-- Rules that are the same have the same name. -/
theorem Namer.name_eq_of_same (namer : Namer) (table : String) {rule other : Rule}
    (h : rule.same other = true) : namer.name table rule = namer.name table other := by
  obtain ⟨htarget, hlabel, -, hkind⟩ := Rule.parts_of_same h
  have hcode : rule.spec.kind.code = other.spec.kind.code := by
    have hplain : ∀ kind : RuleKind, kind.plainZeros.code = kind.code := fun kind => by
      cases kind <;> rfl
    rw [← hplain, hkind, hplain]
  have hraw : Namer.rawParts table rule.spec = Namer.rawParts table other.spec := by
    rw [Namer.rawParts, Namer.rawParts, htarget, hlabel]
  have hfull : namer.fullName table rule.spec = namer.fullName table other.spec := by
    rw [Namer.fullName, Namer.fullName, hraw, hcode]
  have hcut : namer.cutName table rule.spec = namer.cutName table other.spec := by
    rw [Namer.cutName, Namer.cutName, Namer.nameDigest, Namer.nameDigest, Namer.budget,
      Namer.budget, hraw, hcode]
  rw [Namer.name, Namer.name, hfull, hcut]

/-- The rule that a finding sets aside. -/
def Finding.rejection? : Finding → Option Rejection
  | .rejected rejection => some rejection
  | _ => none

namespace Planner

variable {planner : Planner} {table : TableRef} {rules others : List Rule} {present : Present}
  {plan : Plan} {name : String} {rule other : Rule}

/-! ### When planning succeeds -/

/-- Rules are gathered if none of them is at odds with what is there or with another one. -/
theorem exists_foldlM_addDesired {start : Desired}
    (hstart : ∀ rule ∈ rules, ∀ first,
      start[planner.namer.name table.name rule]? = some first → first.same rule = true)
    (hrules : ∀ rule ∈ rules, ∀ other ∈ rules,
      planner.namer.name table.name rule = planner.namer.name table.name other →
        rule.same other = true) :
    ∃ desired, rules.foldlM (planner.addDesired table) start = .ok desired := by
  induction rules generalizing start with
  | nil => exact ⟨start, rfl⟩
  | cons rule rules ih =>
    obtain ⟨next, hnext⟩ : ∃ next, planner.addDesired table start rule = .ok next := by
      unfold addDesired
      simp only
      split
      · exact ⟨_, rfl⟩
      · next first hfirst =>
        rw [if_pos (hstart rule List.mem_cons_self first hfirst)]
        exact ⟨_, rfl⟩
    -- What has been gathered so far is not at odds with any rule that is still to come.
    have hkeep : ∀ other ∈ rules, ∀ first,
        next[planner.namer.name table.name other]? = some first → first.same other = true := by
      intro other hother first hfirst
      rw [getElem?_addDesired hnext, Option.or_eq_some_iff] at hfirst
      rcases hfirst with hfirst | ⟨-, hfirst⟩
      · exact hstart other (List.mem_cons_of_mem _ hother) first hfirst
      · split_ifs at hfirst with hname
        obtain rfl : rule = first := Option.some.inj hfirst
        exact hrules rule List.mem_cons_self other (List.mem_cons_of_mem _ hother) hname
    obtain ⟨desired, hdesired⟩ := ih hkeep fun r hr s hs =>
      hrules r (List.mem_cons_of_mem _ hr) s (List.mem_cons_of_mem _ hs)
    refine ⟨desired, ?_⟩
    rw [List.foldlM_cons, hnext]
    exact hdesired

/-- Every rule is asked for by one that is the same. -/
theorem exists_same_wanted? {desired : Desired} (h : planner.desired table rules = .ok desired)
    (hmem : rule ∈ rules) :
    ∃ first, planner.wanted? table rules (planner.namer.name table.name rule) = some first ∧
      first.same rule = true := by
  obtain ⟨first, hfirst, rfl | hsame⟩ := exists_wanted? h hmem
  · exact ⟨first, hfirst, first.same_self⟩
  · exact ⟨first, hfirst, hsame⟩

/-- **Planning succeeds** just if rules with one name are the same. -/
theorem exists_desired_iff :
    (∃ desired, planner.desired table rules = .ok desired) ↔
      ∀ rule ∈ rules, ∀ other ∈ rules,
        planner.namer.name table.name rule = planner.namer.name table.name other →
          rule.same other = true := by
  constructor
  · rintro ⟨desired, hdesired⟩ rule hrule other hother hname
    obtain ⟨first, hfirst, hsame⟩ := exists_same_wanted? hdesired hrule
    obtain ⟨first', hfirst', hsame'⟩ := exists_same_wanted? hdesired hother
    rw [← hname, hfirst, Option.some_inj] at hfirst'
    subst hfirst'
    exact Rule.same_trans (Rule.same_symm hsame) hsame'
  · exact exists_foldlM_addDesired fun rule _ first hfirst => by
      rw [Std.ExtTreeMap.getElem?_empty] at hfirst
      cases hfirst

theorem exists_desired_of_sameRules (hsame : SameRules rules others)
    (h : ∃ desired, planner.desired table rules = .ok desired) :
    ∃ desired, planner.desired table others = .ok desired := by
  rw [exists_desired_iff] at h ⊢
  intro rule hrule other hother hname
  obtain ⟨r, hr, hrsame⟩ := hsame.2 rule hrule
  obtain ⟨s, hs, hssame⟩ := hsame.2 other hother
  have hnames : planner.namer.name table.name r = planner.namer.name table.name s := by
    rw [← planner.namer.name_eq_of_same table.name hrsame, hname,
      planner.namer.name_eq_of_same table.name hssame]
  exact Rule.same_trans hrsame (Rule.same_trans (h r hr s hs hnames) (Rule.same_symm hssame))

/-! ### The first rules -/

theorem mem_of_wanted? (h : planner.wanted? table rules name = some rule) :
    rule ∈ rules ∧ planner.namer.name table.name rule = name :=
  ⟨List.mem_of_find?_eq_some h, by simpa using List.find?_some h⟩

/-- A name that a rule asks for is asked for by the same rule in the other list. -/
theorem exists_wanted?_of_sameRules (hsame : SameRules rules others) {desired : Desired}
    (hothers : planner.desired table others = .ok desired)
    (h : planner.wanted? table rules name = some rule) :
    ∃ other, planner.wanted? table others name = some other ∧ rule.same other = true := by
  obtain ⟨hrule, rfl⟩ := mem_of_wanted? h
  obtain ⟨other, hother, hsame⟩ := hsame.1 rule hrule
  obtain ⟨first, hfirst, hfirstSame⟩ := exists_same_wanted? hothers hother
  refine ⟨first, ?_, Rule.same_trans hsame (Rule.same_symm hfirstSame)⟩
  rw [planner.namer.name_eq_of_same table.name hsame, hfirst]

/-! ### Plans from their findings -/

/-- What a plan sets aside. -/
theorem planDesired_rejected {desired : Desired} :
    (planner.planDesired table desired present).rejected =
      (planner.findings table desired present).filterMap Finding.rejection? :=
  rfl

/-- **A plan is what is found for each name.** -/
theorem planDesired_eq_of_findings {desired desired' : Desired}
    (h : ∀ name, desired[name]?.map (planner.finding table present name) =
      desired'[name]?.map (planner.finding table present name)) :
    planner.planDesired table desired present = planner.planDesired table desired' present := by
  -- The findings are the entries of a map by names, so that their order is settled, too.
  have hfound : desired.map (planner.finding table present) =
      desired'.map (planner.finding table present) :=
    Std.ExtTreeMap.ext_getElem? fun name => by
      rw [Std.ExtTreeMap.getElem?_map, Std.ExtTreeMap.getElem?_map, h]
  have hfindings : planner.findings table desired present =
      planner.findings table desired' present := by
    have hmap : ∀ d : Desired, planner.findings table d present =
        (d.map (planner.finding table present)).toList.map Prod.snd := fun d => by
      rw [Std.ExtTreeMap.toList_map, List.map_map]
      rfl
    rw [hmap, hmap, hfound]
  have hobsolete : planner.obsolete desired present = planner.obsolete desired' present := by
    have hcontains : ∀ name, desired.contains name = desired'.contains name := fun name => by
      rw [Std.ExtTreeMap.contains_eq_isSome_getElem?, Std.ExtTreeMap.contains_eq_isSome_getElem?]
      simpa using congrArg Option.isSome (h name)
    rw [obsolete, obsolete, funext hcontains]
  have hactions : (planner.planDesired table desired present).actions =
      (planner.planDesired table desired' present).actions := by
    rw [planDesired_actions, planDesired_actions, removals, removals, additions, additions,
      hfindings, hobsolete]
  have hrejected : (planner.planDesired table desired present).rejected =
      (planner.planDesired table desired' present).rejected := by
    rw [planDesired_rejected, planDesired_rejected, hfindings]
  calc planner.planDesired table desired present
      = ⟨table, (planner.planDesired table desired present).actions,
          (planner.planDesired table desired present).rejected⟩ := rfl
    _ = planner.planDesired table desired' present := by rw [hactions, hrejected]; rfl

end Planner

namespace Planner

variable {planner : Planner} {table : TableRef} {rules others : List Rule} {present : Present}
  {plan : Plan} {name : String} {rule other : Rule}

/-! ### Findings of the same rules -/

/-- A rule without a predicate is about a pattern, which has no zeros. -/
theorem eq_of_compile_error (hsame : rule.same other = true) {error : UnsupportedRule}
    (h : rule.compile planner.dialect = .error error) : rule = other := by
  obtain h | ⟨e, -, h⟩ := bind_eq_error h
  · obtain ⟨format, hk, -⟩ := Rule.predicate_eq_error_iff.1 h
    obtain ⟨-, -, -, hkind⟩ := Rule.parts_of_same hsame
    have hvalues : other.spec.kind.literals.map Literal.plainZero = [] := by
      rw [← RuleKind.literals_plainZeros, ← hkind, hk]
      rfl
    refine Rule.eq_of_same hsame ?_ ?_
    · rw [hk]
      exact List.not_mem_nil
    · rw [List.map_eq_nil_iff.1 hvalues]
      exact List.not_mem_nil
  · cases h

/-- The same step is added for rules that are the same only if they are equal. -/
theorem eq_of_addAction_eq (hsame : rule.same other = true) {compiled compiled' : CompiledRule}
    (h : rule.compile planner.dialect = .ok compiled)
    (h' : other.compile planner.dialect = .ok compiled')
    (haction : addAction table name rule compiled = addAction table name other compiled') :
    rule = other := by
  obtain ⟨-, -, hvalidate, -⟩ := Rule.parts_of_same hsame
  rw [addAction, addAction, Action.add.injEq] at haction
  obtain ⟨-, hstatement, hfingerprint⟩ := haction
  rw [hvalidate, hfingerprint] at hstatement
  exact Rule.eq_of_sql_eq hsame h h' (addStatement_injective hstatement)

/-- **Findings of the same rules** add the same just if the rules are equal or neither
adds anything. -/
theorem eq_or_kept_of_addition?_eq (hsame : rule.same other = true)
    (h : (planner.finding table present name rule).addition? =
      (planner.finding table present name other).addition?) :
    rule = other ∨ planner.finding table present name rule = .kept ∧
      planner.finding table present name other = .kept := by
  cases hc : rule.compile planner.dialect with
  | error error => exact Or.inl (eq_of_compile_error hsame hc)
  | ok compiled =>
    cases hc' : other.compile planner.dialect with
    | error error => exact Or.inl (eq_of_compile_error (Rule.same_symm hsame) hc').symm
    | ok compiled' =>
      rw [finding_of_ok hc, finding_of_ok hc'] at h ⊢
      have hadd : addAction table name rule compiled = addAction table name other compiled' →
          rule = other := eq_of_addAction_eq hsame hc hc'
      cases hp : present.find? name with
      | none =>
        rw [hp] at h
        exact Or.inl (hadd (Option.some.inj h))
      | some found =>
        cases found with
        | none => exact Or.inr ⟨rfl, rfl⟩
        | some recorded =>
          simp only [hp] at h ⊢
          split_ifs at h ⊢
          · exact Or.inr ⟨rfl, rfl⟩
          · cases h
          · cases h
          · exact Or.inl (hadd (Option.some.inj h))

/-- What is added for a name is seen in the plan. -/
theorem addition?_eq_some_iff {desired : Desired} (hrule : desired[name]? = some rule)
    {action : Action} :
    (planner.finding table present name rule).addition? = some action ↔
      action ∈ (planner.planDesired table desired present).actions ∧ action.isAdd = true ∧
        action.name = name := by
  rw [planDesired_actions, List.mem_append, mem_additions]
  constructor
  · intro h
    obtain ⟨compiled, -, rfl⟩ := addition?_eq_some h
    exact ⟨Or.inr ⟨name, rule, hrule, h⟩, rfl, rfl⟩
  · rintro ⟨hremoval | ⟨name', rule', hrule', h⟩, hadd, rfl⟩
    · rcases mem_removals.1 hremoval with ⟨name', rule', -, hfound⟩ | ⟨name', -, rfl⟩
      · rw [removal?_eq_some hfound] at hadd
        cases hadd
      · cases hadd
    · obtain ⟨compiled, -, rfl⟩ := addition?_eq_some h
      rw [addAction, Action.name_add, hrule', Option.some_inj] at hrule
      rw [← hrule]
      exact h

/-! ### Plans for the same rules -/

/-- **The first rules agree**: for every name the first rules of two lists are equal, or both
find their constraint in place. -/
def FirstAgree (planner : Planner) (table : TableRef) (present : Present)
    (rules others : List Rule) : Prop :=
  ∀ name rule other, planner.wanted? table rules name = some rule →
    planner.wanted? table others name = some other →
      rule = other ∨ planner.finding table present name rule = .kept ∧
        planner.finding table present name other = .kept

variable {desired desired' : Desired}

theorem same_of_wanted? (hsame : SameRules rules others)
    (hothers : planner.desired table others = .ok desired')
    (hrule : planner.wanted? table rules name = some rule)
    (hother : planner.wanted? table others name = some other) : rule.same other = true := by
  obtain ⟨first, hfirst, hfirstSame⟩ := exists_wanted?_of_sameRules hsame hothers hrule
  rw [hother, Option.some_inj] at hfirst
  exact hfirst ▸ hfirstSame

/-- First rules that agree have one plan. -/
theorem FirstAgree.planDesired_eq (h : planner.FirstAgree table present rules others)
    (hsame : SameRules rules others) (hdesired : planner.desired table rules = .ok desired)
    (hdesired' : planner.desired table others = .ok desired') :
    planner.planDesired table desired' present = planner.planDesired table desired present := by
  refine planDesired_eq_of_findings fun name => ?_
  rw [getElem?_desired hdesired, getElem?_desired hdesired']
  cases hrule : planner.wanted? table rules name with
  | none =>
    cases hother : planner.wanted? table others name with
    | none => rfl
    | some other =>
      obtain ⟨rule, hrule', -⟩ := exists_wanted?_of_sameRules hsame.symm hdesired hother
      rw [hrule] at hrule'
      cases hrule'
  | some rule =>
    obtain ⟨other, hother, -⟩ := exists_wanted?_of_sameRules hsame hdesired' hrule
    rw [hother, Option.map_some, Option.map_some]
    rcases h name rule other hrule hother with rfl | ⟨hkept, hkept'⟩
    · rfl
    · rw [hkept, hkept']

/-- First rules with one plan agree: what is added under a name can be read off the plan. -/
theorem firstAgree_of_planDesired_eq (hsame : SameRules rules others)
    (hdesired : planner.desired table rules = .ok desired)
    (hdesired' : planner.desired table others = .ok desired')
    (h : planner.planDesired table desired' present = planner.planDesired table desired present) :
    planner.FirstAgree table present rules others := by
  intro name rule other hrule hother
  have hdesiredRule : desired[name]? = some rule := by rw [getElem?_desired hdesired, hrule]
  have hdesiredOther : desired'[name]? = some other := by rw [getElem?_desired hdesired', hother]
  refine eq_or_kept_of_addition?_eq (same_of_wanted? hsame hdesired' hrule hother) ?_
  ext action
  rw [addition?_eq_some_iff hdesiredRule, addition?_eq_some_iff hdesiredOther, h]

/-- First rules agree if no rule mentions `-0.0`. -/
theorem firstAgree_of_no_negativeZero (hsame : SameRules rules others)
    (hdesired' : planner.desired table others = .ok desired')
    (hzeros : ∀ rule ∈ rules ++ others, .decimal .negativeZero ∉ rule.spec.kind.literals) :
    planner.FirstAgree table present rules others := by
  intro name rule other hrule hother
  have hmem := List.mem_append_left others (mem_of_wanted? hrule).1
  have hmem' := List.mem_append_right rules (mem_of_wanted? hother).1
  exact Or.inl (Rule.eq_of_same (same_of_wanted? hsame hdesired' hrule hother) (hzeros rule hmem)
    (hzeros other hmem'))

/-- **Plans for the same rules.** If planning succeeds for one list of rules, it succeeds for
every list of the same rules. The plans are equal just if for every name the first rules are
equal, or both find their constraint in place; and so they are if no rule mentions `-0.0`. -/
theorem plan_of_sameRules (hsame : SameRules rules others)
    (h : planner.plan table rules present = .ok plan) :
    ∃ plan', planner.plan table others present = .ok plan' ∧
      (plan' = plan ↔ planner.FirstAgree table present rules others) ∧
      ((∀ rule ∈ rules ++ others, .decimal .negativeZero ∉ rule.spec.kind.literals) →
        plan' = plan) := by
  obtain ⟨desired, hdesired, rfl⟩ := exists_desired h
  obtain ⟨desired', hdesired'⟩ := exists_desired_of_sameRules hsame ⟨desired, hdesired⟩
  have hplan : planner.plan table others present =
      .ok (planner.planDesired table desired' present) := by
    rw [Planner.plan, hdesired']
    rfl
  refine ⟨_, hplan, ⟨?_, ?_⟩, ?_⟩
  · exact firstAgree_of_planDesired_eq hsame hdesired hdesired'
  · exact fun hagree => hagree.planDesired_eq hsame hdesired hdesired'
  · exact fun hzeros => (firstAgree_of_no_negativeZero hsame hdesired' hzeros).planDesired_eq
      hsame hdesired hdesired'

end Planner

end

namespace Planner

/-- A temperature from zero on, with either of the zeros. -/
def frostRule (negative : Bool) : Rule where
  spec := RuleSpec.of (.range (.atLeast (.decimal (.signedZero negative)))) ["temperature"]
  valid := by cases negative <;> decide

/-- Two rules that are the same get different plans when they change places. -/
theorem frost_plans : ∃ plan plan',
    Planner.postgres.plan ⟨none, "cellars"⟩ [frostRule false, frostRule true] .empty = .ok plan ∧
    Planner.postgres.plan ⟨none, "cellars"⟩ [frostRule true, frostRule false] .empty = .ok plan' ∧
    plan' ≠ plan := by
  have hsame : ∀ a b, (frostRule a).same (frostRule b) = true := by decide
  have hrules : SameRules [frostRule false, frostRule true] [frostRule true, frostRule false] := by
    constructor
    · simp [hsame]
    · simp [hsame]
  obtain ⟨desired, hdesired⟩ : ∃ desired,
      Planner.postgres.desired ⟨none, "cellars"⟩ [frostRule false, frostRule true] = .ok desired :=
    exists_desired_iff.2 (by simp [hsame])
  have hplan : Planner.postgres.plan ⟨none, "cellars"⟩ [frostRule false, frostRule true] .empty =
      .ok (Planner.postgres.planDesired ⟨none, "cellars"⟩ desired .empty) := by
    rw [Planner.plan, hdesired]
    rfl
  obtain ⟨plan', hplan', hiff, -⟩ := plan_of_sameRules hrules hplan
  refine ⟨_, plan', hplan, hplan', fun heq => ?_⟩
  have hname := Planner.postgres.namer.name_eq_of_same "cellars" (hsame true false)
  rcases hiff.1 heq (Planner.postgres.namer.name "cellars" (frostRule false)) (frostRule false)
    (frostRule true) (by simp [wanted?]) (by simp [wanted?, hname]) with hrule | ⟨hkept, -⟩
  · exact absurd (congrArg Rule.spec hrule) (by decide)
  · have hfree : Present.empty.find? (Planner.postgres.namer.name "cellars" (frostRule false)) =
        none := Std.ExtTreeMap.getElem?_empty
    have hcompile : (frostRule false).compile Planner.postgres.dialect = .ok _ := rfl
    rw [finding_of_ok hcompile, hfree] at hkept
    cases hkept

end Planner

end ColumnChecks
