import Mathlib.Tactic.Common
import ColumnChecks.Rule.Validity

/-!
# What a valid rule has

`ColumnChecks.RuleSpec.fault?` looks for faults one after the other. Read
backwards, a rule without a fault has passed every one of these looks, and the
lemmas here say what each look has found out. They are the only place where the
checks are opened: whatever is proved of valid rules goes through

* `ColumnChecks.RuleSpec.fault?_eq_none_iff`, which takes a rule apart into its
  target, its label, its blanks and its kind;
* one lemma for each kind that has parameters to be checked.
-/

namespace ColumnChecks

/-! ### Columns and targets -/

theorem columnFault?_eq_none_iff {field name : String} :
    columnFault? field name = none ↔ name ≠ "" ∧ hasNul name = false := by
  unfold columnFault?
  split_ifs with hempty hnul
  · simp [String.isEmpty_iff.1 hempty]
  · simp [hnul]
  · have hne : name ≠ "" := fun h => hempty (String.isEmpty_iff.2 h)
    simp [hne, hnul]

/-- A target without a fault has proper names, none of them twice and none of
them seen before. -/
theorem columnsFault?_eq_none_iff {seen columns : List String} :
    columnsFault? seen columns = none ↔
      (∀ c ∈ columns, columnFault? "target" c = none ∧ c ∉ seen) ∧ columns.Nodup := by
  induction columns generalizing seen with
  | nil => simp [columnsFault?]
  | cons column columns ih =>
    rw [columnsFault?]
    cases hc : columnFault? "target" column with
    | some fault => simp [hc]
    | none =>
      by_cases hseen : column ∈ seen
      · simp [hseen]
      · simp only [List.contains_eq_mem, hseen, decide_false, Bool.false_eq_true, ↓reduceIte, ih,
          List.forall_mem_cons, List.nodup_cons, hc, not_false_eq_true, and_self, true_and]
        constructor
        · rintro ⟨hall, hnodup⟩
          refine ⟨fun c hcmem => ⟨(hall c hcmem).1, ?_⟩, ?_, hnodup⟩
          · exact fun h => (hall c hcmem).2 (List.mem_cons_of_mem _ h)
          · exact fun h => (hall column h).2 List.mem_cons_self
        · rintro ⟨hall, hmem, hnodup⟩
          refine ⟨fun c hcmem => ⟨(hall c hcmem).1, ?_⟩, hnodup⟩
          rw [List.mem_cons, not_or]
          exact ⟨fun h => hmem (h ▸ hcmem), (hall c hcmem).2⟩

theorem targetFault?_eq_none_iff {target : List String} :
    targetFault? target = none ↔
      target ≠ [] ∧ (∀ c ∈ target, c ≠ "" ∧ hasNul c = false) ∧ target.Nodup := by
  unfold targetFault?
  cases target with
  | nil => simp
  | cons c cs => simp [columnsFault?_eq_none_iff, columnFault?_eq_none_iff]

/-! ### Values and bounds -/

/-- A list of values without a fault is not empty, and its values are finite and
of one kind. -/
theorem valuesFault?_eq_none_iff {field : String} {values : List Literal} :
    valuesFault? field values = none ↔
      values ≠ [] ∧ ∀ v ∈ values, v.isFinite = true ∧ ∀ w ∈ values, v.kind = w.kind := by
  cases values with
  | nil => simp [valuesFault?]
  | cons first rest =>
    have hlook : ∀ v : Literal,
        (if (!v.isFinite) = true then some (InvalidRule.valueNotFinite field)
          else if (v.kind != first.kind) = true then
            some (.mixedValues field first.kind v.kind) else none) = none ↔
          v.isFinite = true ∧ v.kind = first.kind := by
      intro v
      cases v.isFinite <;> by_cases hk : v.kind = first.kind <;> simp [hk]
    simp only [valuesFault?, List.findSome?_eq_none_iff, hlook]
    constructor
    · intro h
      refine ⟨List.cons_ne_nil _ _, fun v hv => ⟨(h v hv).1, fun w hw => ?_⟩⟩
      rw [(h v hv).2, (h w hw).2]
    · rintro ⟨-, h⟩ v hv
      exact ⟨(h v hv).1, (h v hv).2 first List.mem_cons_self⟩

/-- A range without a fault has a bound, and its bounds are finite. -/
theorem Range.of_fault?_eq_none {range : Range} (h : range.fault? = none) :
    (range.min ≠ none ∨ range.max ≠ none) ∧
      (∀ min, range.min = some min → min.isFinite = true) ∧
      ∀ max, range.max = some max → max.isFinite = true := by
  have hsome : range.min ≠ none ∨ range.max ≠ none := by
    by_contra hc
    obtain ⟨hmin, hmax⟩ := not_or.1 hc
    simp [Range.fault?, not_not.1 hmin, not_not.1 hmax] at h
  refine ⟨hsome, fun min hmin => ?_, fun max hmax => ?_⟩
  · by_contra hc
    rw [Bool.not_eq_true] at hc
    simp [Range.fault?, hmin, hc] at h
  · by_contra hc
    rw [Bool.not_eq_true] at hc
    by_cases hmin : range.min.any (!·.isFinite) = true
    · simp [Range.fault?, hmax, hmin] at h
    · simp [Range.fault?, hmax, hmin, hc] at h

/-- A length without a fault has a bound. -/
theorem Length.of_fault?_eq_none {length : Length} (h : length.fault? = none) :
    length.min ≠ none ∨ length.max ≠ none := by
  obtain ⟨min, max⟩ := length
  rcases min with _ | min
  · rcases max with _ | max
    · simp [Length.fault?] at h
    · simp
  · simp

/-! ### Trigger conditions -/

/-- The values that a condition mentions, if it mentions any. -/
def Condition.values? : Condition → Option (List Literal)
  | .compare _ _ value => some [value]
  | .isIn _ values => some values
  | .isNull _ | .isNotNull _ => none

/-- A condition without a fault is on a proper column outside the target, and the
values it mentions could be those of a list. -/
theorem Condition.of_fault?_eq_none {target : List String} {condition : Condition}
    (h : condition.fault? target = none) :
    (condition.column ≠ "" ∧ hasNul condition.column = false) ∧ condition.column ∉ target ∧
      ∀ values, condition.values? = some values → valuesFault? "when" values = none := by
  unfold Condition.fault? at h
  cases hc : columnFault? "when" condition.column with
  | some fault => simp [hc] at h
  | none =>
    refine ⟨columnFault?_eq_none_iff.1 hc, ?_⟩
    simp only [hc, List.contains_eq_mem, decide_eq_true_eq] at h
    split_ifs at h with hmem
    refine ⟨hmem, fun values hvalues => ?_⟩
    cases condition with
    | compare column operator value =>
      cases hvalues
      simpa [valuesFault?_eq_none_iff] using h
    | isIn column vs =>
      cases hvalues
      exact h
    | isNull column => cases hvalues
    | isNotNull column => cases hvalues

/-- A requirement without a fault has a condition, and none of its conditions has
a fault. -/
theorem Requirement.fault?_eq_none_iff {target : List String} {requirement : Requirement} :
    requirement.fault? target = none ↔
      requirement.when ≠ [] ∧ ∀ c ∈ requirement.when, c.fault? target = none := by
  unfold Requirement.fault?
  cases requirement.when with
  | nil => simp
  | cons c cs => simp [List.findSome?_eq_none_iff]

/-! ### Rules -/

variable [Pattern.SizeTest]

/-- **A rule has no fault** when its target, its label, its blanks and its kind
have none. -/
theorem RuleSpec.fault?_eq_none_iff {spec : RuleSpec} :
    spec.fault? = none ↔
      targetFault? spec.target = none ∧ labelFault? spec.label = none ∧
        (spec.allowBlank = true → spec.kind.isTextValued = true) ∧
        spec.kind.fault? spec.target spec.allowNull = none := by
  unfold RuleSpec.fault?
  cases targetFault? spec.target with
  | some fault => simp
  | none =>
    cases labelFault? spec.label with
    | some fault => simp
    | none =>
      cases spec.allowBlank <;> cases spec.kind.isTextValued <;> simp

end ColumnChecks
