import ColumnChecks.Proofs.Rule.Satisfaction
import ColumnChecks.Proofs.Sql.Kleene

/-!
# Judging the value of a column

A condition on one column is unknown where the column has no value, and otherwise
true or false of the value: `ColumnChecks.Sql.judge` turns a property of values
into such a truth value. The lemmas here evaluate the expressions that predicates
are put together from, each against its property, for values of the kind that the
expression takes. Judgments of one column join as their properties do
(`ColumnChecks.Sql.joinTruths_judge_and`, `ColumnChecks.Sql.joinTruths_judge_or`).
-/

namespace ColumnChecks

/-! ### Values that compare -/

/-- A finite number as a double is a number; an integer may round to any rank. -/
theorem Numeric.exists_toDecimal {n : Numeric} (h : n.isFinite = true) :
    ∃ negative rank, n.toDecimal = .number negative rank := by
  cases n with
  | integer i => exact ⟨_, _, rfl⟩
  | decimal d =>
    obtain ⟨negative, rank, rfl, -⟩ := Decimal.isFinite_iff.1 h
    exact ⟨negative, rank, rfl⟩

theorem Numeric.exists_compare? {m n : Numeric} (hm : m.isFinite = true) (hn : n.isFinite = true) :
    ∃ o, m.compare? n = some o := by
  have hdecimals : ∃ o, m.toDecimal.compare? n.toDecimal = some o := by
    obtain ⟨s, r, hr⟩ := Numeric.exists_toDecimal hm
    obtain ⟨s', r', hr'⟩ := Numeric.exists_toDecimal hn
    rw [hr, hr']
    exact ⟨_, rfl⟩
  cases m with
  | integer i =>
    cases n with
    | integer j => exact ⟨_, rfl⟩
    | decimal d => exact hdecimals
  | decimal d => exact hdecimals

/-- **Finite values of one kind compare.** -/
theorem Literal.exists_compare? {v w : Literal} (hkind : v.kind = w.kind)
    (hv : v.isFinite = true) (hw : w.isFinite = true) : ∃ o, v.compare? w = some o := by
  cases v <;> cases w <;> simp only [Literal.kind, reduceCtorEq] at hkind
  · exact ⟨_, rfl⟩
  · exact ⟨_, rfl⟩
  · exact Numeric.exists_compare? (m := .integer _) (n := .decimal _) rfl hw
  · exact Numeric.exists_compare? (m := .decimal _) (n := .integer _) hv rfl
  · exact Numeric.exists_compare? (m := .decimal _) (n := .decimal _) hv hw
  · exact ⟨_, rfl⟩

theorem Literal.exists_text {v : Literal} (h : v.kind = .text) : ∃ s, v = .text s := by
  cases v with
  | text s => exact ⟨s, rfl⟩
  | boolean b => cases h
  | integer i => cases h
  | decimal d => cases h

/-- Of texts, one equals the blank one only by being it. -/
theorem Literal.compare?_blankText {v : Literal} (h : v.kind = .text) :
    ∃ o, v.compare? blankText = some o ∧ (o = .eq ↔ v = blankText) := by
  obtain ⟨s, rfl⟩ := Literal.exists_text h
  refine ⟨compare s "", rfl, ?_⟩
  rw [Std.LawfulEqCmp.compare_eq_iff_eq, blankText, Literal.text.injEq]

namespace Sql

/-! ### Judgments -/

open Classical in
/-- **The judgment of a value that may be missing**: unknown where it is. -/
noncomputable def judge (P : Literal → Prop) (v : Option Literal) : Truth :=
  v.map fun v => decide (P v)

variable {P Q : Literal → Prop} {v : Option Literal}

theorem judge_some_eq {v : Literal} {b : Bool} (h : b = true ↔ P v) :
    judge P (some v) = some b := by
  by_cases hP : P v
  · simp [judge, hP, h.2 hP]
  · simp [judge, hP, Bool.eq_false_iff.2 (mt h.1 hP)]

theorem judge_eq_true : judge P v = some true ↔ ∃ w, v = some w ∧ P w := by
  cases v <;> simp [judge]

theorem judge_eq_false : judge P v = some false ↔ ∃ w, v = some w ∧ ¬P w := by
  cases v <;> simp [judge]

theorem judge_eq_none : judge P v = none ↔ v = none := by
  cases v <;> simp [judge]

theorem judge_congr (h : ∀ w, v = some w → (P w ↔ Q w)) : judge P v = judge Q v := by
  cases v with
  | none => rfl
  | some w => simp [judge, h w rfl]

theorem joinTruths_judge_and :
    joinTruths true [judge P v, judge Q v] = judge (fun w => P w ∧ Q w) v := by
  cases v with
  | none => rfl
  | some w => by_cases hP : P w <;> by_cases hQ : Q w <;> simp [judge, joinTruths, hP, hQ]

theorem joinTruths_judge_or :
    joinTruths false [judge P v, judge Q v] = judge (fun w => P w ∨ Q w) v := by
  cases v with
  | none => rfl
  | some w => by_cases hP : P w <;> by_cases hQ : Q w <;> simp [judge, joinTruths, hP, hQ]

/-! ### Lists and lengths -/

/-- **Membership in a list** is equality with one of its values, as long as the
value compares with all of them. -/
theorem isAmong_eq {v : Literal} {values : List Literal}
    (h : ∀ w ∈ values, ∃ o, v.compare? w = some o) :
    ∃ b, isAmong v values = .ok b ∧ (b = true ↔ ∃ w ∈ values, v.Relates .eq w) := by
  induction values with
  | nil => exact ⟨false, rfl, by simp⟩
  | cons w ws ih =>
    obtain ⟨o, ho⟩ := h w List.mem_cons_self
    obtain ⟨b, hb, hiff⟩ := ih fun w' hw' => h w' (List.mem_cons_of_mem _ hw')
    have hrelates : v.Relates .eq w ↔ o = .eq := by
      simp [Literal.Relates, ho, Comparison.holds]
    by_cases heq : o = .eq
    · refine ⟨true, ?_, ?_⟩
      · simp [isAmong, compareValues, ho, heq, bind, Except.bind]
      · simp [hrelates, heq]
    · refine ⟨b, ?_, ?_⟩
      · simp [isAmong, compareValues, ho, heq, hb, bind, Except.bind]
      · rw [List.exists_mem_cons_iff, hrelates, hiff]
        simp [heq]

theorem compare?_integer (i j : Int64) :
    (Literal.integer i).compare? (.integer j) = some (compare i.toInt j.toInt) := rfl

theorem holds_ge_compare {i j : Int64} :
    Comparison.ge.holds (compare i.toInt j.toInt) = true ↔ j ≤ i := by
  rw [Comparison.holds, bne_iff_ne, Int.compare_ne_lt, Int64.le_iff_toInt_le]

theorem holds_le_compare {i j : Int64} :
    Comparison.le.holds (compare i.toInt j.toInt) = true ↔ i ≤ j := by
  rw [Comparison.holds, bne_iff_ne, Int.compare_ne_gt, Int64.le_iff_toInt_le]

theorem Length.admits_text {length : Length} {s : String} :
    length.Admits (.text s) ↔ (∀ min, length.min = some min → min ≤ Int64.ofNat s.length) ∧
      ∀ max, length.max = some max → Int64.ofNat s.length ≤ max := by
  refine ⟨?_, fun h => ⟨s, rfl, h⟩⟩
  rintro ⟨s', hs, h⟩
  rwa [Literal.text.inj hs]

/-! ### Expressions on one column -/

variable {row : Row} {column : String}

variable [Pattern.SizeTest]

/-- **An expression yields a judgment** of a column if it is unknown where the
column has no value, and elsewhere yields what the property says. -/
theorem Expr.Yields.judge {e : Expr} {P : Literal → Prop}
    (hnone : row column = none → e.evaluate row = .ok none)
    (hsome : ∀ v, row column = some v → ∃ b, (b = true ↔ P v) ∧ Expr.Yields row e (some b)) :
    Expr.Yields row e (judge P (row column)) := by
  cases hv : row column with
  | none => exact Or.inl (hnone hv)
  | some v =>
    obtain ⟨b, hb, he⟩ := hsome v hv
    rwa [judge_some_eq hb]

/-- **A comparison with a literal** yields a judgment if what is compared has a value
exactly where the column has one, and that value compares as the property says. -/
theorem yields_comparison {left : Expr} {op : Comparison} {w : Literal} {P : Literal → Prop}
    (hnone : row column = none → left.value row = .ok none)
    (hsome : ∀ v, row column = some v →
      ∃ m o, left.value row = .ok (some m) ∧ m.compare? w = some o ∧ (op.holds o = true ↔ P v)) :
    Expr.Yields row (.compare left op (.literal w)) (judge P (row column)) := by
  have hw : (Expr.literal w).value row = .ok (some w) := by rw [Expr.value]
  refine Expr.Yields.judge (fun h => evaluate_compare_none (hnone h) hw) fun v h => ?_
  obtain ⟨m, o, hm, ho, hiff⟩ := hsome v h
  exact ⟨op.holds o, hiff, Or.inl (evaluate_compare_some hm hw ho)⟩

theorem value_column {v : Option Literal} (h : row column = v) :
    (Expr.column column).value row = .ok v := by
  rw [Expr.value, h]

/-- Comparing a column with a literal. -/
theorem yields_compare {op : Comparison} {w : Literal} (hw : w.isFinite = true)
    (hv : ∀ v, row column = some v → v.isFinite = true ∧ v.kind = w.kind) :
    Expr.Yields row (.compare (.column column) op (.literal w))
      (judge (fun v => v.Relates op w) (row column)) := by
  refine yields_comparison value_column fun v h => ?_
  obtain ⟨hfin, hkind⟩ := hv v h
  obtain ⟨o, ho⟩ := Literal.exists_compare? hkind hfin hw
  refine ⟨v, o, value_column h, ho, fun hb => ⟨o, ho, hb⟩, ?_⟩
  rintro ⟨o', ho', hb⟩
  rw [ho, Option.some_inj] at ho'
  rwa [ho']

/-- Comparing a column of texts with the blank one. -/
theorem yields_eq_blank (hv : ∀ v, row column = some v → v.kind = .text) :
    Expr.Yields row (.compare (.column column) .eq (.literal blankText))
      (judge (· = blankText) (row column)) := by
  refine yields_comparison value_column fun v h => ?_
  obtain ⟨o, ho, hiff⟩ := Literal.compare?_blankText (hv v h)
  refine ⟨v, o, value_column h, ho, ?_⟩
  rw [← hiff, Comparison.holds, beq_iff_eq]

theorem yields_ne_blank (hv : ∀ v, row column = some v → v.kind = .text) :
    Expr.Yields row (.compare (.column column) .ne (.literal blankText))
      (judge (· ≠ blankText) (row column)) := by
  refine yields_comparison value_column fun v h => ?_
  obtain ⟨o, ho, hiff⟩ := Literal.compare?_blankText (hv v h)
  refine ⟨v, o, value_column h, ho, ?_⟩
  rw [Comparison.holds, bne_iff_ne, Ne, Ne, hiff]

theorem yields_inList {values : List Literal} (hw : ∀ w ∈ values, w.isFinite = true)
    (hv : ∀ v, row column = some v → v.isFinite = true ∧ ∀ w ∈ values, v.kind = w.kind) :
    Expr.Yields row (.inList (.column column) values)
      (judge (fun v => ∃ w ∈ values, v.Relates .eq w) (row column)) := by
  refine Expr.Yields.judge (fun h => ?_) (fun v h => ?_)
  · simp [Expr.evaluate, Expr.value, h, truthOf, bind, Except.bind]
  · obtain ⟨hfin, hkind⟩ := hv v h
    obtain ⟨b, hb, hiff⟩ :=
      isAmong_eq fun w hmem => Literal.exists_compare? (hkind w hmem) hfin (hw w hmem)
    refine ⟨b, hiff, Or.inl ?_⟩
    simp [Expr.evaluate, Expr.value, h, hb, truthOf, bind, Except.bind]

/-- The remainder by two of a column of numbers, compared with zero. -/
theorem yields_parity (p : Parity)
    (hv : ∀ v, row column = some v → v.isFinite = true ∧ v.kind = .numeric) :
    Expr.Yields row (p.expr column) (judge p.Admits (row column)) := by
  have hdivisor : ¬(2 : Int64) = 0 := by decide
  have hnone : row column = none → (Expr.modulo (.column column) 2).value row = .ok none := by
    intro h
    simp [Expr.value, hdivisor, h, bind, Except.bind]
  have hsome : ∀ v, row column = some v → ∃ r o,
      (Expr.modulo (.column column) 2).value row = .ok (some r) ∧
        r.compare? (.integer 0) = some o ∧ (o = .eq ↔ v.IsEven) := by
    intro v h
    obtain ⟨hfin, hkind⟩ := hv v h
    obtain ⟨r, o, hr, ho, hiff⟩ := remainderOf_two hkind hfin
    exact ⟨r, o, by simp [Expr.value, hdivisor, h, hr, bind, Except.bind], ho, hiff⟩
  cases p with
  | even =>
    refine yields_comparison hnone fun v h => ?_
    obtain ⟨r, o, hr, ho, hiff⟩ := hsome v h
    refine ⟨r, o, hr, ho, ?_⟩
    rw [Parity.Admits, ← hiff, Comparison.holds, beq_iff_eq]
  | odd =>
    refine yields_comparison hnone fun v h => ?_
    obtain ⟨r, o, hr, ho, hiff⟩ := hsome v h
    refine ⟨r, o, hr, ho, ?_⟩
    rw [Parity.Admits, ← hiff, Comparison.holds, bne_iff_ne]

/-- A pattern on a column of texts; here evaluation may fail. -/
theorem yields_regexMatch {pattern : String} {negated caseInsensitive : Bool}
    (hv : ∀ v, row column = some v → v.kind = .text) :
    Expr.Yields row (.regexMatch (.column column) pattern negated caseInsensitive)
      (judge (fun v => ∃ s, v = .text s ∧
        matchesPattern pattern caseInsensitive s = .ok (!negated)) (row column)) := by
  refine Expr.Yields.judge (fun h => ?_) (fun v h => ?_)
  · simp [Expr.evaluate, Expr.value, h, truthOf, bind, Except.bind]
  · obtain ⟨s, rfl⟩ := Literal.exists_text (hv v h)
    cases hm : matchesPattern pattern caseInsensitive s with
    | error x =>
      refine ⟨false, by simp [hm], Or.inr ?_⟩
      unfold matchesPattern at hm
      cases hc : Pattern.compile caseInsensitive pattern with
      | ok r => simp [hc] at hm
      | error y =>
        refine ⟨pattern, y, ?_⟩
        simp [Expr.evaluate, Expr.value, h, matchesPattern, hc, bind, Except.bind]
    | ok b =>
      refine ⟨b != negated, ?_, Or.inl ?_⟩
      · cases b <;> cases negated <;> simp [hm]
      · simp [Expr.evaluate, Expr.value, h, hm, truthOf, bind, Except.bind]

/-! ### Lengths -/

theorem value_charLength_none (h : row column = none) :
    (Expr.charLength (.column column)).value row = .ok none := by
  simp [Expr.value, h, bind, Except.bind]

theorem value_charLength_text {s : String} (h : row column = some (.text s)) :
    (Expr.charLength (.column column)).value row =
      .ok (some (.integer (Int64.ofNat s.length))) := by
  simp [Expr.value, h, lengthOf, bind, Except.bind]

/-- One bound on a length, compared with the number of characters. -/
theorem yields_compare_charLength {op : Comparison} {bound : Int64} {P : Literal → Prop}
    (hv : ∀ v, row column = some v → v.kind = .text)
    (hP : ∀ s, op.holds (compare (Int64.ofNat s.length).toInt bound.toInt) = true ↔
      P (.text s)) :
    Expr.Yields row (.compare (.charLength (.column column)) op (.literal (.integer bound)))
      (judge P (row column)) := by
  refine yields_comparison value_charLength_none fun v h => ?_
  obtain ⟨s, rfl⟩ := Literal.exists_text (hv v h)
  exact ⟨_, _, value_charLength_text h, compare?_integer _ _, hP s⟩

/-- The bounds on a length, compared with the number of characters. -/
theorem yields_length {length : Length} (hbound : length.min ≠ none ∨ length.max ≠ none)
    (hv : ∀ v, row column = some v → v.kind = .text) :
    Expr.Yields row (length.expr column) (judge length.Admits (row column)) := by
  -- The expression depends on which of the two bounds there are.
  obtain ⟨min, max⟩ := length
  rcases min with _ | min <;> rcases max with _ | max
  · simp at hbound
  · refine yields_compare_charLength hv fun s => ?_
    rw [holds_le_compare, Length.admits_text]
    simp
  · refine yields_compare_charLength hv fun s => ?_
    rw [holds_ge_compare, Length.admits_text]
    simp
  · refine Expr.Yields.judge (fun h => ?_) (fun v h => ?_)
    · simp [Length.expr, Expr.evaluate, Expr.value, h, truthOf, bind, Except.bind]
    · obtain ⟨s, rfl⟩ := Literal.exists_text (hv v h)
      refine ⟨Comparison.ge.holds (compare (Int64.ofNat s.length).toInt min.toInt) &&
          Comparison.le.holds (compare (Int64.ofNat s.length).toInt max.toInt), ?_, Or.inl ?_⟩
      · rw [Bool.and_eq_true, holds_ge_compare, holds_le_compare, Length.admits_text]
        simp
      · rw [Length.expr, Expr.evaluate, Expr.value, value_charLength_text h]
        rfl

end Sql

end ColumnChecks
