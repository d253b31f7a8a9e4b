import Mathlib.Data.List.Forall2
import Mathlib.Tactic.Common
import ColumnChecks.Sql.Evaluate

/-!
# The connectives as three-valued logic

The evaluator walks the operands of a connective from left to right and stops at
the first one that decides. What it finds does not depend on the walk:
`ColumnChecks.Sql.joinTruths` says it of the truth values alone – the deciding
value if some operand has it, otherwise unknown if some operand is unknown,
otherwise the neutral value.

The one thing that can go wrong on a row whose values have the right kinds is a
pattern that does not compile, and an operand behind a deciding one is not
evaluated at all. So the statements here are about
`ColumnChecks.Sql.Expr.Yields`: an expression has a truth value, *or* a pattern in
it does not compile. This relation passes through both connectives
(`ColumnChecks.Sql.Expr.Yields.and`, `ColumnChecks.Sql.Expr.Yields.or`), whichever
operand the evaluator stops at.
-/

namespace ColumnChecks

namespace Sql

/-! ### Joining truth values -/

/-- **The truth value of a connective**, from those of its operands: the value
that decides if it is among them, otherwise unknown if that is, otherwise the
neutral value. Conjunction has the neutral value `true`, disjunction `false`. -/
def joinTruths (neutral : Bool) (ts : List Truth) : Truth :=
  if some (!neutral) ∈ ts then some (!neutral)
  else if none ∈ ts then none
  else some neutral

theorem joinTruths_singleton (neutral : Bool) (t : Truth) : joinTruths neutral [t] = t := by
  rcases t with _ | b
  · rfl
  · cases b <;> cases neutral <;> rfl

theorem joinTruths_eq_decided {neutral : Bool} {ts : List Truth} :
    joinTruths neutral ts = some (!neutral) ↔ some (!neutral) ∈ ts := by
  unfold joinTruths
  split_ifs with h h'
  · simp [h]
  · simp [h]
  · simp [h]

theorem joinTruths_eq_neutral {neutral : Bool} {ts : List Truth} :
    joinTruths neutral ts = some neutral ↔ ∀ t ∈ ts, t = some neutral := by
  unfold joinTruths
  split_ifs with h h'
  · refine ⟨fun hc => ?_, fun hc => ?_⟩
    · simp at hc
    · simpa using hc _ h
  · refine ⟨fun hc => ?_, fun hc => ?_⟩
    · simp at hc
    · simpa using hc _ h'
  · refine ⟨fun _ t ht => ?_, fun _ => rfl⟩
    rcases t with _ | b
    · exact absurd ht h'
    · cases b <;> cases neutral <;> first | rfl | exact absurd ht h

theorem joinTruths_eq_none {neutral : Bool} {ts : List Truth} :
    joinTruths neutral ts = none ↔ some (!neutral) ∉ ts ∧ none ∈ ts := by
  unfold joinTruths
  split_ifs with h h'
  · simp [h]
  · simp [h, h']
  · simp [h']

/-- A neutral operand may be left out. -/
theorem joinTruths_cons_neutral (neutral : Bool) (ts : List Truth) :
    joinTruths neutral (some neutral :: ts) = joinTruths neutral ts := by
  simp [joinTruths]

/-! ### The truth value of a predicate, node by node -/

theorem truthOf_ofTruth (t : Truth) : truthOf (ofTruth t) = .ok t := by
  cases t <;> rfl

/-- A result that is a truth value reads back as one. -/
theorem bind_truthOf_ofTruth (x : Except EvalError Truth) :
    (x >>= fun t => Except.ok (ofTruth t)) >>= truthOf = x := by
  cases x with
  | error e => rfl
  | ok t => exact truthOf_ofTruth t

/-- What is made of the truth value of an operand is the truth value of the whole. -/
theorem bind_ofTruth_map (x : Except EvalError (Option Literal)) (g : Truth → Truth) :
    (x >>= fun v => truthOf v >>= fun t => Except.ok (ofTruth (g t))) >>= truthOf =
      (x >>= truthOf).map g := by
  cases x with
  | error e => rfl
  | ok v =>
    show (truthOf v >>= fun t => Except.ok (ofTruth (g t))) >>= truthOf = (truthOf v).map g
    cases truthOf v with
    | error e => rfl
    | ok t => exact truthOf_ofTruth (g t)

variable {row : Row}

variable [Pattern.SizeTest]

theorem evaluate_and (es : List Expr) :
    (Expr.and es).evaluate row = Expr.connect row true (some true) es := by
  rw [Expr.evaluate, Expr.value]
  exact bind_truthOf_ofTruth _

theorem evaluate_or (es : List Expr) :
    (Expr.or es).evaluate row = Expr.connect row false (some false) es := by
  rw [Expr.evaluate, Expr.value]
  exact bind_truthOf_ofTruth _

theorem evaluate_not (e : Expr) :
    (Expr.not e).evaluate row = (e.evaluate row).map (·.map (!·)) := by
  rw [Expr.evaluate, Expr.value, Expr.evaluate]
  exact bind_ofTruth_map _ _

theorem evaluate_coalesce (e : Expr) (fallback : Bool) :
    (Expr.coalesce e fallback).evaluate row =
      (e.evaluate row).map fun t => some (t.getD fallback) := by
  rw [Expr.evaluate, Expr.value, Expr.evaluate]
  exact bind_ofTruth_map _ fun t => some (t.getD fallback)

theorem evaluate_isNull_column (column : String) (negated : Bool) :
    (Expr.isNull (.column column) negated).evaluate row =
      .ok (some ((row column).isNone != negated)) := by
  simp [Expr.evaluate, Expr.value, truthOf, bind, Except.bind]

/-- A comparison with a missing value is unknown. -/
theorem evaluate_compare_none {left right : Expr} {op : Comparison} {r : Literal}
    (hl : left.value row = .ok none) (hr : right.value row = .ok (some r)) :
    (Expr.compare left op right).evaluate row = .ok none := by
  simp [Expr.evaluate, Expr.value, hl, hr, truthOf, bind, Except.bind]

/-- A comparison of two values that compare. -/
theorem evaluate_compare_some {left right : Expr} {op : Comparison} {l r : Literal} {o : Ordering}
    (hl : left.value row = .ok (some l)) (hr : right.value row = .ok (some r))
    (ho : l.compare? r = some o) :
    (Expr.compare left op right).evaluate row = .ok (some (op.holds o)) := by
  simp [Expr.evaluate, Expr.value, hl, hr, compareValues, ho, truthOf, bind, Except.bind]

/-! ### Yielding a truth value -/

/-- **An expression yields a truth value** on a row unless a pattern in it does
not compile. -/
def Expr.Yields (row : Row) (e : Expr) (t : Truth) : Prop :=
  e.evaluate row = .ok t ∨
    ∃ pattern error, e.evaluate row = .error (.invalidPattern pattern error)

theorem Expr.connect_cons (neutral : Bool) (sofar : Truth) (e : Expr) (es : List Expr) :
    Expr.connect row neutral sofar (e :: es) = e.evaluate row >>= fun t => match t with
      | none => Expr.connect row neutral none es
      | some b => if b = neutral then Expr.connect row neutral sofar es else .ok (some b) := by
  rw [Expr.connect, Expr.evaluate]
  cases e.value row with
  | error x => rfl
  | ok v => rfl

/-- **What a walk over operands finds**: joining the truth values that they
yield. `sofar` stands for the operands before, none of which decided. -/
theorem Expr.connect_yields (neutral : Bool) {es : List Expr} {ts : List Truth}
    (h : List.Forall₂ (Expr.Yields row) es ts) (sofar : Truth) (hs : sofar ≠ some (!neutral)) :
    Expr.connect row neutral sofar es = .ok (joinTruths neutral (sofar :: ts)) ∨
      ∃ pattern error,
        Expr.connect row neutral sofar es = .error (.invalidPattern pattern error) := by
  induction h generalizing sofar with
  | nil =>
    refine Or.inl ?_
    rw [Expr.connect, joinTruths_singleton]
  | @cons e t es ts he _ ih =>
    rw [Expr.connect_cons]
    rcases he with he | ⟨pattern, error, he⟩
    · rw [he]
      rcases t with _ | b
      · have hjoin :
            joinTruths neutral (sofar :: none :: ts) = joinTruths neutral (none :: ts) := by
          rcases sofar with _ | b
          · simp [joinTruths]
          · have hb : b = neutral := by cases b <;> cases neutral <;> simp_all
            rw [hb, joinTruths_cons_neutral]
        rw [hjoin]
        exact ih none (by simp)
      · by_cases hb : b = neutral
        · have hjoin :
              joinTruths neutral (sofar :: some b :: ts) = joinTruths neutral (sofar :: ts) := by
            simp [joinTruths, hb]
          rw [hjoin]
          simpa [bind, Except.bind, hb] using ih sofar hs
        · have hb' : b = !neutral := by cases b <;> cases neutral <;> simp_all
          refine Or.inl ?_
          rw [joinTruths_eq_decided.2 (by simp [hb'])]
          simp [bind, Except.bind, hb']
    · refine Or.inr ⟨pattern, error, ?_⟩
      rw [he]
      rfl

namespace Expr.Yields

variable {e : Expr} {t : Truth} {es : List Expr} {ts : List Truth}

theorem of_eq (h : e.evaluate row = .ok t) : Expr.Yields row e t := Or.inl h

/-- **A conjunction yields the join of what its operands yield.** -/
theorem and (h : List.Forall₂ (Expr.Yields row) es ts) :
    Expr.Yields row (.and es) (joinTruths true ts) := by
  have := Expr.connect_yields true h (some true) (by simp)
  rwa [joinTruths_cons_neutral, ← evaluate_and] at this

/-- **A disjunction yields the join of what its operands yield.** -/
theorem or (h : List.Forall₂ (Expr.Yields row) es ts) :
    Expr.Yields row (.or es) (joinTruths false ts) := by
  have := Expr.connect_yields false h (some false) (by simp)
  rwa [joinTruths_cons_neutral, ← evaluate_or] at this

/-- Building a conjunction of one operand changes nothing. -/
theorem all (h : List.Forall₂ (Expr.Yields row) es ts) :
    Expr.Yields row (.all es) (joinTruths true ts) := by
  rcases h with _ | ⟨he, _ | ⟨he', hes⟩⟩
  · exact Yields.and .nil
  · rwa [joinTruths_singleton]
  · exact Yields.and (.cons he (.cons he' hes))

/-- Building a disjunction of one operand changes nothing. -/
theorem any (h : List.Forall₂ (Expr.Yields row) es ts) :
    Expr.Yields row (.any es) (joinTruths false ts) := by
  rcases h with _ | ⟨he, _ | ⟨he', hes⟩⟩
  · exact Yields.or .nil
  · rwa [joinTruths_singleton]
  · exact Yields.or (.cons he (.cons he' hes))

theorem not (h : Expr.Yields row e t) : Expr.Yields row (.not e) (t.map (!·)) := by
  rcases h with h | ⟨pattern, error, h⟩
  · exact Or.inl (by rw [evaluate_not, h]; rfl)
  · exact Or.inr ⟨pattern, error, by rw [evaluate_not, h]; rfl⟩

theorem coalesce (h : Expr.Yields row e t) (fallback : Bool) :
    Expr.Yields row (.coalesce e fallback) (some (t.getD fallback)) := by
  rcases h with h | ⟨pattern, error, h⟩
  · exact Or.inl (by rw [evaluate_coalesce, h]; rfl)
  · exact Or.inr ⟨pattern, error, by rw [evaluate_coalesce, h]; rfl⟩

end Expr.Yields

end Sql

end ColumnChecks
