import ColumnChecks.Proofs.Decimal.Exact
import ColumnChecks.Proofs.Rule.Validity

/-!
# Numbers compared, and ranges between them

Integers are compared with integers and doubles with doubles, both exactly, and an integer
is compared with a double as a double. So the order of numbers is that of their values
(`ColumnChecks.Numeric.value`) except on **blurred pairs**: an integer and a double that the
integer is rounded to, but that it is not (`ColumnChecks.Numeric.Blurred`). On these the
comparison answers `eq`, and that is all that can go wrong
(`ColumnChecks.Numeric.compare?_of_blurred`, `ColumnChecks.Numeric.compare?_of_not_blurred`).

Being no order of values, the comparison is not transitive either: two integers may each be
equal to the double between them. And the bounds of a range pass the check in the order that
the comparison sees (`ColumnChecks.Range.fault?_between_eq_none_iff`). What holds of both is
said in `ColumnChecks.Numeric.compare?_eq_exact_iff`.
-/

namespace ColumnChecks

namespace Numeric

variable {x y z : Numeric}

/-- **The rational number that a finite number is.** -/
def value : Numeric → ℚ
  | .integer i => i.toInt
  | .decimal d => d.value

/-- **An integer and a double that are blurred**: rounding makes one of the other without
their being the same. -/
def Blurred : Numeric → Numeric → Prop
  | .integer i, .decimal d | .decimal d, .integer i =>
    (Decimal.ofInt i.toInt).value = d.value ∧ (i.toInt : ℚ) ≠ d.value
  | _, _ => False

/-- A number that the comparison does not put behind another one. -/
def AtMost (x y : Numeric) : Prop := ∃ o, x.compare? y = some o ∧ o ≠ .gt

/-! ### One comparison -/

theorem blurred_comm : x.Blurred y ↔ y.Blurred x := by
  cases x <;> cases y <;> exact Iff.rfl

theorem value_ne_of_blurred (h : x.Blurred y) : x.value ≠ y.value := by
  cases x <;> cases y
  · cases h
  · exact h.2
  · exact h.2.symm
  · cases h

/-- Only a large integer is blurred. -/
theorem exists_large_of_blurred (h : x.Blurred y) :
    ∃ i, (x = .integer i ∨ y = .integer i) ∧ 2 ^ 53 < i.toInt.natAbs := by
  have hlarge : ∀ {i : Int} {d : Decimal},
      (Decimal.ofInt i).value = d.value ∧ (i : ℚ) ≠ d.value → 2 ^ 53 < i.natAbs := by
    rintro i d ⟨hrounded, hne⟩
    by_contra hle
    exact hne ((Decimal.value_ofInt (not_lt.1 hle)).symm.trans hrounded)
  cases x with
  | integer i =>
    cases y with
    | integer j => cases h
    | decimal d => exact ⟨i, Or.inl rfl, hlarge h⟩
  | decimal d =>
    cases y with
    | integer j => exact ⟨j, Or.inr rfl, hlarge h⟩
    | decimal d' => cases h

/-- **Exchanging the two numbers** turns the answer around, also where there is none. -/
theorem compare?_swap (x y : Numeric) : y.compare? x = (x.compare? y).map Ordering.swap := by
  cases x with
  | integer i =>
    cases y with
    | integer j => rw [compare?, compare?, Option.map_some, Int.compare_swap]
    | decimal d => exact Decimal.compare?_swap _ _
  | decimal d => cases y <;> exact Decimal.compare?_swap _ _

/-- **The comparison is exact** on a pair that is not blurred. -/
theorem compare?_of_not_blurred (hx : x.isFinite = true) (hy : y.isFinite = true)
    (h : ¬ x.Blurred y) : x.compare? y = some (compare x.value y.value) := by
  -- Of the two mixed pairs one is the other one turned around.
  have hmixed : ∀ {i : Int64} {d : Decimal}, d.isFinite = true →
      ¬ (Numeric.integer i).Blurred (.decimal d) →
      (Numeric.integer i).compare? (.decimal d) = some (compare (i.toInt : ℚ) d.value) := by
    intro i d hd hblurred
    refine Decimal.compare?_ofInt_left i.toInt hd fun hrounded => ?_
    by_contra hne
    exact hblurred ⟨hrounded, hne⟩
  cases x with
  | integer i =>
    cases y with
    | integer j =>
      have hcast := (Int.cast_strictMono (R := ℚ)).cmp_map_eq i.toInt j.toInt
      rw [cmp_eq_compare, cmp_eq_compare] at hcast
      exact congrArg some hcast.symm
    | decimal d => exact hmixed hy h
  | decimal d =>
    cases y with
    | integer j =>
      rw [compare?_swap (.integer j) (.decimal d), hmixed hx (mt blurred_comm.1 h),
        Option.map_some, ← cmp_eq_compare, cmp_swap, cmp_eq_compare]
      rfl
    | decimal d' => exact Decimal.compare?_eq_value hx hy

/-- On a blurred pair it finds no difference. -/
theorem compare?_of_blurred (hx : x.isFinite = true) (hy : y.isFinite = true) (h : x.Blurred y) :
    x.compare? y = some .eq := by
  cases x with
  | integer i =>
    cases y with
    | integer j => cases h
    | decimal d => exact Decimal.compare?_ofInt_of_value_eq hy h.1
  | decimal d =>
    cases y with
    | integer j =>
      rw [compare?_swap (.integer j) (.decimal d)]
      exact congrArg _ (Decimal.compare?_ofInt_of_value_eq hx h.1)
    | decimal d' => cases h

theorem compare?_eq_exact (hx : x.isFinite = true) (hy : y.isFinite = true) :
    x.compare? y = some (compare x.value y.value) ↔ ¬ x.Blurred y := by
  refine ⟨fun hexact hblurred => ?_, compare?_of_not_blurred hx hy⟩
  rw [compare?_of_blurred hx hy hblurred, Option.some_inj, eq_comm, compare_eq_iff_eq] at hexact
  exact value_ne_of_blurred hblurred hexact

/-! ### The order -/

theorem atMost_iff (hx : x.isFinite = true) (hy : y.isFinite = true) :
    x.AtMost y ↔ x.value ≤ y.value ∨ x.Blurred y := by
  by_cases hblurred : x.Blurred y
  · exact iff_of_true ⟨.eq, compare?_of_blurred hx hy hblurred, nofun⟩ (Or.inr hblurred)
  · rw [or_iff_left hblurred, AtMost, compare?_of_not_blurred hx hy hblurred]
    simp [compare_le_iff_le]

end Numeric

/-- **A range with both bounds passes the check** just if the comparison puts the lower one
first, or finds them equal and both are included. -/
theorem Range.fault?_between_eq_none_iff {x y : Numeric} (hx : x.isFinite = true)
    (hy : y.isFinite = true) (low high : Bool) :
    (⟨some x, some y, low, high⟩ : Range).fault? = none ↔
      (x.value < y.value ∧ ¬ x.Blurred y) ∨
        ((x.value = y.value ∨ x.Blurred y) ∧ low = true ∧ high = true) := by
  have hchecks : (⟨some x, some y, low, high⟩ : Range).fault? = none ↔
      x.compare? y = some .lt ∨ (x.compare? y = some .eq ∧ low = true ∧ high = true) := by
    simp only [fault?, Option.isNone_some, Bool.and_self, Bool.false_eq_true, if_false,
      Option.any_some, hx, hy, Bool.not_true]
    rcases x.compare? y with _ | (_ | _ | _) <;> cases low <;> cases high <;> simp
  rw [hchecks]
  by_cases hblurred : x.Blurred y
  · simp [Numeric.compare?_of_blurred hx hy hblurred, hblurred]
  · simp [Numeric.compare?_of_not_blurred hx hy hblurred, hblurred, compare_lt_iff_lt]

namespace Numeric

/-- **What the comparison of finite numbers is.** It gives the order of the values just on
the pairs that are not blurred; a blurred pair, which has an integer beyond `2 ^ 53`,
compares as equal. It turns around with its operands and puts any two numbers one way or the
other, but it is transitive only past blurred pairs. A range passes the check if its bounds
are in the order of their values, or are blurred and both included. -/
theorem compare?_eq_exact_iff {x y : Numeric} (hx : x.isFinite = true) (hy : y.isFinite = true) :
    (x.compare? y = some (compare x.value y.value) ↔ ¬ x.Blurred y) ∧
    (x.Blurred y → x.compare? y = some .eq ∧ x.value ≠ y.value ∧
      ∃ i, (x = .integer i ∨ y = .integer i) ∧ 2 ^ 53 < i.toInt.natAbs) ∧
    y.compare? x = (x.compare? y).map Ordering.swap ∧
    (x.AtMost y ∨ y.AtMost x) ∧
    (∀ z : Numeric, z.isFinite = true → x.AtMost y → y.AtMost z →
      x.AtMost z ∨ x.Blurred y ∨ y.Blurred z) ∧
    ∀ low high, (⟨some x, some y, low, high⟩ : Range).fault? = none ↔
      (x.value < y.value ∧ ¬ x.Blurred y) ∨
        ((x.value = y.value ∨ x.Blurred y) ∧ low = true ∧ high = true) := by
  refine ⟨compare?_eq_exact hx hy, fun h => ?_, compare?_swap x y, ?_, fun z hz hxy hyz => ?_,
    Range.fault?_between_eq_none_iff hx hy⟩
  · exact ⟨compare?_of_blurred hx hy h, value_ne_of_blurred h, exists_large_of_blurred h⟩
  · rw [atMost_iff hx hy, atMost_iff hy hx]
    exact (le_total x.value y.value).imp Or.inl Or.inl
  · rw [atMost_iff hx hy] at hxy
    rw [atMost_iff hy hz] at hyz
    rw [atMost_iff hx hz]
    rcases hxy with hxy | hblurred
    · rcases hyz with hyz | hblurred
      · exact Or.inl (Or.inl (hxy.trans hyz))
      · exact Or.inr (Or.inr hblurred)
    · exact Or.inr (Or.inl hblurred)

/-- Two to the power of 53 as a double. -/
def twoPow53 : Decimal := .ofInt 9007199254740992

/-- The next integer is rounded to it. -/
theorem twoPow53_blurred :
    (Numeric.integer 9007199254740993).isFinite = true ∧
    (Numeric.decimal twoPow53).isFinite = true ∧
    (Numeric.integer 9007199254740993).Blurred (.decimal twoPow53) ∧
    (Numeric.integer 9007199254740993).compare? (.decimal twoPow53) = some .eq ∧
    (⟨some (.integer 9007199254740993), some (.decimal twoPow53), true, true⟩ : Range).fault? =
      none := by
  have hfinite : (Numeric.decimal twoPow53).isFinite = true := by decide +kernel
  have hrounded : Decimal.ofInt 9007199254740993 = twoPow53 := by decide +kernel
  have hvalue : twoPow53.value = (9007199254740992 : Int) := Decimal.value_ofInt (by decide)
  have hblurred : (Numeric.integer 9007199254740993).Blurred (.decimal twoPow53) := by
    refine ⟨congrArg Decimal.value hrounded, ?_⟩
    rw [hvalue, Ne, Int.cast_inj]
    decide
  obtain ⟨-, hequal, -, -, -, hrange⟩ := compare?_eq_exact_iff (x := .integer 9007199254740993) rfl
    hfinite
  exact ⟨rfl, hfinite, hblurred, (hequal hblurred).1,
    (hrange true true).2 (Or.inr ⟨Or.inr hblurred, rfl, rfl⟩)⟩

/-- It is equal to a double that is equal to the integer before it, and so the comparison is
not transitive. -/
example : (Numeric.integer 9007199254740993).compare? (.decimal twoPow53) = some .eq ∧
    (Numeric.decimal twoPow53).compare? (.integer 9007199254740992) = some .eq ∧
    (Numeric.integer 9007199254740993).compare? (.integer 9007199254740992) = some .gt := by
  decide +kernel

end Numeric

end ColumnChecks
