import Mathlib.Algebra.Order.Field.Basic
import Mathlib.Data.Rat.Cast.Order
import ColumnChecks.Proofs.Decimal.Integers

/-!
# Numbers as they are

A finite double is a rational number (`ColumnChecks.Decimal.value`), and this file is about
the two ways in which a comparison may go wrong over that.

For two doubles it cannot: their places on the line are in the order of their values
(`ColumnChecks.Decimal.compare?_eq_value`). **An integer that is compared with a double is
rounded first**, and rounding never carries it past the double; but it may put it right
there (`ColumnChecks.Decimal.compare?_ofInt_left`). So the answer is either the exact one, or
`eq` for an integer that the double stands for without being it. Only integers beyond
`2 ^ 53` are not doubles themselves (`ColumnChecks.Decimal.value_ofInt`).
-/

namespace ColumnChecks

namespace Decimal

/-! ### The line of the doubles -/

/-- The number of units at a place of the line. -/
def unitsAt (p : Int) : Int := if p < 0 then -(units p.natAbs : Int) else units p.natAbs

/-- **The rational number that a finite double is.** -/
def value : Decimal → ℚ
  | .nan => 0
  | .number negative rank => (if negative then -1 else 1) * units rank / unitsPerOne

theorem unitsAt_of_nonneg {p : Int} (h : 0 ≤ p) : unitsAt p = units p.natAbs :=
  if_neg (not_lt.2 h)

theorem unitsAt_of_neg {p : Int} (h : p < 0) : unitsAt p = -(units p.natAbs : Int) := if_pos h

theorem unitsAt_lt_unitsAt {p q : Int} (hpq : p < q) : unitsAt p < unitsAt q := by
  rcases lt_or_ge p 0 with hp | hp
  · have hpos : 0 < units p.natAbs := by
      rw [← units_zero]
      exact units_strictMono (by omega)
    rw [unitsAt_of_neg hp]
    rcases lt_or_ge q 0 with hq | hq
    · -- Below zero the larger number has the smaller magnitude.
      have hunits : units q.natAbs < units p.natAbs := units_strictMono (by omega)
      rw [unitsAt_of_neg hq]
      omega
    · rw [unitsAt_of_nonneg hq]
      omega
  · have hunits : units p.natAbs < units q.natAbs := units_strictMono (by omega)
    rw [unitsAt_of_nonneg hp, unitsAt_of_nonneg (by omega)]
    omega

theorem value_number (negative : Bool) (rank : Fin (infinityRank + 1)) :
    value (.number negative rank) = (unitsAt (place negative rank) : ℚ) / unitsPerOne := by
  rw [value, place]
  cases negative with
  | false =>
    rw [if_neg Bool.false_ne_true, if_neg Bool.false_ne_true, one_mul,
      unitsAt_of_nonneg (Int.natCast_nonneg _), Int.natAbs_natCast, Int.cast_natCast]
  | true =>
    rcases Nat.eq_zero_or_pos rank.val with hrank | hrank
    · rw [if_pos rfl, if_pos rfl, hrank, Nat.cast_zero, neg_zero, unitsAt_of_nonneg le_rfl,
        Int.natAbs_zero, units_zero, Nat.cast_zero, mul_zero, Nat.cast_zero, Int.cast_zero]
    · rw [if_pos rfl, if_pos rfl, unitsAt_of_neg (by omega), Int.natAbs_neg, Int.natAbs_natCast,
        neg_one_mul, Int.cast_neg, Int.cast_natCast]

theorem unitsPerOne_cast_pos : (0 : ℚ) < unitsPerOne := Nat.cast_pos.2 unitsPerOne_pos

/-- Counted in units, integers are compared as rational numbers. -/
theorem compare_div_unitsPerOne (m n : Int) :
    compare ((m : ℚ) / unitsPerOne) (n / unitsPerOne) = compare m n := by
  have hmono : StrictMono fun n : Int => (n : ℚ) / unitsPerOne := fun _ _ h =>
    div_lt_div_of_pos_right (Int.cast_lt.2 h) unitsPerOne_cast_pos
  rw [← cmp_eq_compare, ← cmp_eq_compare]
  exact hmono.cmp_map_eq m n

theorem compare_unitsAt (p q : Int) : compare (unitsAt p) (unitsAt q) = compare p q := by
  have hmono : StrictMono unitsAt := fun _ _ => unitsAt_lt_unitsAt
  rw [← cmp_eq_compare, ← cmp_eq_compare]
  exact hmono.cmp_map_eq p q

theorem int_eq_div_unitsPerOne (i : Int) :
    (i : ℚ) = ((i * unitsPerOne : Int) : ℚ) / unitsPerOne := by
  rw [Int.cast_mul, Int.cast_natCast, mul_div_cancel_right₀ _ unitsPerOne_cast_pos.ne']

/-- **Two doubles are compared exactly.** -/
theorem compare?_eq_value {x y : Decimal} (hx : x.isFinite = true) (hy : y.isFinite = true) :
    x.compare? y = some (compare x.value y.value) := by
  obtain ⟨negative, rank, rfl, -⟩ := isFinite_iff.1 hx
  obtain ⟨negative', rank', rfl, -⟩ := isFinite_iff.1 hy
  rw [compare?, value_number, value_number, compare_div_unitsPerOne, compare_unitsAt]

/-! ### Integers next to doubles -/

theorem intRank_le {n rank : Nat} (hfin : rank ≤ infinityRank) (h : n * unitsPerOne ≤ units rank) :
    intRank n ≤ rank := by
  rcases Nat.eq_zero_or_pos rank with rfl | hpos
  · rw [units_zero, Nat.le_zero, Nat.mul_eq_zero] at h
    exact (intRank_eq_zero_iff.2 (h.resolve_right unitsPerOne_pos.ne')).le
  · have hmono := nearestRank_mono h
    rwa [nearestRank_units hpos hfin] at hmono

theorem le_intRank {n rank : Nat} (hfin : rank ≤ infinityRank) (h : units rank ≤ n * unitsPerOne) :
    rank ≤ intRank n := by
  rcases Nat.eq_zero_or_pos rank with rfl | hpos
  · exact Nat.zero_le _
  · have hmono := nearestRank_mono h
    rwa [nearestRank_units hpos hfin] at hmono

/-- **Rounding an integer does not carry it past a double above it.** -/
theorem intPlace_le {i p : Int} (hfin : p.natAbs ≤ infinityRank)
    (h : i * unitsPerOne ≤ unitsAt p) : intPlace i ≤ p := by
  have hunit := unitsPerOne_pos
  rcases lt_or_ge i 0 with hi | hi
  · have hmul : ((i.natAbs * unitsPerOne : Nat) : Int) = -(i * unitsPerOne) := by
      rw [Nat.cast_mul, Int.ofNat_natAbs_of_nonpos hi.le, neg_mul]
    rcases lt_or_ge p 0 with hp | hp
    · rw [unitsAt_of_neg hp] at h
      have hrank : p.natAbs ≤ intRank i.natAbs := le_intRank hfin (by omega)
      rw [intPlace_of_neg hi]
      omega
    · exact (intPlace_neg_iff.2 hi).le.trans hp
  · have hmul : ((i.natAbs * unitsPerOne : Nat) : Int) = i * unitsPerOne := by
      rw [Nat.cast_mul, Int.natAbs_of_nonneg hi]
    have hnonneg : 0 ≤ i * unitsPerOne := mul_nonneg hi (Int.natCast_nonneg _)
    have hp : 0 ≤ p := by
      by_contra hneg
      have hlt := unitsAt_lt_unitsAt (not_le.1 hneg)
      rw [unitsAt_of_nonneg le_rfl, Int.natAbs_zero, units_zero] at hlt
      omega
    rw [unitsAt_of_nonneg hp] at h
    have hrank : intRank i.natAbs ≤ p.natAbs := intRank_le hfin (by omega)
    rw [intPlace_of_nonneg hi]
    omega

theorem unitsAt_neg (p : Int) : unitsAt (-p) = -unitsAt p := by
  rcases lt_trichotomy p 0 with hp | rfl | hp
  · rw [unitsAt_of_neg hp, unitsAt_of_nonneg (by omega), Int.natAbs_neg, neg_neg]
  · simp [unitsAt_of_nonneg, units_zero]
  · rw [unitsAt_of_nonneg hp.le, unitsAt_of_neg (by omega), Int.natAbs_neg]

theorem intPlace_neg (i : Int) : intPlace (-i) = -intPlace i := by
  have hzero : intRank 0 = 0 := intRank_eq_zero_iff.2 rfl
  rcases lt_trichotomy i 0 with hi | rfl | hi
  · rw [intPlace_of_neg hi, intPlace_of_nonneg (by omega), Int.natAbs_neg, neg_neg]
  · simp [intPlace_of_nonneg, hzero]
  · rw [intPlace_of_nonneg hi.le, intPlace_of_neg (by omega), Int.natAbs_neg]

/-- Nor past one below it. -/
theorem le_intPlace {i p : Int} (hfin : p.natAbs ≤ infinityRank)
    (h : unitsAt p ≤ i * unitsPerOne) : p ≤ intPlace i := by
  -- This is the other direction, seen from the other end of the line.
  have hneg : intPlace (-i) ≤ -p := by
    refine intPlace_le (by rwa [Int.natAbs_neg]) ?_
    rw [unitsAt_neg, neg_mul]
    exact neg_le_neg h
  rw [intPlace_neg] at hneg
  omega

theorem natAbs_place (negative : Bool) (rank : Nat) : (place negative rank).natAbs = rank := by
  cases negative <;> simp [place]

theorem value_ofInt_eq (i : Int) : (ofInt i).value = (unitsAt (intPlace i) : ℚ) / unitsPerOne :=
  value_number _ _

/-- **An integer against a double**: the exact order, unless the integer is rounded to that
very double. -/
theorem compare?_ofInt_left (i : Int) {d : Decimal} (hd : d.isFinite = true)
    (h : (ofInt i).value = d.value → (i : ℚ) = d.value) :
    (ofInt i).compare? d = some (compare (i : ℚ) d.value) := by
  obtain ⟨negative, rank, rfl, hrank⟩ := isFinite_iff.1 hd
  obtain ⟨p, hp⟩ : ∃ p, p = place negative rank := ⟨_, rfl⟩
  have hfin : p.natAbs ≤ infinityRank := by
    rw [hp, natAbs_place]
    exact hrank.le
  have hplaces : (ofInt i).compare? (.number negative rank) = some (compare (intPlace i) p) := by
    rw [hp]
    rfl
  have hexact : compare (i : ℚ) (value (.number negative rank)) =
      compare (i * unitsPerOne) (unitsAt p) := by
    rw [int_eq_div_unitsPerOne, value_number, ← hp, compare_div_unitsPerOne]
  -- Where the places agree, so do the numbers.
  have hsame : intPlace i = p → i * unitsPerOne = unitsAt p := by
    intro heq
    rw [value_ofInt_eq, value_number, ← hp, heq] at h
    rw [← compare_eq_iff_eq, ← compare_div_unitsPerOne, compare_eq_iff_eq]
    exact (int_eq_div_unitsPerOne i).symm.trans (h rfl)
  rw [hplaces, hexact]
  congr 1
  rcases lt_trichotomy (i * unitsPerOne) (unitsAt p) with hlt | heq | hgt
  · rw [compare_lt_iff_lt.2 hlt, compare_lt_iff_lt]
    exact lt_of_le_of_ne (intPlace_le hfin hlt.le) fun heq => hlt.ne (hsame heq)
  · rw [compare_eq_iff_eq.2 heq, compare_eq_iff_eq]
    exact le_antisymm (intPlace_le hfin heq.le) (le_intPlace hfin heq.ge)
  · rw [compare_gt_iff_gt.2 hgt, compare_gt_iff_gt]
    exact lt_of_le_of_ne (le_intPlace hfin hgt.le) fun heq => hgt.ne' (hsame heq.symm)

/-- An integer that is rounded to a double compares as equal to it. -/
theorem compare?_ofInt_of_value_eq {i : Int} {d : Decimal} (hd : d.isFinite = true)
    (h : (ofInt i).value = d.value) : (ofInt i).compare? d = some .eq := by
  obtain ⟨negative, rank, rfl, -⟩ := isFinite_iff.1 hd
  have hplaces : (ofInt i).compare? (.number negative rank) =
      some (compare (intPlace i) (place negative rank)) := rfl
  rw [value_ofInt_eq, value_number, ← compare_eq_iff_eq, compare_div_unitsPerOne,
    compare_unitsAt] at h
  rw [hplaces, h]

/-- **Up to `2 ^ 53` an integer is not rounded.** -/
theorem value_ofInt {i : Int} (h : i.natAbs ≤ 2 ^ 53) : (ofInt i).value = i := by
  have hunits := units_intRank h
  rw [value_ofInt_eq]
  refine Eq.trans (congrArg (fun n : Int => (n : ℚ) / unitsPerOne) ?_)
    (int_eq_div_unitsPerOne i).symm
  rcases lt_or_ge i 0 with hi | hi
  · have hneg := intPlace_neg_iff.2 hi
    rw [unitsAt_of_neg hneg, intPlace_of_neg hi, Int.natAbs_neg, Int.natAbs_natCast, hunits,
      Nat.cast_mul, Int.ofNat_natAbs_of_nonpos hi.le, neg_mul, neg_neg]
  · rw [intPlace_of_nonneg hi, unitsAt_of_nonneg (Int.natCast_nonneg _), Int.natAbs_natCast, hunits,
      Nat.cast_mul, Int.natAbs_of_nonneg hi]

/-- The two ways around. -/
theorem compare?_swap (x y : Decimal) : y.compare? x = (x.compare? y).map Ordering.swap := by
  cases x with
  | nan => cases y <;> rfl
  | number negative rank =>
    cases y with
    | nan => rfl
    | number negative' rank' =>
      rw [compare?, compare?, Option.map_some, Int.compare_swap]

end Decimal

end ColumnChecks
