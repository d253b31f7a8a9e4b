import Mathlib.Data.Int.Order.Basic
import Mathlib.Tactic.Common
import ColumnChecks.Proofs.Decimal.Grid
import ColumnChecks.Sql.Evaluate

/-!
# Even numbers

Whether a number is a multiple of two is asked of integers and of doubles alike,
and the answer is about the number itself: `ColumnChecks.Literal.IsEven` speaks of
divisibility of integers, and of divisibility in units for doubles. The evaluator
asks for a remainder instead and compares it with zero;
`ColumnChecks.Sql.remainderOf_two` says that this is the same question.

The remainder of a double is rounded once more when it is written down as a
double. That this does no harm here is `ColumnChecks.Decimal.nearestRank_one_eq_zero_iff`:
nothing but zero rounds to zero.
-/

namespace ColumnChecks

namespace Decimal

/-- A finite double is a number with a finite rank. -/
theorem isFinite_iff {d : Decimal} :
    d.isFinite = true ↔ ∃ negative rank, d = .number negative rank ∧
      rank.val < infinityRank := by
  cases d with
  | nan => simp [Decimal.isFinite]
  | number negative rank => simp [Decimal.isFinite]

/-- A magnitude rounds to itself. -/
theorem nearestRank_units {rank : Nat} (hpos : 0 < rank) (hfin : rank ≤ infinityRank) :
    (nearestRank (units rank) 1).val = rank := by
  have hdown : units (rank - 1) < units rank := units_strictMono (by omega)
  have hup : units rank < units (rank + 1) := units_strictMono (by omega)
  refine nearestRank_eq_of_rounds Nat.one_pos hfin hpos ⟨?_, ?_, fun h => ?_⟩ <;> omega

/-- The rank of two. -/
def rankOfTwo : Nat := 1024 * 2 ^ 52

theorem units_rankOfTwo : units rankOfTwo = 2 * unitsPerOne := by
  have hscale : scale rankOfTwo = 1023 := by
    rw [scale_eq, rankOfTwo, Nat.mul_div_cancel _ (Nat.two_pow_pos _)]
  have hsig : significand rankOfTwo = 2 ^ 52 := by
    have h := scale_mul_add_significand rankOfTwo
    rw [hscale, rankOfTwo] at h
    have h' : 1024 * 2 ^ 52 = 1023 * 2 ^ 52 + 2 ^ 52 := by norm_num
    exact Nat.add_left_cancel (h.trans h')
  rw [units_eq, hscale, hsig, ← pow_add, unitsPerOne_eq, ← pow_succ']

theorem ofInt_natCast (n : Nat) : ofInt n = .number false (nearestRank (n * unitsPerOne) 1) := by
  simp [ofInt, ofRatio]

theorem ofInt_two : ∃ rank : Fin (infinityRank + 1),
    ofInt 2 = .number false rank ∧ rank.val ≠ 0 ∧ rank.val ≠ infinityRank ∧
      units rank.val = 2 * unitsPerOne := by
  have hrank : (nearestRank (2 * unitsPerOne) 1).val = rankOfTwo := by
    rw [← units_rankOfTwo]
    exact nearestRank_units (by decide) (by decide)
  refine ⟨nearestRank (2 * unitsPerOne) 1, ofInt_natCast 2, ?_, ?_, ?_⟩
  · rw [hrank]
    decide
  · rw [hrank]
    decide
  · rw [hrank, units_rankOfTwo]

/-- The remainder of a finite double by two is zero just for the multiples of
two. -/
theorem remainder_two_compare (negative : Bool) {rank : Fin (infinityRank + 1)}
    (hfin : rank.val < infinityRank) :
    ∃ o, ((Decimal.number negative rank).remainder (ofInt 2)).compare? (ofInt 0) = some o ∧
      (o = .eq ↔ 2 * unitsPerOne ∣ units rank) := by
  obtain ⟨two, htwo, hne, hinf, hunits⟩ := ofInt_two
  have hzero : ofInt 0 = .number false (nearestRank (0 * unitsPerOne) 1) := ofInt_natCast 0
  have hrank : (nearestRank (0 * unitsPerOne) 1).val = 0 := by
    rw [nearestRank_one_eq_zero_iff, Nat.zero_mul]
  rw [htwo, hzero, remainder, if_neg (not_or.2 ⟨hfin.ne, hne⟩), if_neg hinf, compare?, hunits,
    hrank]
  refine ⟨_, rfl, ?_⟩
  rw [compare_eq_iff_eq, Nat.dvd_iff_mod_eq_zero, ← nearestRank_one_eq_zero_iff]
  unfold place
  split_ifs <;> simp

end Decimal

namespace Literal

/-- **The multiples of two** among the numbers. -/
def IsEven : Literal → Prop
  | .integer i => 2 ∣ i.toInt
  | .decimal (.number _ rank) => 2 * Decimal.unitsPerOne ∣ Decimal.units rank
  | _ => False

end Literal

namespace Sql

/-- The remainder of an integer by two, compared with zero. -/
theorem remainderOf_integer_two (i : Int64) :
    ∃ r o, remainderOf (.integer i) 2 = .ok r ∧ r.compare? (.integer 0) = some o ∧
      (o = .eq ↔ (Literal.integer i).IsEven) := by
  have hdivisor : ((2 : Int64) = -1) = False := by decide
  have htwo : (2 : Int64).toInt = 2 := by decide
  have hsmall : (Int64.ofInt (i.toInt.tmod 2)).toInt = i.toInt.tmod 2 := by
    have hlow : -2 < i.toInt.tmod 2 := Int.lt_tmod_of_pos _ (by decide)
    have hhigh : i.toInt.tmod 2 < 2 := Int.tmod_lt_of_pos _ (by decide)
    rw [Int64.toInt_ofInt]
    have hsize : (Int64.size : Int) = 18446744073709551616 := rfl
    exact Int.bmod_eq_of_le (by omega) (by omega)
  refine ⟨.integer (Int64.ofInt (i.toInt.tmod 2)), compare (i.toInt.tmod 2) 0, ?_, ?_, ?_⟩
  · simp [remainderOf, hdivisor, htwo]
  · simp [Literal.compare?, Literal.numeric?, Numeric.compare?, hsmall]
  · rw [compare_eq_iff_eq, Literal.IsEven]
    exact Int.dvd_iff_tmod_eq_zero.symm

/-- **The evaluator's question for even numbers**: the remainder of a finite
number by two equals zero just for the multiples of two. -/
theorem remainderOf_two {v : Literal} (hkind : v.kind = .numeric) (hfin : v.isFinite = true) :
    ∃ r o, remainderOf v 2 = .ok r ∧ r.compare? (.integer 0) = some o ∧
      (o = .eq ↔ v.IsEven) := by
  cases v with
  | boolean b => cases hkind
  | text s => cases hkind
  | integer i => exact remainderOf_integer_two i
  | decimal d =>
    obtain ⟨negative, rank, rfl, hrank⟩ := Decimal.isFinite_iff.1 hfin
    obtain ⟨o, ho, hiff⟩ := Decimal.remainder_two_compare negative hrank
    exact ⟨_, o, rfl, ho, hiff⟩

end Sql

end ColumnChecks
