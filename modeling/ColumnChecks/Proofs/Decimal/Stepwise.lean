import ColumnChecks.Decimal.Stepwise
import ColumnChecks.Proofs.Decimal.Integers

/-!
# When reading step by step is exact

Reading a numeral step by step rounds up to three times: the digits, the power of ten, and
their product or quotient. **Only the last rounding is left** when the digits are a number
of at most 53 bits and the power of ten has an exponent of at most 22 in size, since both
are doubles then (`ColumnChecks.Decimal.units_tenPowerRank`). The numeral is then read as
the double that is nearest to it (`ColumnChecks.Decimal.ofParts_eq_ofDigits`).

Beyond these bounds the steps may miss it, as an example shows.
-/

namespace ColumnChecks

namespace Decimal

/-! ### Rounding a quotient -/

/-- A factor of both sides does not change how a quotient is rounded. -/
theorem roundHalfEven_mul_mul (num den : Nat) {c : Nat} (hc : 0 < c) :
    roundHalfEven (num * c) (den * c) = roundHalfEven num den := by
  have hrest : 2 * (num % den * c) = 2 * (num % den) * c := (mul_assoc _ _ _).symm
  simp only [roundHalfEven, Nat.mul_div_mul_right _ _ hc, Nat.mul_mod_mul_right, hrest,
    Nat.mul_lt_mul_right hc]

/-- **Rounding depends on the quotient alone.** -/
theorem nearestRank_mul_mul (num den : Nat) {c : Nat} (hc : 0 < c) :
    nearestRank (num * c) (den * c) = nearestRank num den := by
  refine Fin.ext ?_
  rw [nearestRank_val, nearestRank_val, Nat.mul_div_mul_right _ _ hc, Nat.mul_right_comm den,
    roundHalfEven_mul_mul _ _ hc]

/-- Nothing is rounded to zero. -/
theorem nearestRank_zero (den : Nat) : nearestRank 0 den = 0 := by
  refine Fin.ext ?_
  have hround : ∀ den, roundHalfEven 0 den = 0 := fun den => by simp [roundHalfEven]
  rw [nearestRank_val, Nat.zero_div, hround]
  rfl

/-! ### Steps that are exact -/

/-- The number of units that a word of 53 bits is rounded to. -/
theorem units_naturalRank {word : Nat} (h : word ≤ 2 ^ 53) :
    units (naturalRank word) = word * unitsPerOne := units_intRank h

/-- **The powers of ten up to `10 ^ 22` are doubles.** -/
theorem units_tenPowerRank {exponent : Nat} (h : exponent ≤ 22) :
    units (tenPowerRank exponent) = 10 ^ exponent * unitsPerOne := by
  -- A power of ten is one of five with zeros behind it, in binary.
  have hten : 10 ^ exponent = 5 ^ exponent * 2 ^ exponent := by rw [← Nat.mul_pow]
  have hfive : 5 ^ exponent ≤ 2 ^ 53 :=
    (Nat.pow_le_pow_right (by decide) h).trans (by decide)
  have hrank : (tenPowerRank exponent).val = intRank (5 ^ exponent * 2 ^ exponent) := by
    rw [← hten]
    rfl
  rw [hrank, units_intRank_mul_two_pow hfive (h.trans (by decide)), hten]

/-- Multiplying rounds once. -/
theorem multiplyByPower_eq {word places : Nat} (hword : word ≤ 2 ^ 53) (hplaces : places ≤ 22) :
    multiplyByPower (naturalRank word) places =
      nearestRank (word * 10 ^ places * unitsPerOne) 1 := by
  have hvalue : word * unitsPerOne * (10 ^ places * unitsPerOne) =
      word * 10 ^ places * unitsPerOne * unitsPerOne := by ring
  have hsteps : places ≤ greatestPower := hplaces.trans (by decide)
  rw [multiplyByPower, if_pos hsteps, productRank, units_naturalRank hword,
    units_tenPowerRank hplaces, hvalue, ← nearestRank_mul_mul _ 1 unitsPerOne_pos, one_mul]

/-- Dividing rounds once. -/
theorem divideByPower_eq {word places : Nat} (hword : word ≤ 2 ^ 53) (hplaces : places ≤ 22) :
    divideByPower (naturalRank word) places = nearestRank (word * unitsPerOne) (10 ^ places) := by
  have hrounds : (places - 1) / greatestPower = 0 :=
    Nat.div_eq_of_lt (Nat.lt_of_le_of_lt (Nat.sub_le _ _) (Nat.lt_of_le_of_lt hplaces (by decide)))
  rw [divideByPower, hrounds, divideOften, Nat.zero_mul, Nat.sub_zero, quotientRank,
    units_naturalRank hword, units_tenPowerRank hplaces, nearestRank_mul_mul _ _ unitsPerOne_pos]

/-- **A word of 53 bits and a small power of ten** are read as the double nearest to their
product. -/
theorem scaleWord_eq_ofDigits (negative : Bool) {word : Nat} {power : Int} (hword : word ≤ 2 ^ 53)
    (hpower : power.natAbs ≤ 22) :
    scaleWord negative word power = ofDigits negative word power := by
  rw [scaleWord, multiplyByPower_eq hword hpower, divideByPower_eq hword hpower]
  rcases Nat.eq_zero_or_pos word with rfl | hpos
  · rw [Nat.zero_mul, Nat.zero_mul, nearestRank_zero, nearestRank_zero, ite_self, ofDigits,
      if_pos rfl, signedZero]
  · have hlength : (Nat.toDigits 10 word).length ≤ 16 :=
      (Nat.length_toDigits_le_iff (by decide) (by decide)).2
        (Nat.lt_of_le_of_lt hword (by decide))
    have hlow : ¬400 < ((Nat.toDigits 10 word).length : Int) + power := by omega
    have hhigh : ¬((Nat.toDigits 10 word).length : Int) + power < -400 := by omega
    simp only [ofDigits, if_neg hpos.ne', if_neg hlow, if_neg hhigh, ofRatio, Nat.pow_eq]
    exact apply_ite _ _ _ _

/-! ### Numerals -/

/-- Digits behind a number do not make it smaller. -/
theorem le_digits (word : Nat) (cs : List Char) :
    word ≤ cs.foldl (fun n c => n * 10 + (c.toNat - '0'.toNat)) word := by
  induction cs generalizing word with
  | nil => exact le_rfl
  | cons c cs ih => exact (by omega : word ≤ word * 10 + (c.toNat - '0'.toNat)).trans (ih _)

/-- All digits fit into a word if their number does. -/
theorem takeDigits_eq {word : Nat} {cs : List Char}
    (h : cs.foldl (fun n c => n * 10 + (c.toNat - '0'.toNat)) word < UInt64.size) :
    takeDigits word cs = (cs.foldl (fun n c => n * 10 + (c.toNat - '0'.toNat)) word, []) := by
  induction cs generalizing word with
  | nil => rfl
  | cons c cs ih =>
    rw [List.foldl_cons] at h
    rw [takeDigits, if_pos (Nat.lt_of_le_of_lt (le_digits _ cs) h), ih h, List.foldl_cons]

/-- **A short numeral is read as the double nearest to it.** -/
theorem ofParts_eq_ofDigits (negative : Bool) {whole fraction : List Char} {exponent : Int}
    (hdigits : natOfDigits (whole ++ fraction) ≤ 2 ^ 53)
    (hpower : (exponent - fraction.length).natAbs ≤ 22) :
    ofParts negative whole fraction exponent =
      ofDigits negative (natOfDigits (whole ++ fraction)) (exponent - fraction.length) := by
  have hsize : 2 ^ 53 < UInt64.size := by decide
  have hfit := Nat.lt_of_le_of_lt hdigits hsize
  rw [natOfDigits, List.foldl_append] at hfit
  have hwhole := takeDigits_eq (Nat.lt_of_le_of_lt (le_digits _ fraction) hfit)
  have hfraction := takeDigits_eq hfit
  rw [ofParts, hwhole]
  simp only
  rw [hfraction, ← List.foldl_append, ← natOfDigits]
  simpa using scaleWord_eq_ofDigits negative hdigits hpower

/-- Sixteen digits may already be read as a neighbour of the double that they stand for. -/
example : ofParts false ['0'] "9452706955539223".toList 0 ≠
    ofDigits false 9452706955539223 (-16) := by decide +kernel

end Decimal

end ColumnChecks
