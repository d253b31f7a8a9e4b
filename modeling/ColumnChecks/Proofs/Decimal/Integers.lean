import ColumnChecks.Proofs.Decimal.Multiples
import ColumnChecks.Proofs.Decimal.Numeral

/-!
# Integers as doubles

An integer is compared with a double by rounding it to a double first. Rounding keeps
the order of integers but not their differences: up to `2 ^ 53` every integer is a
double itself (`ColumnChecks.Decimal.units_intRank`), and beyond that two integers may
become one. **Comparing two integers as doubles gives their order unless they are
confused** (`ColumnChecks.Decimal.compare?_ofInt`), which takes at least that magnitude
(`ColumnChecks.Decimal.Confused.le_natAbs`).

A double whose numeral has no point is written as an integer, though perhaps not as the
integer that it is: digits that are not needed are zeros. But it is always an integer
that rounds to the double (`ColumnChecks.Decimal.compare?_integerOfText?`).
-/

namespace ColumnChecks

namespace Decimal

/-! ### Rounding keeps the order -/

theorem le_roundHalfEven (num den : Nat) : num / den ≤ roundHalfEven num den := by
  simp only [roundHalfEven]
  split_ifs <;> omega

theorem roundHalfEven_le (num den : Nat) : roundHalfEven num den ≤ num / den + 1 := by
  simp only [roundHalfEven]
  split_ifs <;> omega

theorem roundHalfEven_mono {num num' : Nat} (den : Nat) (h : num ≤ num') :
    roundHalfEven num den ≤ roundHalfEven num' den := by
  rcases Nat.lt_or_ge (num / den) (num' / den) with hlt | hge
  · exact (roundHalfEven_le num den).trans (Nat.le_trans hlt (le_roundHalfEven num' den))
  · -- On one floor the larger rest is rounded up whenever the smaller one is.
    have hfloor : num / den = num' / den := Nat.le_antisymm (Nat.div_le_div_right h) hge
    have hnum := Nat.div_add_mod num den
    have hnum' := Nat.div_add_mod num' den
    have hrest : num % den ≤ num' % den := by
      rw [hfloor] at hnum
      omega
    simp only [roundHalfEven, hfloor]
    split_ifs <;> omega

/-- A number on the grid of its own binade. -/
theorem div_two_pow_bounds (q : Nat) :
    q / 2 ^ (q.log2 - 52) < 2 ^ 53 ∧ (0 < q.log2 - 52 → 2 ^ 52 ≤ q / 2 ^ (q.log2 - 52)) := by
  rcases Nat.eq_zero_or_pos q with rfl | hpos
  · exact ⟨by decide, by decide⟩
  constructor
  · rw [Nat.div_lt_iff_lt_mul (Nat.two_pow_pos _), ← pow_add]
    refine Nat.lt_of_lt_of_le Nat.lt_log2_self (Nat.pow_le_pow_right (by decide) ?_)
    omega
  · intro hs
    rw [Nat.le_div_iff_mul_le (Nat.two_pow_pos _), ← pow_add]
    refine Nat.le_trans (Nat.pow_le_pow_right (by decide) ?_) (Nat.log2_self_le hpos.ne')
    omega

/-- **Rounding keeps the order.** -/
theorem nearestRank_mono {num num' : Nat} (h : num ≤ num') :
    (nearestRank num 1).val ≤ (nearestRank num' 1).val := by
  rw [nearestRank_val, nearestRank_val, Nat.div_one, Nat.div_one, Nat.one_mul, Nat.one_mul]
  refine min_le_min_right _ ?_
  have hlog : num.log2 ≤ num'.log2 := by
    rcases Nat.eq_zero_or_pos num with rfl | hpos
    · exact Nat.zero_le _
    · have hne : num' ≠ 0 := by omega
      exact (Nat.le_log2 hne).2 ((Nat.log2_self_le hpos.ne').trans h)
  obtain ⟨hhigh, -⟩ := div_two_pow_bounds num
  obtain ⟨-, hlow⟩ := div_two_pow_bounds num'
  have hround := roundHalfEven_le num (2 ^ (num.log2 - 52))
  have hround' := le_roundHalfEven num' (2 ^ (num'.log2 - 52))
  rcases Nat.eq_or_lt_of_le (Nat.sub_le_sub_right hlog 52) with hscale | hscale
  · rw [hscale]
    exact Nat.add_le_add_left (roundHalfEven_mono _ h) _
  · -- The smaller number is at most at the end of its binade, the larger one past its start.
    have hlow := hlow (by omega)
    omega

/-! ### The rank of an integer -/

/-- The rank that the magnitude of an integer is rounded to. -/
def intRank (n : Nat) : Nat := (nearestRank (n * unitsPerOne) 1).val

theorem intRank_mono {n m : Nat} (h : n ≤ m) : intRank n ≤ intRank m :=
  nearestRank_mono (Nat.mul_le_mul_right _ h)

theorem intRank_eq_zero_iff {n : Nat} : intRank n = 0 ↔ n = 0 := by
  rw [intRank, nearestRank_one_eq_zero_iff, Nat.mul_eq_zero]
  exact or_iff_left unitsPerOne_pos.ne'

/-- The rank with a given scale and significand. -/
theorem units_add {s k : Nat} (hlow : 2 ^ 52 ≤ k) (hhigh : k < 2 ^ 53) :
    units (s * 2 ^ 52 + k) = k * 2 ^ s := by
  have hscale : scale (s * 2 ^ 52 + k) = s := by
    rw [scale_eq]
    omega
  have hsignificand : significand (s * 2 ^ 52 + k) = k := by
    have h := scale_mul_add_significand (s * 2 ^ 52 + k)
    rw [hscale] at h
    exact Nat.add_left_cancel h
  rw [units_eq, hscale, hsignificand]

/-- Every integer up to `2 ^ 53` is some significand on some grid. -/
theorem exists_significand {n : Nat} (hpos : 0 < n) (h : n ≤ 2 ^ 53) :
    ∃ s k, s ≤ 1075 ∧ 2 ^ 52 ≤ k ∧ k < 2 ^ 53 ∧ n * unitsPerOne = k * 2 ^ s := by
  rw [unitsPerOne_eq]
  rcases Nat.eq_or_lt_of_le h with rfl | hlt
  · exact ⟨1075, 2 ^ 52, le_rfl, le_rfl, by decide, by rw [← pow_add, ← pow_add]⟩
  · have hlog : n.log2 ≤ 52 := Nat.lt_succ_iff.1 ((Nat.log2_lt hpos.ne').2 hlt)
    refine ⟨1022 + n.log2, n * 2 ^ (52 - n.log2), by omega, ?_, ?_, ?_⟩
    · calc 2 ^ 52 = 2 ^ n.log2 * 2 ^ (52 - n.log2) := by rw [← pow_add]; congr 1; omega
        _ ≤ n * 2 ^ (52 - n.log2) := Nat.mul_le_mul_right _ (Nat.log2_self_le hpos.ne')
    · calc n * 2 ^ (52 - n.log2) < 2 ^ (n.log2 + 1) * 2 ^ (52 - n.log2) :=
            Nat.mul_lt_mul_of_pos_right Nat.lt_log2_self (Nat.two_pow_pos _)
        _ = 2 ^ 53 := by rw [← pow_add]; congr 1; omega
    · rw [mul_assoc, ← pow_add]
      congr 2
      omega

/-- An integer of 53 bits with some zeros behind them is a double itself. -/
theorem units_intRank_mul_two_pow {n zeros : Nat} (h : n ≤ 2 ^ 53) (hzeros : zeros ≤ 900) :
    units (intRank (n * 2 ^ zeros)) = n * 2 ^ zeros * unitsPerOne := by
  rcases Nat.eq_zero_or_pos n with rfl | hpos
  · rw [Nat.zero_mul, intRank_eq_zero_iff.2 rfl, units_zero, Nat.zero_mul]
  · obtain ⟨s, k, hs, hlow, hhigh, hn⟩ := exists_significand hpos h
    have hinf : infinityRank = 2047 * 2 ^ 52 := rfl
    have hunits := units_add (s := s + zeros) hlow hhigh
    have hvalue : n * 2 ^ zeros * unitsPerOne = k * 2 ^ (s + zeros) := by
      rw [Nat.mul_right_comm, hn, Nat.mul_assoc, ← pow_add]
    rw [intRank, hvalue, ← hunits, nearestRank_units (by omega) (by omega)]

/-- **Up to `2 ^ 53` an integer is a double itself.** -/
theorem units_intRank {n : Nat} (h : n ≤ 2 ^ 53) : units (intRank n) = n * unitsPerOne := by
  simpa using units_intRank_mul_two_pow h (Nat.zero_le 900)

/-- Integers of one rank are one integer, unless they are large. -/
theorem le_of_intRank_eq {n m : Nat} (h : intRank n = intRank m) (hne : n ≠ m) : 2 ^ 53 ≤ n := by
  by_contra hlt
  have hn := units_intRank (n := n) (by omega)
  rcases Nat.le_total m (2 ^ 53) with hm | hm
  · have hm := units_intRank hm
    rw [← h, hn] at hm
    exact hne (Nat.eq_of_mul_eq_mul_right unitsPerOne_pos hm)
  · have hle := units_strictMono.monotone (intRank_mono hm)
    rw [units_intRank le_rfl, ← h, hn] at hle
    have := Nat.le_of_mul_le_mul_right hle unitsPerOne_pos
    omega

/-! ### Integers on the line of the doubles -/

/-- The place of an integer on the line of the doubles. -/
def intPlace (i : Int) : Int := place (decide (i < 0)) (intRank i.natAbs)

theorem intPlace_of_nonneg {i : Int} (h : 0 ≤ i) : intPlace i = intRank i.natAbs := by
  rw [intPlace, place, if_neg (by simpa using h)]

theorem intPlace_of_neg {i : Int} (h : i < 0) : intPlace i = -(intRank i.natAbs : Int) := by
  rw [intPlace, place, if_pos (by simpa using h)]

theorem intPlace_neg_iff {i : Int} : intPlace i < 0 ↔ i < 0 := by
  rcases lt_or_ge i 0 with hi | hi
  · have hne : intRank i.natAbs ≠ 0 := by
      rw [Ne, intRank_eq_zero_iff]
      omega
    rw [intPlace_of_neg hi]
    omega
  · rw [intPlace_of_nonneg hi]
    omega

theorem intPlace_mono {i j : Int} (h : i ≤ j) : intPlace i ≤ intPlace j := by
  rcases lt_or_ge j 0 with hj | hj
  · have hi : i < 0 := by omega
    have hrank : intRank j.natAbs ≤ intRank i.natAbs := intRank_mono (by omega)
    rw [intPlace_of_neg hi, intPlace_of_neg hj]
    omega
  · rcases lt_or_ge i 0 with hi | hi
    · have hneg : intPlace i < 0 := intPlace_neg_iff.2 hi
      have hnonneg : 0 ≤ intPlace j := by rwa [← not_lt, intPlace_neg_iff, not_lt]
      omega
    · have hrank : intRank i.natAbs ≤ intRank j.natAbs := intRank_mono (by omega)
      rw [intPlace_of_nonneg hi, intPlace_of_nonneg hj]
      omega

/-- Two integers that are one double. -/
def Confused (i j : Int) : Prop := i ≠ j ∧ ofInt i = ofInt j

theorem Confused.le_natAbs {i j : Int} (h : Confused i j) : 2 ^ 53 ≤ i.natAbs := by
  obtain ⟨hne, h⟩ := h
  obtain ⟨hsign, hrank⟩ := Decimal.number.inj h
  have hrank : intRank i.natAbs = intRank j.natAbs := congrArg Fin.val hrank
  rw [decide_eq_decide] at hsign
  exact le_of_intRank_eq hrank (by omega)

theorem confused_of_intPlace_eq {i j : Int} (hne : i ≠ j) (h : intPlace i = intPlace j) :
    Confused i j := by
  refine ⟨hne, ?_⟩
  have hsign : i < 0 ↔ j < 0 := by rw [← intPlace_neg_iff, h, intPlace_neg_iff]
  have hrank : intRank i.natAbs = intRank j.natAbs := by
    by_cases hi : i < 0
    · rw [intPlace_of_neg hi, intPlace_of_neg (hsign.1 hi)] at h
      omega
    · rw [intPlace_of_nonneg (Int.not_lt.1 hi), intPlace_of_nonneg (by omega)] at h
      omega
  have hdecide : decide (i < 0) = decide (j < 0) := decide_eq_decide.2 hsign
  rw [ofInt, ofInt, ofRatio, ofRatio, hdecide]
  exact congrArg (Decimal.number _) (Fin.ext hrank)

/-- Rounding does not turn two integers around. -/
theorem intPlace_lt {i j : Int} (h : ¬ Confused i j) (hlt : i < j) : intPlace i < intPlace j :=
  lt_of_le_of_ne (intPlace_mono hlt.le) fun heq => h (confused_of_intPlace_eq hlt.ne heq)

/-- **Comparing integers as doubles** gives their order, unless they are one double. -/
theorem compare?_ofInt {i j : Int} (h : ¬ Confused i j) :
    (ofInt i).compare? (ofInt j) = some (compare i j) := by
  have hplaces : (ofInt i).compare? (ofInt j) = some (compare (intPlace i) (intPlace j)) := rfl
  rw [hplaces]
  congr 1
  rcases Int.lt_trichotomy i j with hlt | rfl | hgt
  · rw [compare_lt_iff_lt.2 hlt, compare_lt_iff_lt]
    exact intPlace_lt h hlt
  · exact (compare_eq_iff_eq.2 rfl).trans (compare_eq_iff_eq.2 rfl).symm
  · have hconfused : ¬ Confused j i := fun hc => h ⟨hc.1.symm, hc.2.symm⟩
    rw [compare_gt_iff_gt.2 hgt, compare_gt_iff_gt]
    exact intPlace_lt hconfused hgt

/-! ### Doubles that are written as integers -/

/-- Signs and digits are all that an integer is read from. -/
theorem isDigit_of_signedDigits? {cs : List Char} {i : Int} (h : signedDigits? cs = some i)
    {c : Char} (hc : c ∈ cs) : c = '-' ∨ c = '+' ∨ c.isDigit = true := by
  have hdigits : ∀ {digits : List Char} {negative : Bool},
      (if digits.isEmpty || !digits.all Char.isDigit then none
        else some (if negative then -(natOfDigits digits : Int) else natOfDigits digits)) = some i →
      ∀ c ∈ digits, c.isDigit = true := by
    intro digits negative h
    have hfault : ¬ (digits.isEmpty || !digits.all Char.isDigit) = true := fun hfault => by
      rw [if_pos hfault] at h
      cases h
    rw [Bool.or_eq_true, not_or, Bool.not_eq_true', Bool.not_eq_false] at hfault
    exact List.all_eq_true.1 hfault.2
  unfold signedDigits? at h
  split at h
  next negative digits hpair =>
  split at hpair
  · cases hpair
    exact (List.mem_cons.1 hc).imp_right fun hc => Or.inr (hdigits h c hc)
  · cases hpair
    exact Or.inr ((List.mem_cons.1 hc).imp_right (hdigits h c))
  · cases hpair
    exact Or.inr (Or.inr (hdigits h c hc))

/-- A numeral that is read as an integer has no point. -/
theorem Numeral.fraction_eq_nil {n : Numeral} {i : Int} (h : signedDigits? n.chars = some i) :
    n.fraction = [] := by
  by_contra hne
  have hpoint : '.' ∈ n.chars := by
    rw [chars, unsigned, if_neg hne]
    simp
  rcases isDigit_of_signedDigits? h hpoint with h | h | h
  · cases h
  · cases h
  · cases h

/-- Only its place matters when a double is compared with. -/
theorem compare?_congr {negative negative' : Bool} {rank rank' : Fin (infinityRank + 1)}
    (h : place negative rank = place negative' rank') (x : Decimal) :
    x.compare? (.number negative rank) = x.compare? (.number negative' rank') := by
  cases x with
  | nan => rfl
  | number s r => rw [compare?, compare?, h]

/-- Digits without a point are an integer, up to the sign of zero. -/
theorem compare?_ofDigits {negative : Bool} {m : Nat} (hsmall : m < 10 ^ 20) (x : Decimal) :
    x.compare? (ofDigits negative m 0) =
      x.compare? (ofInt (if negative then -(m : Int) else m)) := by
  rcases Nat.eq_zero_or_pos m with rfl | hpos
  · have hzero : (if negative = true then -((0 : Nat) : Int) else (0 : Nat)) = 0 := by
      cases negative <;> rfl
    have hsigned : place negative 0 = 0 := by cases negative <;> rfl
    have hplace : intPlace 0 = 0 := by
      rw [intPlace_of_nonneg le_rfl, Int.natAbs_zero, intRank_eq_zero_iff.2 rfl]
      rfl
    rw [hzero, ofDigits, if_pos rfl, signedZero]
    exact compare?_congr (hsigned.trans hplace.symm) x
  · have hlength : (Nat.toDigits 10 m).length ≤ 20 :=
      (Nat.length_toDigits_le_iff (by decide) (by decide)).2 hsmall
    have hratio : ofDigits negative m 0 = ofRatio negative m 1 := by
      simp only [ofDigits]
      rw [if_neg hpos.ne', if_neg (by omega), if_neg (by omega), if_pos le_rfl]
      simp
    have hint : ofInt (if negative then -(m : Int) else m) = ofRatio negative m 1 := by
      cases negative with
      | true => simp [ofInt, hpos]
      | false =>
        have hsign : decide ((m : Int) < 0) = false := decide_eq_false (by omega)
        rw [if_neg Bool.false_ne_true, ofInt, hsign, Int.natAbs_natCast]
    rw [hratio, hint]

/-- **A double that is written without a point** compares as the integer that is
written. -/
theorem compare?_integerOfText? {d : Decimal} (hfin : d.isFinite = true) {j : Int64}
    (h : integerOfText? (plain.write d) = some j) (x : Decimal) :
    x.compare? d = x.compare? (ofInt j.toInt) := by
  obtain ⟨n, hwrites, rfl⟩ := exists_numeral_plain hfin
  rw [integerOfText?, hwrites] at h
  split at h
  · next i hi =>
    split_ifs at h with hrange
    cases h
    obtain ⟨hlow, hhigh⟩ := hrange
    have hmin : Int64.minValue.toInt = -2 ^ 63 := rfl
    have hmax : Int64.maxValue.toInt = 2 ^ 63 - 1 := rfl
    rw [Int64.toInt_ofInt_of_le (by omega) (by omega)]
    have hfraction := Numeral.fraction_eq_nil hi
    rw [Numeral.signedDigits?_chars hfraction, Option.some.injEq] at hi
    have hsmall : natOfDigits n.whole < 10 ^ 20 :=
      calc natOfDigits n.whole ≤ 2 ^ 63 := by split_ifs at hi <;> omega
        _ < 10 ^ 20 := by decide
    rw [hfraction, List.append_nil, List.length_nil, Int.natCast_zero, neg_zero, ← hi]
    exact compare?_ofDigits hsmall x
  · cases h

end Decimal

end ColumnChecks
