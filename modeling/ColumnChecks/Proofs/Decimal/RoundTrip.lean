import Mathlib.Tactic.NormNum
import Mathlib.Tactic.Positivity
import ColumnChecks.Decimal.Reading
import ColumnChecks.Decimal.Shortest
import ColumnChecks.Proofs.Decimal.Grid

/-!
# Shortest digits read back

The digits that a double is written with are looked for among the multiples of
powers of ten, and the only test that a candidate has to pass is whether it lies in
the rounding interval of the double (`ColumnChecks.Decimal.Digits.reads`). So
whatever the search returns reads back as the double it was made from; how many
digits it tries, and which of two candidates it takes, does not matter. If it
should find none, it falls back on the multiple of `10 ^ (-341)` just below the
double, and that one is in the interval as well because the spacing is so fine
(`ColumnChecks.Decimal.Digits.reads_floor`).

Reading computes a quotient and rounds it, after it has looked at the size of the
numeral. `ColumnChecks.Decimal.ofDigits_eq` says that neither the size test nor the
way in which the power of ten is moved between numerator and denominator makes a
difference for a point in the interval.
-/

namespace ColumnChecks

namespace Decimal

/-- Only the quotient matters for rounding. -/
theorem Rounds.of_mul {num den rank c : Nat} (hc : 0 < c)
    (h : Rounds (num * c) (den * c) rank) : Rounds num den rank := by
  have hmul : ∀ a b : Nat, a * den * c = a * (den * c) ∧ 2 * num * c = 2 * (num * c) :=
    fun a _ => ⟨mul_assoc _ _ _, mul_assoc _ _ _⟩
  obtain ⟨hlow, hhigh, htie⟩ := h
  refine ⟨?_, ?_, fun heq => htie ?_⟩
  · refine Nat.le_of_mul_le_mul_right (c := c) ?_ hc
    rwa [mul_assoc, mul_assoc 2]
  · refine Nat.le_of_mul_le_mul_right (c := c) ?_ hc
    rwa [mul_assoc, mul_assoc _ den]
  · refine heq.imp (fun heq => ?_) (fun heq => ?_)
    · rw [← mul_assoc, heq, mul_assoc]
    · rw [← mul_assoc, heq, mul_assoc]

theorem unitsPerOne_pos : 0 < unitsPerOne := by
  rw [unitsPerOne_eq]
  generalize 1074 = n
  exact Nat.two_pow_pos n

/-! ### The magnitude of infinity -/

theorem units_infinityRank : units infinityRank = 2 ^ 1024 * unitsPerOne := by
  have hinf : infinityRank = 2047 * 2 ^ 52 := rfl
  have hscale : scale infinityRank = 2046 := by
    rw [scale_eq, hinf, Nat.mul_div_cancel _ (Nat.two_pow_pos _)]
  have hsig : significand infinityRank = 2 ^ 52 := by
    rw [significand_eq, hinf, Nat.mul_mod_left, if_neg (by norm_num), Nat.add_zero]
  rw [units_eq, hscale, hsig, unitsPerOne_eq, ← pow_add, ← pow_add]

namespace Digits

/-! ### Points that read

The finest grid has `10 ^ depth` points between zero and one. The number stays a
variable here, so that no step writes it out. -/

variable {fine : Nat}

theorem fine_pos (hfine : 10 ^ depth = fine) : 0 < fine := by
  rw [← hfine]
  generalize depth = n
  exact Nat.pow_pos (by decide)

theorem scaled_eq (hfine : 10 ^ depth = fine) (rank : Nat) : scaled rank = units rank * fine := by
  rw [← hfine, scaled]
  generalize depth = n
  rfl

/-- **A point that reads** lies in the rounding interval. -/
theorem rounds_of_reads (hfine : 10 ^ depth = fine) {rank point : Nat}
    (h : reads rank point = true) : Rounds (point * unitsPerOne) fine rank := by
  simp only [reads, scaled_eq hfine, ← Nat.add_mul, mul_assoc 2 point] at h
  split_ifs at h with heven
  · rw [Bool.and_eq_true, decide_eq_true_eq, decide_eq_true_eq] at h
    exact ⟨h.1, h.2, fun _ => heven⟩
  · rw [Bool.and_eq_true, decide_eq_true_eq, decide_eq_true_eq] at h
    refine ⟨h.1.le, h.2.le, fun htie => ?_⟩
    rcases htie with htie | htie
    · exact absurd htie h.1.ne
    · exact absurd htie h.2.ne

theorem ten_pow_pow_le {m n k : Nat} (h : m * n ≤ k) : (10 ^ m) ^ n ≤ 10 ^ k := by
  rw [← pow_mul]
  exact Nat.pow_le_pow_right (by decide) h

/-- Twice a unit is far below the spacing of the finest grid. -/
theorem two_mul_unitsPerOne_lt (hfine : 10 ^ depth = fine) : 2 * unitsPerOne < fine := by
  have hsmall : 2 ^ 215 < 10 ^ 68 := by norm_num
  calc 2 * unitsPerOne = (2 ^ 215) ^ 5 := by rw [unitsPerOne_eq, ← pow_succ', ← pow_mul]
    _ < (10 ^ 68) ^ 5 := Nat.pow_lt_pow_left hsmall (by decide)
    _ ≤ fine := hfine ▸ ten_pow_pow_le (by decide)

/-- **The point just below a double** reads. -/
theorem reads_floor {rank : Nat} (hpos : 0 < rank) :
    reads rank (scaled rank / unitsPerOne) = true := by
  obtain ⟨fine, hfine⟩ : ∃ fine, 10 ^ depth = fine := ⟨_, rfl⟩
  have hspacing := two_mul_unitsPerOne_lt hfine
  have hbelow : scaled (rank - 1) + fine ≤ scaled rank := by
    have hlt : units (rank - 1) + 1 ≤ units rank := units_strictMono (by omega)
    have := Nat.mul_le_mul_right fine hlt
    rwa [Nat.add_mul, one_mul, ← scaled_eq hfine, ← scaled_eq hfine] at this
  have habove : scaled rank < scaled (rank + 1) := by
    rw [scaled_eq hfine, scaled_eq hfine]
    exact Nat.mul_lt_mul_of_pos_right (units_strictMono (Nat.lt_succ_self _)) (fine_pos hfine)
  have hfloor : scaled rank / unitsPerOne * unitsPerOne ≤ scaled rank :=
    Nat.div_mul_le_self _ _
  have hnext : scaled rank < scaled rank / unitsPerOne * unitsPerOne + unitsPerOne :=
    Nat.lt_div_mul_add unitsPerOne_pos
  unfold reads
  rw [mul_assoc 2]
  generalize scaled rank / unitsPerOne * unitsPerOne = point at *
  generalize unitsPerOne = one at *
  split_ifs
  · simp only [Bool.and_eq_true, decide_eq_true_eq]
    omega
  · simp only [Bool.and_eq_true, decide_eq_true_eq]
    omega

/-- Only zero reads as zero. -/
theorem pos_of_reads {rank point : Nat} (hpos : 0 < rank) (h : reads rank point = true) :
    0 < point := by
  obtain ⟨fine, hfine⟩ : ∃ fine, 10 ^ depth = fine := ⟨_, rfl⟩
  have hlow := (rounds_of_reads hfine h).low
  have hunits : 0 < units rank := by
    rw [← units_zero]
    exact units_strictMono hpos
  have hleft : 0 < (units (rank - 1) + units rank) * fine :=
    Nat.mul_pos (Nat.add_pos_right _ hunits) (fine_pos hfine)
  refine Nat.pos_of_ne_zero ?_
  rintro rfl
  omega

/-- A point that reads as a finite double is not far out. -/
theorem lt_of_reads {rank point : Nat} (hfin : rank < infinityRank)
    (h : reads rank point = true) : point < 10 ^ 700 := by
  obtain ⟨fine, hfine⟩ : ∃ fine, 10 ^ depth = fine := ⟨_, rfl⟩
  have hhigh := (rounds_of_reads hfine h).high
  have hup : units rank + units (rank + 1) ≤ 2 * (2 ^ 1024 * unitsPerOne) := by
    have h1 : units rank ≤ units infinityRank := units_strictMono.monotone hfin.le
    have h2 : units (rank + 1) ≤ units infinityRank := units_strictMono.monotone hfin
    rw [units_infinityRank] at h1 h2
    omega
  have hpoint : point * unitsPerOne ≤ 2 ^ 1024 * fine * unitsPerOne := by
    have := hhigh.trans (Nat.mul_le_mul_right fine hup)
    have hassoc (far : Nat) : 2 * (far * unitsPerOne) * fine =
        2 * (far * fine * unitsPerOne) := by ring
    rw [hassoc] at this
    exact Nat.le_of_mul_le_mul_left this (by decide)
  have hsmall : 2 ^ 256 < 10 ^ 78 := by norm_num
  generalize hlimit : 700 = limit
  calc point ≤ 2 ^ 1024 * fine := Nat.le_of_mul_le_mul_right hpoint unitsPerOne_pos
    _ = (2 ^ 256) ^ 4 * fine := by rw [← pow_mul]
    _ ≤ (10 ^ 78) ^ 4 * fine := Nat.mul_le_mul_right _ (Nat.pow_le_pow_left hsmall.le _)
    _ = 10 ^ (78 * 4 + depth) := by rw [← hfine, ← pow_mul, ← pow_add]
    _ < 10 ^ limit := Nat.pow_lt_pow_right (by decide) (hlimit ▸ by decide)

/-! ### What the search finds -/

/-- Digits and a power that, as a point of the finest grid, read as a rank. -/
def ReadAs (d : Digits) (rank : Nat) : Prop :=
  ∃ places : Nat, d.power = places - (depth : Int) ∧ reads rank (d.digits * 10 ^ places) = true

theorem reads_of_candidate {tie : Tie} {rank spacing digits : Nat}
    (h : candidate tie rank spacing = some digits) : reads rank (digits * spacing) = true := by
  unfold candidate at h
  simp only [Bool.and_eq_true] at h
  split_ifs at h with hboth hlow hhigh heven hbelow habove
  · cases h
    exact hboth.1
  · cases h
    exact hboth.2
  · cases tie with
    | up =>
      cases h
      exact hboth.2
    | even =>
      cases h
      exact hboth.1
  · cases tie with
    | up =>
      cases h
      exact hboth.2
    | even =>
      cases h
      exact hboth.2
  · cases h
    exact hbelow
  · cases h
    exact habove

theorem search_readAs (tie : Tie) {rank : Nat} (hpos : 0 < rank) (top left : Nat) :
    ReadAs (search tie rank top left) rank := by
  induction left with
  | zero =>
    refine ⟨0, by simp [search], ?_⟩
    rw [search, pow_zero, mul_one]
    exact reads_floor hpos
  | succ left ih =>
    rw [search]
    split
    · next digits h => exact ⟨_, rfl, reads_of_candidate h⟩
    · exact ih

/-- Trailing zeros move into the power. -/
theorem dropZeros_readAs {d : Digits} {rank : Nat} (fuel : Nat) (h : ReadAs d rank) :
    ReadAs (dropZeros fuel d) rank := by
  induction fuel generalizing d with
  | zero => exact h
  | succ fuel ih =>
    rw [dropZeros]
    split_ifs with hzero
    · obtain ⟨places, hpower, hreads⟩ := h
      refine ih ⟨places + 1, ?_, ?_⟩
      · simp only [hpower]
        omega
      · have hten : d.digits / 10 * 10 = d.digits := Nat.div_mul_cancel
          (Nat.dvd_of_mod_eq_zero hzero.2)
        rwa [pow_succ', ← mul_assoc, hten]
    · exact h

/-- **The shortest digits read back.** -/
theorem shortest_readAs (tie : Tie) {rank : Nat} (hpos : 0 < rank) :
    ReadAs (shortest tie rank) rank :=
  dropZeros_readAs 20 (search_readAs tie hpos _ 17)

end Digits

/-! ### Reading digits -/

theorem pow_length_le {n : Nat} (hpos : 0 < n) : 10 ^ ((Nat.toDigits 10 n).length - 1) ≤ n := by
  rcases Nat.eq_zero_or_pos ((Nat.toDigits 10 n).length - 1) with hzero | hlong
  · rw [hzero]
    exact hpos
  · by_contra hlt
    have := (Nat.length_toDigits_le_iff (by decide) hlong).2 (Nat.lt_of_not_le hlt)
    omega

/-- A numeral that reads as a finite double is neither too great nor too small to
be looked at. -/
theorem point_bounds {digits places rank : Nat} (hpos : 0 < rank) (hfin : rank < infinityRank)
    (h : Digits.reads rank (digits * 10 ^ places) = true) :
    0 < digits ∧ 1 ≤ (Nat.toDigits 10 digits).length ∧
      (Nat.toDigits 10 digits).length + places ≤ 700 := by
  have hdigits : 0 < digits := Nat.pos_of_mul_pos_right (Digits.pos_of_reads hpos h)
  have hlength : 1 ≤ (Nat.toDigits 10 digits).length := Nat.length_toDigits_pos
  refine ⟨hdigits, hlength, ?_⟩
  have hlt : 10 ^ ((Nat.toDigits 10 digits).length - 1 + places) < 10 ^ 700 := by
    rw [pow_add]
    exact lt_of_le_of_lt (Nat.mul_le_mul_right _ (pow_length_le hdigits))
      (Digits.lt_of_reads hfin h)
  have := (Nat.pow_lt_pow_iff_right (by decide)).1 hlt
  omega

/-- **Reading finds the double again** from any digits and power in its rounding
interval. -/
theorem ofDigits_eq (negative : Bool) {digits : Nat} {power : Int} {rank : Fin (infinityRank + 1)}
    (hpos : 0 < rank.val) (hfin : rank.val < infinityRank)
    (h : Digits.ReadAs ⟨digits, power⟩ rank) :
    ofDigits negative digits power = .number negative rank := by
  obtain ⟨places, hpower, hreads⟩ := h
  simp only at hpower hreads
  obtain ⟨hdigits, hlength, hlong⟩ := point_bounds hpos hfin hreads
  obtain ⟨fine, hfine⟩ : ∃ fine, 10 ^ Digits.depth = fine := ⟨_, rfl⟩
  have hrounds := Digits.rounds_of_reads hfine hreads
  have hdepth : Digits.depth = 341 := rfl
  rw [ofDigits, if_neg hdigits.ne']
  simp only
  rw [if_neg (by omega), if_neg (by omega)]
  split_ifs with hwhole
  · obtain ⟨more, rfl⟩ : ∃ more, places = more + Digits.depth :=
      ⟨places - Digits.depth, by omega⟩
    have hmore : power.natAbs = more := by omega
    have hone : Rounds (digits * 10 ^ more * unitsPerOne) 1 rank := by
      refine Rounds.of_mul (Digits.fine_pos hfine) ?_
      rwa [one_mul, mul_right_comm, mul_assoc digits, ← hfine, ← pow_add, hfine]
    rw [hmore, ofRatio, Nat.pow_eq]
    congr 1
    exact Fin.ext (nearestRank_eq_of_rounds Nat.one_pos hfin.le hpos hone)
  · obtain ⟨less, hless⟩ : ∃ less, places + less = Digits.depth :=
      ⟨Digits.depth - places, by omega⟩
    have hmore : power.natAbs = less := by omega
    have hten : 0 < 10 ^ less := Nat.pow_pos (by decide)
    have hquotient : Rounds (digits * unitsPerOne) (10 ^ less) rank := by
      refine Rounds.of_mul (c := 10 ^ places) (Nat.pow_pos (by decide)) ?_
      rwa [mul_right_comm, ← pow_add, Nat.add_comm less, hless, hfine]
    rw [hmore, ofRatio, Nat.pow_eq]
    congr 1
    exact Fin.ext (nearestRank_eq_of_rounds hten hfin.le hpos hquotient)

end Decimal

end ColumnChecks
