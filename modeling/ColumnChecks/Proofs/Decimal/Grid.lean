import Mathlib.Tactic.Ring
import Mathlib.Tactic.Linarith
import Mathlib.Order.Monotone.Basic
import Mathlib.Algebra.Order.Ring.Nat
import ColumnChecks.Decimal.Basic

/-!
# The grid of the doubles

A magnitude is counted by its rank, and its value is `Decimal.units` of the
finest spacing. This file is about the two directions of that correspondence.

Upwards, the magnitudes are strictly increasing, because the step from one rank
to the next is the spacing of the rank's own scale (`Decimal.units_succ`).

Downwards, `Decimal.nearestRank` finds the rank again from any quotient in the
rank's **rounding interval**: between the midpoints to its two neighbours, the
midpoints included if the rank is even (`Decimal.Rounds`). That is
`Decimal.nearestRank_eq_of_rounds`, and it is the only statement about rounding
that reading and writing numerals needs. The one place where it is not a
calculation on a single spacing is the lower end of a binade, where the neighbour
below lies on a grid twice as fine.
-/

namespace ColumnChecks

namespace Decimal

/-! ### Scale and significand -/

theorem scale_eq (rank : Nat) : scale rank = rank / 2 ^ 52 - 1 := rfl

theorem significand_eq (rank : Nat) :
    significand rank = if rank < 2 ^ 52 then rank else 2 ^ 52 + rank % 2 ^ 52 := rfl

theorem units_eq (rank : Nat) : units rank = significand rank * 2 ^ scale rank := rfl

theorem unitsPerOne_eq : unitsPerOne = 2 ^ 1074 := by
  unfold unitsPerOne
  generalize 1074 = places
  exact Nat.pow_eq

/-- **A rank is its scale and its significand**, the scale counted in binades. -/
theorem scale_mul_add_significand (rank : Nat) :
    scale rank * 2 ^ 52 + significand rank = rank := by
  rw [scale_eq, significand_eq]
  split_ifs <;> omega

theorem significand_lt (rank : Nat) : significand rank < 2 ^ 53 := by
  rw [significand_eq]
  split_ifs <;> omega

theorem le_significand {rank : Nat} (h : 0 < scale rank) : 2 ^ 52 ≤ significand rank := by
  rw [scale_eq] at h
  rw [significand_eq]
  split_ifs <;> omega

theorem units_zero : units 0 = 0 := by
  simp [units_eq, significand_eq]

/-- The next magnitude is one spacing further up, also across the end of a
binade. -/
theorem units_succ (rank : Nat) : units (rank + 1) = units rank + 2 ^ scale rank := by
  have hr := scale_mul_add_significand rank
  have hr' := scale_mul_add_significand (rank + 1)
  have hlt := significand_lt rank
  have hlt' := significand_lt (rank + 1)
  rw [units_eq, units_eq]
  rcases Nat.lt_or_ge (significand rank + 1) (2 ^ 53) with hin | hout
  · -- the successor stays in the binade
    have hscale : scale (rank + 1) = scale rank := by
      rw [scale_eq, scale_eq, significand_eq] at *
      split_ifs at * <;> omega
    have hsig : significand (rank + 1) = significand rank + 1 := by
      rw [hscale] at hr'
      omega
    rw [hscale, hsig]
    ring
  · -- the successor starts the next binade, whose spacing is twice as wide
    have hscale : scale (rank + 1) = scale rank + 1 := by
      rw [scale_eq, scale_eq, significand_eq] at *
      split_ifs at * <;> omega
    have hsig : significand (rank + 1) = 2 ^ 52 := by
      rw [hscale] at hr'
      omega
    have hsig' : significand rank = 2 ^ 53 - 1 := by omega
    rw [hscale, hsig, hsig']
    ring

theorem units_strictMono : StrictMono units :=
  strictMono_nat_of_lt_succ fun rank => by
    rw [units_succ]
    exact Nat.lt_add_of_pos_right (Nat.two_pow_pos _)

/-- The magnitude below, seen from a rank that is not the first of its binade. -/
theorem units_pred {rank : Nat} (h : significand rank ≠ 2 ^ 52 ∨ scale rank = 0) (hpos : 0 < rank) :
    units (rank - 1) + 2 ^ scale rank = units rank := by
  have hr := scale_mul_add_significand rank
  have hr' := scale_mul_add_significand (rank - 1)
  have hscale : scale (rank - 1) = scale rank := by
    rw [scale_eq, scale_eq, significand_eq] at *
    split_ifs at * <;> omega
  have := units_succ (rank - 1)
  rwa [Nat.sub_add_cancel hpos, hscale, eq_comm] at this

/-- The magnitude below the first one of a binade lies on a grid twice as
fine. -/
theorem units_pred_of_first {rank : Nat} (h : significand rank = 2 ^ 52) (hs : 0 < scale rank) :
    units (rank - 1) + 2 ^ (scale rank - 1) = units rank := by
  have hr := scale_mul_add_significand rank
  have hscale : scale (rank - 1) = scale rank - 1 := by
    rw [scale_eq, scale_eq] at *
    omega
  have := units_succ (rank - 1)
  rwa [Nat.sub_add_cancel (by omega), hscale, eq_comm] at this

/-! ### Rounding -/

/-- Rounding finds the number whose half-unit surroundings hold the quotient; a
quotient at an end of them belongs to the even number. -/
theorem roundHalfEven_eq {num den k : Nat} (hden : 0 < den)
    (hlow : 2 * k * den ≤ 2 * num + den) (hhigh : 2 * num ≤ 2 * k * den + den)
    (htie : (2 * k * den = 2 * num + den ∨ 2 * num = 2 * k * den + den) → k % 2 = 0) :
    roundHalfEven num den = k := by
  have hdiv : den * (num / den) + num % den = num := Nat.div_add_mod num den
  have hmod : num % den < den := Nat.mod_lt _ hden
  have hassoc : 2 * k * den = 2 * (den * k) := by ring
  obtain ⟨q, hq⟩ : ∃ q, num / den = q := ⟨_, rfl⟩
  obtain ⟨r, hr⟩ : ∃ r, num % den = r := ⟨_, rfl⟩
  rw [hq, hr] at hdiv
  rw [hr] at hmod
  rw [hassoc] at hlow hhigh htie
  -- Only the whole part of the quotient and the next number are as near as this.
  have hkq : k = q ∨ k = q + 1 := by
    have h1 : k < q + 2 := by
      by_contra hc
      have : den * (q + 2) ≤ den * k := Nat.mul_le_mul_left _ (by omega)
      rw [Nat.mul_add] at this
      omega
    have h2 : q < k + 1 := by
      by_contra hc
      have : den * (k + 1) ≤ den * q := Nat.mul_le_mul_left _ (by omega)
      rw [Nat.mul_add] at this
      omega
    omega
  simp only [roundHalfEven, hq, hr]
  rcases hkq with rfl | rfl
  · split_ifs with h1 h2
    · rfl
    · omega
    · have heven := htie (Or.inr (by omega))
      omega
  · rw [Nat.mul_add] at hlow hhigh htie
    split_ifs with h1 h2
    · omega
    · rfl
    · have heven := htie (Or.inl (by omega))
      omega

theorem nearestRank_val (num den : Nat) :
    (nearestRank num den).val =
      min (((num / den).log2 - 52) * 2 ^ 52 +
        roundHalfEven num (den * 2 ^ ((num / den).log2 - 52))) infinityRank := rfl

/-- **The rounding interval of a rank**: a quotient lies between the midpoints to
the neighbouring magnitudes, and at one of them only if the rank is even. -/
structure Rounds (num den rank : Nat) : Prop where
  low : (units (rank - 1) + units rank) * den ≤ 2 * num
  high : 2 * num ≤ (units rank + units (rank + 1)) * den
  tie : ((units (rank - 1) + units rank) * den = 2 * num ∨
    2 * num = (units rank + units (rank + 1)) * den) → rank % 2 = 0

/-- The scale that rounding works at, from bounds on the quotient. -/
theorem log2_sub_eq {num den s : Nat} (hden : 0 < den) (hlow : 0 < s → 2 ^ (52 + s) * den ≤ num)
    (hhigh : num < 2 ^ (53 + s) * den) : (num / den).log2 - 52 = s := by
  have hlt : num / den < 2 ^ (53 + s) := (Nat.div_lt_iff_lt_mul hden).2 hhigh
  rcases Nat.eq_zero_or_pos s with rfl | hs
  · rcases Nat.eq_zero_or_pos (num / den) with h0 | hpos
    · simp [h0]
    · have := (Nat.log2_lt hpos.ne').2 hlt
      omega
  · have hle : 2 ^ (52 + s) ≤ num / den := (Nat.le_div_iff_mul_le hden).2 (hlow hs)
    have hne : num / den ≠ 0 := (lt_of_lt_of_le (Nat.two_pow_pos _) hle).ne'
    have h1 := (Nat.log2_lt hne).2 hlt
    have h2 := (Nat.le_log2 hne).2 hle
    omega

/-- Rounding at a scale whose binade holds the quotient; `D` is the spacing
there. -/
theorem nearestRank_eq_of_scale {num den rank s k D : Nat} (hden : 0 < den)
    (hD : D = den * 2 ^ s) (hrank : s * 2 ^ 52 + k = rank) (hfin : rank ≤ infinityRank)
    (hbinade : 0 < s → 2 ^ 52 * D ≤ num) (htop : num < 2 ^ 53 * D)
    (hlow : 2 * (k * D) ≤ 2 * num + D) (hhigh : 2 * num ≤ 2 * (k * D) + D)
    (htie : (2 * (k * D) = 2 * num + D ∨ 2 * num = 2 * (k * D) + D) → rank % 2 = 0) :
    (nearestRank num den).val = rank := by
  have hpow : ∀ n, 2 ^ (n + s) * den = 2 ^ n * D := fun n => by
    rw [hD, pow_add]
    ring
  have hDpos : 0 < D := hD ▸ Nat.mul_pos hden (Nat.two_pow_pos _)
  have hround : roundHalfEven num D = k := by
    refine roundHalfEven_eq hDpos ?_ ?_ fun h => ?_
    · rwa [mul_assoc]
    · rwa [mul_assoc]
    · rw [mul_assoc] at h
      have := htie h
      omega
  have hlog : (num / den).log2 - 52 = s := by
    refine log2_sub_eq hden (fun hs => ?_) ?_
    · rw [hpow]
      exact hbinade hs
    · rwa [hpow]
  rw [nearestRank_val, hlog, ← hD, hround, hrank, min_eq_left hfin]

/-- Rounding where both neighbours are one spacing away. -/
theorem nearestRank_eq_of_inside {num den rank : Nat} (hden : 0 < den) (hfin : rank ≤ infinityRank)
    (hpos : 0 < rank) (hin : significand rank ≠ 2 ^ 52 ∨ scale rank = 0)
    (h : Rounds num den rank) : (nearestRank num den).val = rank := by
  obtain ⟨hlow, hhigh, htie⟩ := h
  obtain ⟨D, hD⟩ : ∃ D, D = den * 2 ^ scale rank := ⟨_, rfl⟩
  have hunits : units rank * den = significand rank * D := by
    rw [hD, units_eq]
    ring
  have hdown : units (rank - 1) * den + D = significand rank * D := by
    rw [← hunits, ← units_pred hin hpos, hD]
    ring
  have hup : units (rank + 1) * den = significand rank * D + D := by
    rw [units_succ, Nat.add_mul, hunits, hD, Nat.mul_comm den]
  simp only [Nat.add_mul, hunits, hup] at hlow hhigh htie
  have hDpos : 0 < D := hD ▸ Nat.mul_pos hden (Nat.two_pow_pos _)
  have htop : (significand rank + 1) * D ≤ 2 ^ 53 * D :=
    Nat.mul_le_mul_right _ (significand_lt rank)
  rw [Nat.add_mul] at htop
  refine nearestRank_eq_of_scale hden hD (scale_mul_add_significand rank) hfin (fun hs => ?_)
    (by omega) (by omega) (by omega) (fun hc => htie (by omega))
  have hsig : 2 ^ 52 + 1 ≤ significand rank := by
    have := le_significand hs
    omega
  have := Nat.mul_le_mul_right D hsig
  omega

/-- Rounding at the lower end of a binade, whose neighbour below lies on a grid
twice as fine. A quotient below the binade is rounded on that grid, up into the
binade. -/
theorem nearestRank_eq_of_first {num den rank : Nat} (hden : 0 < den) (hfin : rank ≤ infinityRank)
    (hfirst : significand rank = 2 ^ 52) (hs : 0 < scale rank) (h : Rounds num den rank) :
    (nearestRank num den).val = rank := by
  obtain ⟨hlow, hhigh, htie⟩ := h
  obtain ⟨t, ht⟩ : ∃ t, scale rank = t + 1 := ⟨scale rank - 1, by omega⟩
  obtain ⟨D, hD⟩ : ∃ D, D = den * 2 ^ t := ⟨_, rfl⟩
  have hDpos : 0 < D := hD ▸ Nat.mul_pos hden (Nat.two_pow_pos _)
  have hD2 : 2 * D = den * 2 ^ (t + 1) := by
    rw [hD]
    ring
  have hunits : units rank * den = 2 ^ 53 * D := by
    rw [hD, units_eq, hfirst, ht]
    ring
  have hdown : units (rank - 1) * den + D = 2 ^ 53 * D := by
    rw [← hunits, ← units_pred_of_first hfirst hs, ht, hD]
    simp only [Nat.add_sub_cancel]
    ring
  have hup : units (rank + 1) * den = 2 ^ 53 * D + 2 * D := by
    rw [units_succ, Nat.add_mul, hunits, hD2, ht, Nat.mul_comm den]
  simp only [Nat.add_mul, hunits, hup] at hlow hhigh htie
  have hrank : (t + 1) * 2 ^ 52 + 2 ^ 52 = rank := by
    have := scale_mul_add_significand rank
    rwa [ht, hfirst] at this
  -- `num / D` is the quotient on the finer grid, where the binade starts at `2 ^ 53`.
  by_cases hin : 2 ^ 53 * D ≤ num
  · refine nearestRank_eq_of_scale (s := t + 1) (k := 2 ^ 52) hden hD2 hrank hfin ?_ ?_ ?_ ?_
      fun hc => htie (Or.inr ?_)
    all_goals
      clear hrank htie
      omega
  · have hstep : t * 2 ^ 52 + 2 ^ 53 = (t + 1) * 2 ^ 52 + 2 ^ 52 := by ring
    refine nearestRank_eq_of_scale (s := t) (k := 2 ^ 53) hden hD (hstep.trans hrank) hfin
      (fun _ => ?_) ?_ ?_ ?_ fun hc => htie (Or.inl ?_)
    · clear hrank hstep htie
      omega
    · clear hrank hstep htie
      omega
    · clear hrank hstep htie
      omega
    · clear hrank hstep htie
      omega
    · rcases hc with hc | hc <;> linarith

/-- **Rounding finds the rank of every quotient in its interval.** -/
theorem nearestRank_eq_of_rounds {num den rank : Nat} (hden : 0 < den) (hfin : rank ≤ infinityRank)
    (hpos : 0 < rank) (h : Rounds num den rank) : (nearestRank num den).val = rank := by
  rcases eq_or_ne (significand rank) (2 ^ 52) with hfirst | hne
  · rcases Nat.eq_zero_or_pos (scale rank) with hs | hs
    · exact nearestRank_eq_of_inside hden hfin hpos (Or.inr hs) h
    · exact nearestRank_eq_of_first hden hfin hfirst hs h
  · exact nearestRank_eq_of_inside hden hfin hpos (Or.inl hne) h

/-- Only nothing rounds to zero from a whole number of units. -/
theorem nearestRank_one_eq_zero_iff (n : Nat) : (nearestRank n 1).val = 0 ↔ n = 0 := by
  rw [nearestRank_val, Nat.div_one]
  constructor
  · intro h
    by_contra hn
    have hinf : 0 < infinityRank := by decide
    rcases Nat.eq_zero_or_pos (n.log2 - 52) with hs | hs
    · have hround : roundHalfEven n (1 * 2 ^ 0) = n :=
        roundHalfEven_eq (by decide) (by omega) (by omega) (by omega)
      rw [hs, hround] at h
      omega
    · have : 0 < (n.log2 - 52) * 2 ^ 52 := Nat.mul_pos hs (by decide)
      omega
  · rintro rfl
    decide

end Decimal

end ColumnChecks
