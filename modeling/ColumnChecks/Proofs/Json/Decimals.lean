import ColumnChecks.Proofs.Json.Reading

/-!
# Decimals that read back

A double is written by its shortest digits, and these denote it; but what the reader of
numerals comes to, step by step, is only the double nearest to them if all steps but the last
one are exact. **Decimals of few digits read back** for that reason
(`ColumnChecks.Decimal.readsBack_of_short`): it is enough that the digits, with the zeros that
a whole number needs, are a number of at most 53 bits, and that there are at most 22 places
behind the point. All decimals of up to fifteen digits are among them, as long as the places
are not too many. Both zeros read back as well.
-/

namespace ColumnChecks

namespace Decimal

/-- **Decimals of few digits read back.** -/
theorem readsBack_of_short (negative : Bool) {rank : Fin (infinityRank + 1)} {s : Digits}
    (hpos : 0 < rank.val) (hfin : rank.val < infinityRank)
    (hs : Digits.shortest json.tie rank = s)
    (hdigits : s.digits * 10 ^ (s.power + 1).toNat ≤ 2 ^ 53) (hpower : -22 ≤ s.power) :
    (number negative rank).ReadsBack := by
  have hone : 0 < s.digits := hs ▸ JsonNumeral.shortest_pos hpos
  obtain ⟨n, zeros, hmark, hchars, hvalue, hpoint, hzeros⟩ := JsonNumeral.exists_magnitude hone hs
  have hplaces : (s.power + 1).toNat < 16 := by
    refine (Nat.pow_lt_pow_iff_right (a := 10) (by decide)).1 ?_
    calc 10 ^ (s.power + 1).toNat ≤ s.digits * 10 ^ (s.power + 1).toNat :=
          Nat.le_mul_of_pos_left _ hone
      _ ≤ 2 ^ 53 := hdigits
      _ < 10 ^ 16 := by decide
  have hshort : natOfDigits (n.whole ++ n.fraction) ≤ 2 ^ 53 := by
    rw [hvalue]
    exact (Nat.mul_le_mul_left _ (Nat.pow_le_pow_right (by decide) hzeros)).trans hdigits
  -- The reader is exact here, so it comes to what the numeral denotes.
  have hstep : n.stepwise negative = number negative rank := by
    rw [JsonNumeral.stepwise, ofParts_eq_ofDigits negative hshort (by omega)]
    exact JsonNumeral.denotes_eq negative hpos hfin hs hvalue hpoint hzeros
  have hfinite : (n.stepwise negative).isFinite = true := by
    rw [hstep]
    exact decide_eq_true hfin
  have htext : (json.write (number negative rank)).toList =
      (if negative then ['-'] else []) ++ n.chars := by
    rw [Layout.write, if_neg hfin.ne, if_neg hpos.ne', String.toList_ofList, hchars]
  rw [Draft.readsBack_iff htext, JsonNumeral.number_eq_decimal hmark hfinite, hstep]

/-- Both zeros read back. -/
theorem readsBack_signedZero (negative : Bool) : (signedZero negative).ReadsBack := by
  obtain ⟨n, hn⟩ : ∃ n : JsonNumeral,
      n = ⟨['0'], ['0'], none, by simp, by simp, by simp, by simp⟩ :=
    ⟨_, rfl⟩
  have hchars : (json.write (signedZero negative)).toList =
      (if negative then ['-'] else []) ++ n.chars := by
    rw [hn]
    cases negative <;> rfl
  rw [Draft.readsBack_iff hchars, hn]
  cases negative <;> decide +kernel

/-- Two and a half reads back. -/
example : (number false ⟨1024 * 2 ^ 52 + 2 ^ 50, by decide⟩).ReadsBack :=
  readsBack_of_short (s := ⟨25, -1⟩) false (by decide) (by decide) (by decide +kernel)
    (by decide) (by decide)

end Decimal

end ColumnChecks
