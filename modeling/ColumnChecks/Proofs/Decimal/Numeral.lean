import Mathlib.Data.List.TakeWhile
import ColumnChecks.Value
import ColumnChecks.Proofs.Decimal.RoundTrip

/-!
# Numerals

The texts of integers and the plain texts of doubles have one form: a sign or none,
digits, and perhaps a point and more digits (`ColumnChecks.Decimal.Numeral`). There
is never an exponent. A numeral is read by its digits and by the number of them
behind the point, so that a double written plainly reads as itself
(`ColumnChecks.Decimal.ofText?_plain`).
-/

namespace ColumnChecks

namespace Decimal

/-- A numeral without an exponent. -/
structure Numeral where
  negative : Bool
  whole : List Char
  /-- The digits behind the point; there is a point only if there are any. -/
  fraction : List Char
  whole_ne_nil : whole ≠ []
  whole_isDigit : ∀ c ∈ whole, c.isDigit = true
  fraction_isDigit : ∀ c ∈ fraction, c.isDigit = true

namespace Numeral

/-- The numeral without its sign. -/
def unsigned (n : Numeral) : List Char :=
  n.whole ++ if n.fraction = [] then [] else '.' :: n.fraction

/-- The text of a numeral. -/
def chars (n : Numeral) : List Char := (if n.negative then ['-'] else []) ++ n.unsigned

/-- The numeral has the text. -/
def Writes (n : Numeral) (text : String) : Prop := text.toList = n.chars

/-! ### Reading -/

theorem ne_e_of_isDigit {c : Char} (h : c.isDigit = true ∨ c = '.') :
    (c != 'e' && c != 'E') = true := by
  rw [Bool.and_eq_true, bne_iff_ne, bne_iff_ne]
  constructor
  · rintro rfl
    revert h
    decide
  · rintro rfl
    revert h
    decide

theorem ne_point_of_isDigit {c : Char} (h : c.isDigit = true) : (c != '.') = true := by
  rw [bne_iff_ne]
  rintro rfl
  revert h
  decide

theorem mem_unsigned {n : Numeral} {c : Char} (h : c ∈ n.unsigned) :
    c.isDigit = true ∨ c = '.' := by
  rw [unsigned, List.mem_append] at h
  rcases h with h | h
  · exact Or.inl (n.whole_isDigit c h)
  · split_ifs at h
    · cases h
    · rcases List.mem_cons.1 h with h | h
      · exact Or.inr h
      · exact Or.inl (n.fraction_isDigit c h)

/-- **A numeral is read** by its digits, the ones behind the point counted
down. -/
theorem ofUnsignedText?_unsigned (n : Numeral) (negative : Bool) :
    ofUnsignedText? negative n.unsigned =
      some (ofDigits negative (natOfDigits (n.whole ++ n.fraction)) (-n.fraction.length)) := by
  have hall : ∀ c ∈ n.unsigned, (c != 'e' && c != 'E') = true := fun c hc =>
    ne_e_of_isDigit (mem_unsigned hc)
  have htake : n.unsigned.takeWhile (fun c => c != 'e' && c != 'E') = n.unsigned :=
    List.takeWhile_eq_self_iff.2 hall
  have hdrop : n.unsigned.dropWhile (fun c => c != 'e' && c != 'E') = [] :=
    List.dropWhile_eq_nil_iff.2 hall
  have hwhole : ∀ c ∈ n.whole, (c != '.') = true := fun c hc =>
    ne_point_of_isDigit (n.whole_isDigit c hc)
  have hbefore : n.unsigned.takeWhile (· != '.') = n.whole := by
    rw [unsigned, List.takeWhile_append_of_pos hwhole]
    split_ifs <;> simp
  have hafter : (n.unsigned.dropWhile (· != '.')).drop 1 = n.fraction := by
    rw [unsigned, List.dropWhile_append_of_pos hwhole]
    split_ifs with h
    · rw [h]
      rfl
    · simp
  have hdigits : (n.whole ++ n.fraction).all Char.isDigit = true := by
    rw [List.all_append, Bool.and_eq_true, List.all_eq_true, List.all_eq_true]
    exact ⟨n.whole_isDigit, n.fraction_isDigit⟩
  have hne : (n.whole ++ n.fraction).isEmpty = false := by
    rw [List.isEmpty_eq_false_iff]
    exact List.append_ne_nil_of_left_ne_nil n.whole_ne_nil _
  unfold ofUnsignedText?
  simp only [htake, hdrop, hbefore, hafter, hdigits, hne, Bool.not_true, Bool.or_self,
    Bool.false_eq_true, if_false, Option.map_some, zero_sub]

theorem exists_unsigned_eq_cons (n : Numeral) :
    ∃ c rest, n.unsigned = c :: rest ∧ c.isDigit = true := by
  cases h : n.whole with
  | nil => exact absurd h n.whole_ne_nil
  | cons c rest =>
    refine ⟨c, _, by rw [unsigned, h]; rfl, n.whole_isDigit c ?_⟩
    rw [h]
    exact List.mem_cons_self

theorem ne_sign_of_isDigit {c : Char} (h : c.isDigit = true) : c ≠ '-' ∧ c ≠ '+' := by
  constructor <;> (rintro rfl; cases h)

/-- Only capital letters have another letter for their lower case. -/
theorem toLower_of_not_capital {c : Char} (h : ¬(c.val ≥ 'A'.val ∧ c.val ≤ 'Z'.val)) :
    c.toLower = c := dif_neg h

/-- A text that starts with a digit is no name. -/
theorem ofList_ne_of_isDigit {c : Char} {rest : List Char} (hc : c.isDigit = true) {d : Char}
    {name : List Char} (hd : d.isDigit = false) :
    String.ofList ((c :: rest).map Char.toLower) ≠ String.ofList (d :: name) := by
  intro h
  have hlist := congrArg String.toList h
  rw [String.toList_ofList, String.toList_ofList, List.map_cons] at hlist
  have hlower : ¬(c.val ≥ 'A'.val ∧ c.val ≤ 'Z'.val) := by
    rintro ⟨hupper, -⟩
    rw [Char.isDigit, Bool.and_eq_true, decide_eq_true_eq, decide_eq_true_eq] at hc
    exact absurd (UInt32.le_trans hupper hc.2) (by decide)
  rw [toLower_of_not_capital hlower] at hlist
  cases hlist
  rw [hc] at hd
  cases hd

/-- A numeral is no name of a special value. -/
theorem ofText?_of_writes {n : Numeral} {text : String} (h : n.Writes text) :
    ofText? text = some
      (ofDigits n.negative (natOfDigits (n.whole ++ n.fraction)) (-n.fraction.length)) := by
  obtain ⟨c, rest, hcons, hc⟩ := n.exists_unsigned_eq_cons
  have hname : ∀ (d : Char) (name : List Char), d.isDigit = false →
      String.ofList (n.unsigned.map Char.toLower) ≠ String.ofList (d :: name) := by
    intro d name hd
    rw [hcons]
    exact ofList_ne_of_isDigit hc hd
  have hinf := not_or.2 ⟨hname 'i' ['n', 'f'] rfl, hname 'i' ['n', 'f', 'i', 'n', 'i', 't', 'y'] rfl⟩
  have hnan := hname 'n' ['a', 'n'] rfl
  rw [← ofUnsignedText?_unsigned]
  unfold ofText?
  rw [h, chars]
  cases n.negative with
  | true => exact (if_neg hinf).trans (if_neg hnan)
  | false =>
    obtain ⟨hminus, hplus⟩ := ne_sign_of_isDigit hc
    rw [hcons] at hinf hnan ⊢
    simp only [Bool.false_eq_true, if_false, List.nil_append]
    split
    · next heq => exact absurd (List.cons.inj heq).1 hminus
    · next heq => exact absurd (List.cons.inj heq).1 hplus
    · exact (if_neg hinf).trans (if_neg hnan)

/-- A numeral without a point is read as an integer. -/
theorem signedDigits?_chars {n : Numeral} (h : n.fraction = []) :
    signedDigits? n.chars =
      some (if n.negative then -(natOfDigits n.whole : Int) else natOfDigits n.whole) := by
  have hunsigned : n.unsigned = n.whole := by rw [unsigned, if_pos h, List.append_nil]
  obtain ⟨c, rest, hcons, hc⟩ := n.exists_unsigned_eq_cons
  have hdigits : n.whole.all Char.isDigit = true := List.all_eq_true.2 n.whole_isDigit
  have hne : n.whole.isEmpty = false := List.isEmpty_eq_false_iff.2 n.whole_ne_nil
  rw [hunsigned] at hcons
  unfold signedDigits?
  rw [chars, hunsigned]
  cases n.negative with
  | true => simp [hdigits, hne]
  | false =>
    obtain ⟨hminus, hplus⟩ := ne_sign_of_isDigit hc
    rw [hcons] at hdigits ⊢
    split
    next negative cs hpair =>
    split at hpair
    · next heq => exact absurd (List.cons.inj heq).1 hminus
    · next heq => exact absurd (List.cons.inj heq).1 hplus
    · cases hpair
      simp [hdigits]

end Numeral

/-! ### The digits of a natural number -/

theorem natOfDigits_eq (cs : List Char) : natOfDigits cs = Nat.ofDigitChars 10 cs 0 := by
  rw [natOfDigits, Nat.ofDigitChars_eq_foldl]
  simp only [Nat.mul_comm]

theorem natOfDigits_toDigits (n : Nat) : natOfDigits (Nat.toDigits 10 n) = n := by
  rw [natOfDigits_eq, Nat.ofDigitChars_ten_toDigits]

theorem natOfDigits_append_replicate (cs : List Char) (k : Nat) :
    natOfDigits (cs ++ List.replicate k '0') = natOfDigits cs * 10 ^ k := by
  rw [natOfDigits_eq, natOfDigits_eq, Nat.ofDigitChars_append, Nat.ofDigitChars_replicate_zero,
    Nat.mul_comm]

theorem natOfDigits_replicate_append (cs : List Char) (k : Nat) :
    natOfDigits (List.replicate k '0' ++ cs) = natOfDigits cs := by
  rw [natOfDigits_eq, natOfDigits_eq, Nat.ofDigitChars_append, Nat.ofDigitChars_replicate_zero,
    Nat.mul_zero]

theorem isDigit_of_mem_toDigits {n : Nat} {c : Char} (h : c ∈ Nat.toDigits 10 n) :
    c.isDigit = true :=
  Nat.isDigit_of_mem_toDigits (by decide) (by decide) h

theorem isDigit_of_mem_nil {c : Char} (h : c ∈ []) : c.isDigit = true := absurd h List.not_mem_nil

theorem isDigit_of_mem_replicate {k : Nat} {c : Char} (h : c ∈ List.replicate k '0') :
    c.isDigit = true := by
  rw [List.eq_of_mem_replicate h]
  rfl

/-! ### Integers -/

/-- The numeral of an integer. -/
def Numeral.ofInt (i : Int) : Numeral where
  negative := decide (i < 0)
  whole := Nat.toDigits 10 i.natAbs
  fraction := []
  whole_ne_nil := Nat.toDigits_ne_nil
  whole_isDigit := fun _ => isDigit_of_mem_toDigits
  fraction_isDigit := fun _ => isDigit_of_mem_nil

theorem Numeral.ofInt_writes (i : Int) : (Numeral.ofInt i).Writes (toString i) := by
  rw [Int.toString_eq_repr, Int.repr_eq_if, Numeral.Writes, Numeral.chars, Numeral.unsigned]
  by_cases hnonneg : 0 ≤ i
  · have habs : i.toNat = i.natAbs := by omega
    simp [Numeral.ofInt, hnonneg, habs, Nat.toList_repr]
  · have habs : (-i).toNat = i.natAbs := by omega
    have hneg : i < 0 := Int.not_le.1 hnonneg
    simp [Numeral.ofInt, hnonneg, hneg, habs, Nat.toList_repr]

theorem signedDigits?_toString (i : Int) : signedDigits? (toString i).toList = some i := by
  rw [Numeral.ofInt_writes i, Numeral.signedDigits?_chars rfl, Numeral.ofInt, natOfDigits_toDigits]
  by_cases hneg : i < 0
  · rw [if_pos (decide_eq_true hneg)]
    congr 1
    omega
  · rw [if_neg (by simpa using hneg)]
    congr 1
    omega

/-! ### Doubles -/

/-- A point between the digits has digits on both sides. -/
theorem digits_around_point {digits : List Char} {point : Int} (hpos : ¬point ≤ 0)
    (hlong : ¬digits.length ≤ point.natAbs) :
    digits.take point.natAbs ≠ [] ∧ digits.drop point.natAbs ≠ [] := by
  rw [Ne, List.take_eq_nil_iff, Ne, List.drop_eq_nil_iff]
  refine ⟨?_, hlong⟩
  rintro (hzero | rfl)
  · omega
  · exact hlong (Nat.zero_le _)

/-- **Positional notation is a numeral.** It either keeps the digits and puts a
point among them or in front of them, or fills them up with zeros and has no
point. -/
theorem exists_numeral_writePositional (negative : Bool) {digits : List Char}
    (hne : digits ≠ []) (hdigits : ∀ c ∈ digits, c.isDigit = true) (point : Int) :
    ∃ (n : Numeral) (zeros : Nat), n.negative = negative ∧
      n.unsigned = writePositional false digits point ∧
      natOfDigits (n.whole ++ n.fraction) = natOfDigits digits * 10 ^ zeros ∧
      (-n.fraction.length : Int) + zeros = point - digits.length ∧
      (zeros = 0 ∨ n.fraction = []) := by
  have hlength : 0 < digits.length := List.length_pos_of_ne_nil hne
  simp only [writePositional, Bool.false_eq_true, if_false, List.append_nil]
  split_ifs with hsmall hlong
  · -- A point in front of the digits, with zeros in between.
    refine ⟨⟨negative, ['0'], List.replicate point.natAbs '0' ++ digits, by simp, by simp,
      fun c hc => ?_⟩, 0, rfl, ?_, ?_, ?_, Or.inl rfl⟩
    · rcases List.mem_append.1 hc with hc | hc
      · exact isDigit_of_mem_replicate hc
      · exact hdigits c hc
    · simp [Numeral.unsigned, hne]
    · rw [pow_zero, mul_one]
      exact natOfDigits_replicate_append digits (point.natAbs + 1)
    · rw [List.length_append, List.length_replicate]
      omega
  · -- Zeros behind the digits, and no point.
    refine ⟨⟨negative, digits ++ List.replicate (point.natAbs - digits.length) '0', [],
      List.append_ne_nil_of_left_ne_nil hne _, fun c hc => ?_, by simp⟩,
      point.natAbs - digits.length, rfl, ?_, ?_, ?_, Or.inr rfl⟩
    · rcases List.mem_append.1 hc with hc | hc
      · exact hdigits c hc
      · exact isDigit_of_mem_replicate hc
    · simp [Numeral.unsigned]
    · rw [List.append_nil, natOfDigits_append_replicate]
    · rw [List.length_nil]
      omega
  · -- A point between the digits.
    obtain ⟨htake, hdrop⟩ := digits_around_point hsmall hlong
    refine ⟨⟨negative, digits.take point.natAbs, digits.drop point.natAbs, htake,
      fun c hc => hdigits c (List.mem_of_mem_take hc),
      fun c hc => hdigits c (List.mem_of_mem_drop hc)⟩, 0, rfl, ?_, ?_, ?_, Or.inl rfl⟩
    · simp only [Numeral.unsigned, if_neg hdrop]
    · rw [List.take_append_drop, pow_zero, mul_one]
    · rw [List.length_drop]
      omega

/-- Zeros at the end of the digits are made up for by the power. -/
theorem Digits.ReadAs.append_zeros {digits places zeros : Nat} {power : Int} {rank : Nat}
    (h : Digits.ReadAs ⟨digits, power⟩ rank) (hpower : power = places - (Digits.depth : Int))
    (hzeros : zeros ≤ places) : Digits.ReadAs ⟨digits * 10 ^ zeros, power - zeros⟩ rank := by
  obtain ⟨places', hpower', hreads⟩ := h
  simp only at hpower' hreads
  obtain rfl : places' = places := by omega
  have hplaces : power - zeros = (places' - zeros : Nat) - (Digits.depth : Int) := by omega
  refine ⟨places' - zeros, hplaces, ?_⟩
  rwa [mul_assoc, ← pow_add, Nat.add_sub_cancel' hzeros]

/-- **The plain text of a double is a numeral that is read as the double.** -/
theorem exists_numeral_plain {d : Decimal} (hfin : d.isFinite = true) :
    ∃ n : Numeral, n.Writes (plain.write d) ∧
      ofDigits n.negative (natOfDigits (n.whole ++ n.fraction)) (-n.fraction.length) = d := by
  cases d with
  | nan => cases hfin
  | number negative rank =>
    have hrank : rank.val < infinityRank := by simpa [isFinite] using hfin
    rcases Nat.eq_zero_or_pos rank.val with hzero | hpos
    · refine ⟨⟨negative, ['0'], [], by simp, by simp, by simp⟩, ?_, ?_⟩
      · rw [Numeral.Writes, Layout.write, if_neg hrank.ne, if_pos hzero, String.toList_ofList]
        rfl
      · have hrank0 : rank = 0 := Fin.ext hzero
        rw [hrank0]
        rfl
    · have hread := Digits.shortest_readAs plain.tie hpos
      have hwrite : (plain.write (.number negative rank)).toList =
          (if negative then ['-'] else []) ++ plain.writeMagnitude rank := by
        rw [Layout.write, if_neg hrank.ne, if_neg hpos.ne', String.toList_ofList]
      rw [Layout.writeMagnitude] at hwrite
      obtain ⟨s, hs⟩ : ∃ s, Digits.shortest plain.tie rank = s := ⟨_, rfl⟩
      rw [hs] at hread hwrite
      obtain ⟨places, hplaces, -⟩ := id hread
      obtain ⟨n, zeros, rfl, hchars, hvalue, hpoint, hzeros⟩ :=
        exists_numeral_writePositional negative Nat.toDigits_ne_nil
          (fun _ => isDigit_of_mem_toDigits) ((Nat.toDigits 10 s.digits).length + s.power)
      refine ⟨n, ?_, ?_⟩
      · rw [Numeral.Writes, hwrite, Numeral.chars, hchars]
        rfl
      · have hpower : (-n.fraction.length : Int) = s.power - zeros := by omega
        rw [hvalue, natOfDigits_toDigits, hpower]
        refine ofDigits_eq _ hpos hrank (hread.append_zeros hplaces ?_)
        rcases hzeros with hzeros | hzeros
        · omega
        · rw [hzeros, List.length_nil] at hpoint
          omega

/-- **A double reads back from its plain text.** -/
theorem ofText?_plain {d : Decimal} (hfin : d.isFinite = true) :
    ofText? (plain.write d) = some d := by
  obtain ⟨n, hwrites, hvalue⟩ := exists_numeral_plain hfin
  rw [Numeral.ofText?_of_writes hwrites, hvalue]

end Decimal

/-- A 64-bit integer reads back from its text. -/
theorem integerOfText?_toString (i : Int64) : integerOfText? (toString i.toInt) = some i := by
  rw [integerOfText?, Decimal.signedDigits?_toString]
  simp only
  rw [if_pos ⟨Int64.minValue_le_toInt i, Int64.toInt_le i⟩, Int64.ofInt_toInt]

end ColumnChecks
