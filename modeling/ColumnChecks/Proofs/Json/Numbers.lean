import Mathlib.Tactic.IntervalCases
import ColumnChecks.Json.Printer
import ColumnChecks.Json.Draft
import ColumnChecks.Proofs.Decimal.Numeral
import ColumnChecks.Proofs.Decimal.Stepwise

/-!
# Numbers in JSON

A numeral has digits, perhaps a point and more digits, and perhaps an exponent
(`ColumnChecks.JsonNumeral`). The reader takes exactly these parts, as long as what
follows cannot go on with them (`ColumnChecks.Draft.numeral_chars`), and then decides what
they are read as: **a point or an exponent makes a number a double**, and without them it is
an integer.

Both kinds of numbers are written so that they are told apart. An integer is written by
its digits alone, and reads back as the same integer
(`ColumnChecks.JsonNumeral.number_ofNat`). A double always has a point or an exponent, if
need be a point with a zero behind it, and its numeral denotes the double
(`ColumnChecks.JsonNumeral.exists_decimal`). The reader computes what a numeral denotes step
by step, though, and may miss it. Whether a double reads back is therefore a property that
some doubles have and others have not (`ColumnChecks.Decimal.ReadsBack`).
-/

namespace ColumnChecks

/-- The parts of a numeral in a JSON text, its sign apart. -/
structure JsonNumeral where
  whole : List Char
  /-- The digits behind the point; there is a point only if there are any. -/
  fraction : List Char
  exponent : Option Int
  whole_ne_nil : whole ≠ []
  whole_isDigit : ∀ c ∈ whole, c.isDigit = true
  fraction_isDigit : ∀ c ∈ fraction, c.isDigit = true
  /-- A zero in front of other digits is no numeral. -/
  length_of_zero : whole.head? = some '0' → whole.length = 1

namespace JsonNumeral

/-- The exponent as it is written, always with a sign. -/
def exponentChars : Option Int → List Char
  | some e => 'e' :: ((if 0 ≤ e then ['+'] else []) ++ (toString e).toList)
  | none => []

/-- The numeral as it is written. -/
def chars (n : JsonNumeral) : List Char :=
  n.whole ++ ((if n.fraction = [] then [] else '.' :: n.fraction) ++ exponentChars n.exponent)

/-- What the numeral is read as, with a sign. -/
def number (negative : Bool) (n : JsonNumeral) : Option JsonNumber :=
  Draft.numberOf negative n.whole n.fraction n.exponent

end JsonNumeral

namespace Draft

/-- What follows a numeral does not belong to it. -/
def EndsNumeral (rest : List Char) : Prop :=
  ∀ c, rest.head? = some c → c.isDigit = false ∧ c ≠ '.' ∧ c ≠ 'e' ∧ c ≠ 'E'

/-! ### Reading the parts -/

/-- Digits up to something that is no digit. -/
theorem span_digits {digits : List Char} (hdigits : ∀ c ∈ digits, c.isDigit = true)
    {rest : List Char} (hrest : ∀ c, rest.head? = some c → c.isDigit = false) :
    (digits ++ rest).takeWhile Char.isDigit = digits ∧
      (digits ++ rest).dropWhile Char.isDigit = rest := by
  have hstop : rest.takeWhile Char.isDigit = [] ∧ rest.dropWhile Char.isDigit = rest := by
    cases rest with
    | nil => exact ⟨rfl, rfl⟩
    | cons c cs =>
      have hc := hrest c rfl
      simp [hc]
  rw [List.takeWhile_append_of_pos hdigits, List.dropWhile_append_of_pos hdigits, hstop.1, hstop.2,
    List.append_nil]
  exact ⟨rfl, rfl⟩

/-- An exponent is read by its sign and its digits. -/
theorem exponentPart_eq (negative : Bool) (digits fraction : List Char) (e : Int)
    {rest : List Char} (hrest : EndsNumeral rest) :
    exponentPart negative digits fraction
        ((if 0 ≤ e then ['+'] else []) ++ ((toString e).toList ++ rest)) =
      (.number (numberOf negative digits fraction (some e)), some rest) := by
  obtain ⟨htake, hdrop⟩ := span_digits
    (fun c => Decimal.isDigit_of_mem_toDigits (n := e.natAbs)) (fun c hc => (hrest c hc).1)
  have hne : (Nat.toDigits 10 e.natAbs).isEmpty = false :=
    List.isEmpty_eq_false_iff.2 Nat.toDigits_ne_nil
  rw [Int.toString_eq_repr, Int.repr_eq_if]
  by_cases hnonneg : 0 ≤ e
  · have habs : e.toNat = e.natAbs := by omega
    simp [exponentPart, hnonneg, habs, Nat.toList_repr, htake, hdrop, hne,
      abs_of_nonneg hnonneg, Decimal.natOfDigits_toDigits]
  · have habs : (-e).toNat = e.natAbs := by omega
    have hneg : e < 0 := Int.not_le.1 hnonneg
    simp [exponentPart, hnonneg, habs, Nat.toList_repr, htake, hdrop, hne, abs_of_neg hneg,
      Decimal.natOfDigits_toDigits]

theorem afterFraction_exponentChars (negative : Bool) (digits fraction : List Char)
    (exponent : Option Int) {rest : List Char} (hrest : EndsNumeral rest) :
    afterFraction negative digits fraction (JsonNumeral.exponentChars exponent ++ rest) =
      (.number (numberOf negative digits fraction exponent), some rest) := by
  cases exponent with
  | some e =>
    rw [JsonNumeral.exponentChars, List.cons_append, List.append_assoc]
    exact exponentPart_eq negative digits fraction e hrest
  | none =>
    rw [JsonNumeral.exponentChars, List.nil_append]
    unfold afterFraction
    split
    · exact absurd rfl (hrest 'e' rfl).2.2.1
    · exact absurd rfl (hrest 'E' rfl).2.2.2
    · rfl

/-- What stands behind the digits of a numeral does not go on with them. -/
theorem head_exponentChars {exponent : Option Int} {rest : List Char}
    (hrest : EndsNumeral rest) {c : Char}
    (hc : (JsonNumeral.exponentChars exponent ++ rest).head? = some c) :
    c.isDigit = false ∧ c ≠ '.' := by
  cases exponent with
  | some e =>
    cases hc
    exact ⟨rfl, by decide⟩
  | none => exact ⟨(hrest c hc).1, (hrest c hc).2.1⟩

/-- **A numeral is read part by part.** -/
theorem numeral_chars (negative : Bool) (n : JsonNumeral) {rest : List Char}
    (hrest : EndsNumeral rest) :
    numeral negative (n.chars ++ rest) = (.number (n.number negative), some rest) := by
  obtain ⟨tail, htail⟩ : ∃ tail, tail = JsonNumeral.exponentChars n.exponent ++ rest := ⟨_, rfl⟩
  have hhead : ∀ c, tail.head? = some c → c.isDigit = false ∧ c ≠ '.' := fun c hc =>
    head_exponentChars hrest (htail ▸ hc)
  have hdigit : ∀ c, tail.head? = some c → c.isDigit = false := fun c hc => (hhead c hc).1
  have hafter := fun digits fraction =>
    afterFraction_exponentChars negative digits fraction n.exponent hrest
  rw [← htail] at hafter
  have hne : n.whole.isEmpty = false := List.isEmpty_eq_false_iff.2 n.whole_ne_nil
  have hzero : ¬ (n.whole.head? = some '0' ∧ 1 < n.whole.length) := fun h => by
    have := n.length_of_zero h.1
    omega
  by_cases hfraction : n.fraction = []
  · obtain ⟨htake, hdrop⟩ := span_digits n.whole_isDigit hdigit
    have hchars : n.chars ++ rest = n.whole ++ tail := by
      rw [JsonNumeral.chars, if_pos hfraction, List.nil_append, List.append_assoc, htail]
    rw [numeral, hchars, htake, hdrop, hne, if_neg Bool.false_ne_true, if_neg hzero]
    split
    · exact absurd rfl (hhead '.' rfl).2
    · rw [hafter, JsonNumeral.number, hfraction]
  · have hpoint : ∀ c, ('.' :: (n.fraction ++ tail)).head? = some c → c.isDigit = false := by
      rintro c ⟨rfl⟩
      rfl
    obtain ⟨htake, hdrop⟩ := span_digits n.whole_isDigit hpoint
    obtain ⟨htake', hdrop'⟩ := span_digits n.fraction_isDigit hdigit
    have hchars : n.chars ++ rest = n.whole ++ '.' :: (n.fraction ++ tail) := by
      rw [JsonNumeral.chars, if_neg hfraction, htail]
      simp
    have hne' : n.fraction.isEmpty = false := List.isEmpty_eq_false_iff.2 hfraction
    rw [numeral, hchars, htake, hdrop, hne, if_neg Bool.false_ne_true, if_neg hzero]
    simp only [htake', hdrop', hne', if_neg Bool.false_ne_true]
    rw [hafter]
    rfl

end Draft

/-! ### The first digit -/

/-- The digits of a positive number do not start with a zero. -/
theorem head?_toDigits_ne_zero {n : Nat} (hpos : 0 < n) : (Nat.toDigits 10 n).head? ≠ some '0' := by
  induction n using Nat.strong_induction_on with
  | _ n ih =>
    rw [Nat.toDigits_eq_if (by decide)]
    split_ifs with hlt
    · interval_cases n <;> decide
    · have hhead := ih (n / 10) (by omega) (by omega)
      cases hdigits : Nat.toDigits 10 (n / 10) with
      | nil => exact absurd hdigits Nat.toDigits_ne_nil
      | cons c cs => rwa [hdigits] at hhead

namespace JsonNumeral

/-! ### Integers -/

/-- The numeral of a natural number. -/
def ofNat (n : Nat) : JsonNumeral where
  whole := Nat.toDigits 10 n
  fraction := []
  exponent := none
  whole_ne_nil := Nat.toDigits_ne_nil
  whole_isDigit := fun _ => Decimal.isDigit_of_mem_toDigits
  fraction_isDigit := fun _ => Decimal.isDigit_of_mem_nil
  length_of_zero := fun h => by
    rcases Nat.eq_zero_or_pos n with rfl | hpos
    · rfl
    · exact absurd h (head?_toDigits_ne_zero hpos)

/-- **An integer reads back as an integer**, if it is in the range of the 64-bit words,
signed or not. -/
theorem number_ofNat {i : Int} (hlow : -2 ^ 63 ≤ i) (hhigh : i < 2 ^ 64) :
    (ofNat i.natAbs).number (decide (i < 0)) = some (.whole i) := by
  have hsize : UInt64.size = 2 ^ 64 := rfl
  simp only [number, ofNat, Draft.numberOf, Decimal.natOfDigits_toDigits]
  by_cases hneg : i < 0
  · have hne : i ≠ 0 := hneg.ne
    have hlt : i.natAbs < Nat.pow 2 63 + 1 := by
      rw [Nat.pow_eq]
      omega
    rw [if_pos (by simp [hneg, hne, hlt])]
    simp [hneg, abs_of_neg hneg]
  · have hnonneg : 0 ≤ i := Int.not_lt.1 hneg
    have hlt : i.natAbs < UInt64.size := by omega
    rw [if_pos (by simp [hneg, hlt])]
    simp [hneg, abs_of_nonneg hnonneg]

/-! ### Doubles -/

/-- The double nearest to what the numeral says: its digits, and the power of ten that they
are multiplied with. -/
def denotes (negative : Bool) (n : JsonNumeral) : Decimal :=
  .ofDigits negative (Decimal.natOfDigits (n.whole ++ n.fraction))
    (n.exponent.getD 0 - n.fraction.length)

/-- The double that the reader comes to. -/
def stepwise (negative : Bool) (n : JsonNumeral) : Decimal :=
  .ofParts negative n.whole n.fraction (n.exponent.getD 0)

/-- **A point or an exponent makes a number a double.** -/
theorem number_eq_decimal {negative : Bool} {n : JsonNumeral}
    (hmark : n.fraction ≠ [] ∨ n.exponent ≠ none) (hfin : (n.stepwise negative).isFinite = true) :
    n.number negative = some (.decimal (n.stepwise negative)) := by
  have hwhole : (n.fraction.isEmpty && n.exponent.isNone) = false := by
    rcases hmark with hfraction | hexponent
    · rw [List.isEmpty_eq_false_iff.2 hfraction, Bool.false_and]
    · rw [Option.isNone_eq_false_iff.2 (Option.isSome_iff_ne_none.2 hexponent), Bool.and_false]
  simp only [number, Draft.numberOf, hwhole, Bool.false_and, Bool.false_eq_true, if_false]
  exact if_pos hfin

/-- **Positional notation** with a point in every case. -/
theorem exists_positional {digits : List Char} (hne : digits ≠ [])
    (hdigits : ∀ c ∈ digits, c.isDigit = true) (hhead : digits.head? ≠ some '0') (point : Int) :
    ∃ (n : JsonNumeral) (zeros : Nat), n.exponent = none ∧ n.fraction ≠ [] ∧
      n.chars = Decimal.writePositional true digits point ∧
      Decimal.natOfDigits (n.whole ++ n.fraction) = Decimal.natOfDigits digits * 10 ^ zeros ∧
      (-n.fraction.length : Int) + zeros = point - digits.length ∧
      (zeros = 0 ∨ n.fraction.length = 1) := by
  have hlength : 0 < digits.length := List.length_pos_of_ne_nil hne
  simp only [Decimal.writePositional]
  split_ifs with hsmall hlong
  · -- A point in front of the digits, with zeros in between.
    refine ⟨⟨['0'], List.replicate point.natAbs '0' ++ digits, none, by simp, by simp,
      fun c hc => ?_, by simp⟩, 0, rfl, by simp [hne], ?_, ?_, ?_, Or.inl rfl⟩
    · rcases List.mem_append.1 hc with hc | hc
      · exact Decimal.isDigit_of_mem_replicate hc
      · exact hdigits c hc
    · simp [chars, hne, exponentChars]
    · rw [pow_zero, mul_one]
      exact Decimal.natOfDigits_replicate_append digits (point.natAbs + 1)
    · rw [List.length_append, List.length_replicate]
      omega
  · -- Zeros behind the digits, and one behind the point.
    refine ⟨⟨digits ++ List.replicate (point.natAbs - digits.length) '0', ['0'], none,
      List.append_ne_nil_of_left_ne_nil hne _, fun c hc => ?_, by simp, fun h => ?_⟩,
      point.natAbs - digits.length + 1, rfl, by simp, ?_, ?_, ?_, Or.inr rfl⟩
    · rcases List.mem_append.1 hc with hc | hc
      · exact hdigits c hc
      · exact Decimal.isDigit_of_mem_replicate hc
    · rw [List.head?_append_of_ne_nil _ hne] at h
      exact absurd h hhead
    · simp [chars, exponentChars]
    · rw [List.append_assoc, ← List.replicate_succ', Decimal.natOfDigits_append_replicate]
    · rw [List.length_singleton]
      omega
  · -- A point between the digits.
    obtain ⟨htake, hdrop⟩ := Decimal.digits_around_point hsmall hlong
    refine ⟨⟨digits.take point.natAbs, digits.drop point.natAbs, none, htake,
      fun c hc => hdigits c (List.mem_of_mem_take hc),
      fun c hc => hdigits c (List.mem_of_mem_drop hc), fun h => ?_⟩, 0, rfl, hdrop, ?_, ?_, ?_,
      Or.inl rfl⟩
    · rw [List.head?_take, if_neg (by omega)] at h
      exact absurd h hhead
    · simp [chars, exponentChars, hdrop]
    · rw [List.take_append_drop, pow_zero, mul_one]
    · rw [List.length_drop]
      omega

/-- **Notation with an exponent**: one digit in front of the point. -/
theorem exists_exponent {digits : List Char} (hne : digits ≠ [])
    (hdigits : ∀ c ∈ digits, c.isDigit = true) (exponent : Int) :
    ∃ n : JsonNumeral, n.exponent = some exponent ∧
      n.chars = Decimal.writeExponent true digits exponent ∧
      n.whole ++ n.fraction = digits ∧ n.fraction.length + 1 = digits.length := by
  cases digits with
  | nil => exact absurd rfl hne
  | cons c cs =>
    refine ⟨⟨[c], cs, some exponent, by simp, fun d hd => ?_, fun d hd => ?_, fun _ => rfl⟩,
      rfl, ?_, rfl, rfl⟩
    · rw [List.mem_singleton.1 hd]
      exact hdigits c List.mem_cons_self
    · exact hdigits d (List.mem_cons_of_mem c hd)
    · simp [chars, exponentChars, Decimal.writeExponent]

/-- A positive double is written in one of the two notations. -/
theorem writeMagnitude_cases {rank : Nat} {s : Decimal.Digits}
    (hs : Decimal.Digits.shortest Decimal.json.tie rank = s) :
    Decimal.json.writeMagnitude rank = Decimal.writePositional true (Nat.toDigits 10 s.digits)
        ((Nat.toDigits 10 s.digits).length + s.power) ∨
      Decimal.json.writeMagnitude rank = Decimal.writeExponent true (Nat.toDigits 10 s.digits)
        ((Nat.toDigits 10 s.digits).length + s.power - 1) := by
  rw [Decimal.Layout.writeMagnitude, hs]
  exact ite_eq_or_eq _ _ _

/-- **A positive double is written by its shortest digits**, with zeros behind them where a
whole number needs some in front of its point. -/
theorem exists_magnitude {rank : Nat} {s : Decimal.Digits} (hdigits : 0 < s.digits)
    (hs : Decimal.Digits.shortest Decimal.json.tie rank = s) :
    ∃ (n : JsonNumeral) (zeros : Nat), (n.fraction ≠ [] ∨ n.exponent ≠ none) ∧
      Decimal.json.writeMagnitude rank = n.chars ∧
      Decimal.natOfDigits (n.whole ++ n.fraction) = s.digits * 10 ^ zeros ∧
      n.exponent.getD 0 - n.fraction.length = s.power - zeros ∧
      zeros ≤ (s.power + 1).toNat := by
  have hne : Nat.toDigits 10 s.digits ≠ [] := Nat.toDigits_ne_nil
  have hall : ∀ c ∈ Nat.toDigits 10 s.digits, c.isDigit = true := fun _ =>
    Decimal.isDigit_of_mem_toDigits
  rcases writeMagnitude_cases hs with hnotation | hnotation
  · obtain ⟨n, zeros, hexponent, hfraction, hchars, hvalue, hpoint, hzeros⟩ :=
      exists_positional hne hall (head?_toDigits_ne_zero hdigits)
        ((Nat.toDigits 10 s.digits).length + s.power)
    refine ⟨n, zeros, Or.inl hfraction, hnotation.trans hchars.symm, ?_, ?_, ?_⟩
    · rw [hvalue, Decimal.natOfDigits_toDigits]
    · rw [hexponent, Option.getD_none]
      omega
    · omega
  · obtain ⟨n, hexponent, hchars, happend, hlength⟩ := exists_exponent hne hall
      ((Nat.toDigits 10 s.digits).length + s.power - 1)
    refine ⟨n, 0, Or.inr (by simp [hexponent]), hnotation.trans hchars.symm, ?_, ?_,
      Nat.zero_le _⟩
    · rw [happend, Decimal.natOfDigits_toDigits, pow_zero, mul_one]
    · rw [hexponent, Option.getD_some]
      omega

/-- Shortest digits with zeros behind them denote the double. -/
theorem denotes_eq (negative : Bool) {n : JsonNumeral} {rank : Fin (Decimal.infinityRank + 1)}
    {s : Decimal.Digits} {zeros : Nat} (hpos : 0 < rank.val)
    (hfin : rank.val < Decimal.infinityRank)
    (hs : Decimal.Digits.shortest Decimal.json.tie rank = s)
    (hvalue : Decimal.natOfDigits (n.whole ++ n.fraction) = s.digits * 10 ^ zeros)
    (hpower : n.exponent.getD 0 - n.fraction.length = s.power - zeros)
    (hzeros : zeros ≤ (s.power + 1).toNat) : n.denotes negative = .number negative rank := by
  have hread : s.ReadAs rank := hs ▸ Decimal.Digits.shortest_readAs Decimal.json.tie hpos
  obtain ⟨places, hplaces, -⟩ := id hread
  have hdepth : Decimal.Digits.depth = 341 := rfl
  rw [denotes, hvalue, hpower]
  -- The zeros do not change what the digits are read as, as long as there are not too many.
  exact Decimal.ofDigits_eq negative hpos hfin (hread.append_zeros hplaces (by omega))

/-- The shortest digits of a positive double are a positive number. -/
theorem shortest_pos {rank : Nat} (hpos : 0 < rank) :
    0 < (Decimal.Digits.shortest Decimal.json.tie rank).digits := by
  obtain ⟨places, -, hreads⟩ := Decimal.Digits.shortest_readAs Decimal.json.tie hpos
  exact Nat.pos_of_mul_pos_right (Decimal.Digits.pos_of_reads hpos hreads)

/-- **The JSON text of a double is a numeral that denotes the double.** -/
theorem exists_decimal (negative : Bool) {rank : Fin (Decimal.infinityRank + 1)}
    (hfin : rank.val < Decimal.infinityRank) :
    ∃ n : JsonNumeral, (n.fraction ≠ [] ∨ n.exponent ≠ none) ∧
      (Decimal.json.write (.number negative rank)).toList =
        (if negative then ['-'] else []) ++ n.chars ∧
      n.denotes negative = .number negative rank := by
  rcases Nat.eq_zero_or_pos rank.val with hzero | hpos
  · refine ⟨⟨['0'], ['0'], none, by simp, by simp, by simp, by simp⟩, Or.inl (by simp), ?_, ?_⟩
    · rw [Decimal.Layout.write, if_neg hfin.ne, if_pos hzero, String.toList_ofList]
      rfl
    · rw [show rank = 0 from Fin.ext hzero]
      rfl
  · obtain ⟨n, zeros, hmark, hchars, hvalue, hpower, hzeros⟩ :=
      exists_magnitude (shortest_pos hpos) rfl
    refine ⟨n, hmark, ?_, denotes_eq negative hpos hfin rfl hvalue hpower hzeros⟩
    rw [Decimal.Layout.write, if_neg hfin.ne, if_neg hpos.ne', String.toList_ofList, hchars]

end JsonNumeral

/-- **The JSON text of a double is read as the double.** -/
def Decimal.ReadsBack (d : Decimal) : Prop :=
  Draft.parseJson (Decimal.json.write d) = .ok (.number (.decimal d))

namespace JsonNumber

/-! ### Both kinds of numbers -/

/-- The numbers that a text can hold: integers in the range of the 64-bit words, signed
or not, and finite doubles that read back. -/
def Written : JsonNumber → Prop
  | .whole i => -2 ^ 63 ≤ i ∧ i < 2 ^ 64
  | .decimal d => d.isFinite = true ∧ d.ReadsBack

/-- **A number is written as a numeral with a sign**, and the numeral of an integer is read
as the integer. -/
theorem exists_numeral {number : JsonNumber} (h : number.Written) :
    ∃ (negative : Bool) (n : JsonNumeral),
      number.print.toList = (if negative then ['-'] else []) ++ n.chars ∧
      ∀ i, number = .whole i → n.number negative = some number := by
  cases number with
  | whole i =>
    refine ⟨decide (i < 0), .ofNat i.natAbs, ?_, fun _ _ => JsonNumeral.number_ofNat h.1 h.2⟩
    rw [print, Decimal.Numeral.ofInt_writes i]
    simp [Decimal.Numeral.chars, Decimal.Numeral.unsigned, Decimal.Numeral.ofInt,
      JsonNumeral.chars, JsonNumeral.ofNat, JsonNumeral.exponentChars]
  | decimal d =>
    cases d with
    | nan => cases h.1
    | number negative rank =>
      have hfin : rank.val < Decimal.infinityRank := by
        simpa [Decimal.isFinite] using h.1
      obtain ⟨n, -, hchars, -⟩ := JsonNumeral.exists_decimal negative hfin
      refine ⟨negative, n, hchars, fun i hwhole => ?_⟩
      cases hwhole

end JsonNumber

end ColumnChecks
