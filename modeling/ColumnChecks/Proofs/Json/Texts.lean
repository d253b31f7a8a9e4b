import Mathlib.Tactic.Common
import Mathlib.Tactic.IntervalCases
import Mathlib.Data.String.Basic
import ColumnChecks.Json.Printer
import ColumnChecks.Json.Draft

/-!
# Texts in JSON

A text is written between quotes, character by character, and the characters that
cannot stand there are escaped. The reader goes the same way: **it takes one step for
each character that was written**, however many characters its escape has
(`ColumnChecks.Draft.textChars_printChar`). So **a text reads back as it is**, and what
stands behind its closing quote is left (`ColumnChecks.Draft.readText_printText`).
-/

namespace ColumnChecks

namespace Draft

/-! ### Escapes by number -/

/-- A control character is written by its two hexadecimal digits, which denote it. -/
theorem fourHex_control {n : Nat} (h : n < 0x20) (rest : List Char) :
    fourHex ('0' :: '0' :: Nat.digitChar (n / 16) :: Nat.digitChar (n % 16) :: rest) =
      .ok (n, rest) := by
  have hsize : ¬ (String.ofList ('0' :: '0' :: Nat.digitChar (n / 16) ::
      Nat.digitChar (n % 16) :: rest)).utf8ByteSize < 4 := by
    rw [String.utf8ByteSize_ofList]
    simp only [String.utf8Len]
    have hhigh := Char.utf8Size_pos (Nat.digitChar (n / 16))
    have hlow := Char.utf8Size_pos (Nat.digitChar (n % 16))
    have hzero := Char.utf8Size_pos '0'
    omega
  rw [fourHex, if_neg hsize]
  clear hsize
  interval_cases n <;> rfl

theorem unicodeEscape_control {n : Nat} (h : n < 0x20) (rest : List Char) :
    unicodeEscape ('0' :: '0' :: Nat.digitChar (n / 16) :: Nat.digitChar (n % 16) :: rest) =
      .ok (Char.ofNat n, rest) := by
  have hhigh : ¬ (0xDC00 ≤ n ∧ n ≤ 0xDFFF) := by omega
  have hlow : n < 0xD800 ∨ 0xDFFF < n := by omega
  rw [unicodeEscape, fourHex_control h]
  simp only [bind, Except.bind, if_neg hhigh, if_pos hlow]

/-! ### Character by character -/

/-- A character is escaped by a letter, or by its number if it is a control
character, or stands for itself. -/
theorem printChar_cases (c : Char) :
    (∃ e, Json.printChar c = ['\\', e] ∧ e ≠ 'u' ∧ simpleEscape? e = some c) ∨
      (c.toNat < 0x20 ∧ Json.printChar c =
        ['\\', 'u', '0', '0', Nat.digitChar (c.toNat / 16), Nat.digitChar (c.toNat % 16)]) ∨
      (Json.printChar c = [c] ∧ c ≠ '"' ∧ c ≠ '\\' ∧ ¬ c.toNat < 0x20) := by
  unfold Json.printChar
  split_ifs with hquote hslash hb ht hn hf hr hcontrol
  · exact Or.inl ⟨'"', rfl, by decide, by rw [hquote]; rfl⟩
  · exact Or.inl ⟨'\\', rfl, by decide, by rw [hslash]; rfl⟩
  · exact Or.inl ⟨'b', rfl, by decide, by rw [hb]; rfl⟩
  · exact Or.inl ⟨'t', rfl, by decide, by rw [ht]; rfl⟩
  · exact Or.inl ⟨'n', rfl, by decide, by rw [hn]; rfl⟩
  · exact Or.inl ⟨'f', rfl, by decide, by rw [hf]; rfl⟩
  · exact Or.inl ⟨'r', rfl, by decide, by rw [hr]; rfl⟩
  · exact Or.inr (Or.inl ⟨hcontrol, rfl⟩)
  · exact Or.inr (Or.inr ⟨rfl, hquote, hslash, hcontrol⟩)

/-- **The reader takes one step for a character**, whether it is escaped or not. -/
theorem textChars_printChar (fuel : Nat) (c : Char) (cs : List Char) :
    textChars (fuel + 1) (Json.printChar c ++ cs) = (textChars fuel cs).map (c :: ·) := by
  obtain ⟨e, hprint, hu, he⟩ | ⟨hcontrol, hprint⟩ | ⟨hprint, hquote, hslash, hcontrol⟩ :=
    printChar_cases c
  · rw [hprint, List.cons_append, List.singleton_append, textChars, he]
    · rfl
    · exact hu
  · have hread := unicodeEscape_control hcontrol cs
    rw [Char.ofNat_toNat] at hread
    simp only [hprint, List.cons_append, List.nil_append, textChars, hread]
    rfl
  · rw [hprint, List.singleton_append, textChars, if_neg hcontrol]
    · rfl
    · exact hquote
    · exact fun h _ => hslash h
    · exact fun _ h _ => hslash h
    · exact fun _ _ h _ => hslash h

theorem skipText_printChar (fuel : Nat) (c : Char) (cs : List Char) :
    skipText (fuel + 1) (Json.printChar c ++ cs) = skipText fuel cs := by
  obtain ⟨e, hprint, hu, he⟩ | ⟨hcontrol, hprint⟩ | ⟨hprint, hquote, hslash, hcontrol⟩ :=
    printChar_cases c
  · rw [hprint, List.cons_append, List.singleton_append, skipText, he]
    · rfl
    · exact hu
  · simp only [hprint, List.cons_append, List.nil_append, skipText, fourHex_control hcontrol]
    rfl
  · rw [hprint, List.singleton_append, skipText, if_neg hcontrol]
    · exact hquote
    · exact fun h _ => hslash h
    · exact fun _ h _ => hslash h
    · exact fun _ _ h _ => hslash h

/-- There is at least one character for every character that is written. -/
theorem length_le_flatMap_printChar (cs : List Char) :
    cs.length ≤ (cs.flatMap Json.printChar).length := by
  induction cs with
  | nil => exact le_rfl
  | cons c cs ih =>
    have hpos : 0 < (Json.printChar c).length := by
      unfold Json.printChar
      split_ifs <;> exact Nat.succ_pos _
    rw [List.flatMap_cons, List.length_append, List.length_cons]
    omega

/-! ### Whole texts -/

theorem textChars_flatMap {fuel : Nat} {cs : List Char} (hfuel : cs.length < fuel)
    (rest : List Char) : textChars fuel (cs.flatMap Json.printChar ++ '"' :: rest) = .ok cs := by
  induction cs generalizing fuel with
  | nil =>
    obtain ⟨fuel, rfl⟩ := Nat.exists_eq_succ_of_ne_zero hfuel.ne'
    rfl
  | cons c cs ih =>
    obtain ⟨fuel, rfl⟩ := Nat.exists_eq_succ_of_ne_zero (Nat.ne_zero_of_lt hfuel)
    rw [List.flatMap_cons, List.append_assoc, textChars_printChar,
      ih (Nat.lt_of_succ_lt_succ hfuel)]
    rfl

theorem skipText_flatMap {fuel : Nat} {cs : List Char} (hfuel : cs.length < fuel)
    (rest : List Char) :
    skipText fuel (cs.flatMap Json.printChar ++ '"' :: rest) = .ok rest := by
  induction cs generalizing fuel with
  | nil =>
    obtain ⟨fuel, rfl⟩ := Nat.exists_eq_succ_of_ne_zero hfuel.ne'
    rfl
  | cons c cs ih =>
    obtain ⟨fuel, rfl⟩ := Nat.exists_eq_succ_of_ne_zero (Nat.ne_zero_of_lt hfuel)
    rw [List.flatMap_cons, List.append_assoc, skipText_printChar,
      ih (Nat.lt_of_succ_lt_succ hfuel)]

/-- **A text reads back as it is**, behind its opening quote. -/
theorem readText_printText (s : String) (rest : List Char) :
    readText (s.toList.flatMap Json.printChar ++ '"' :: rest) = .ok (some s, rest) := by
  have hfuel : s.toList.length < (s.toList.flatMap Json.printChar ++ '"' :: rest).length + 1 := by
    have hlength := length_le_flatMap_printChar s.toList
    rw [List.length_append]
    omega
  rw [readText, skipText_flatMap hfuel, textChars_flatMap hfuel]
  simp only [Except.toOption, Option.map_some, String.ofList_toList]

end Draft

end ColumnChecks
