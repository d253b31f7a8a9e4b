import ColumnChecks.Proofs.Pattern.Bare
import ColumnChecks.Proofs.Pattern.Behind.Cursors

/-!
# Escape sequences with more text behind

An escape sequence that is complete in the pattern is the same one with more text behind
it (`ColumnChecks.Pattern.echoes_escape`): the digits of a character are so many or end
with a brace, and so do the names of classes and boundaries.
-/

namespace ColumnChecks.Pattern

variable {ι α β : Type} {tail : ι → List Char} {n : Nat} {c : Cursor} {C : ι → Cursor}

/-- **What is read goes along**: it is the same everywhere, apart from stretches, and so
is what is left to read. -/
def ReadAlong (bare : α → β) (tail : ι → List Char) (n : Nat) (a : α × Cursor)
    (A : ι → α × Cursor) : Prop :=
  (∀ i, bare (A i).1 = bare a.1) ∧ Cursor.Along tail n a.2 fun i => (A i).2

theorem ReadAlong.mono {bare : α → β} {a : α × Cursor} {A : ι → α × Cursor} {k : Nat}
    (h : ReadAlong bare tail n a A) (hn : n ≤ k) : ReadAlong bare tail k a A :=
  ⟨h.1, h.2.mono hn⟩

variable (htail : ∀ i, ClosingText (tail i))

include htail

/-- So many digits are read in the pattern, and so none of them is read from behind it. -/
theorem echoes_hexDigits (count : Nat) (h : Cursor.Along tail n c C) :
    Echoes (ReadAlong id tail n) (hexDigits count c) fun i => hexDigits count (C i) := by
  induction count generalizing n c C with
  | zero => exact .ok ⟨fun _ => rfl, h⟩
  | succ count ih =>
    cases hc : c.char? with
    | none =>
      rw [hexDigits, hc]
      exact .error _ _
    | some d =>
      simp only [hexDigits, hc, h.char?_eq hc]
      obtain ⟨m, rfl⟩ := h.exists_succ hc
      refine .ite (fun _ => Iff.rfl) (fun _ => ?_) fun _ => .error _ _
      refine (ih (h.step htail hc)).bind ?_
      rintro ⟨digits, final⟩ A ⟨hdigits, hfinal⟩
      refine .ok ⟨fun i => ?_, hfinal.mono (Nat.le_succ m)⟩
      simp only [id_eq] at hdigits ⊢
      rw [hdigits]

/-- **Hexadecimal escapes** end after so many digits or with a brace of their own. -/
theorem echoes_hexEscape (start : Nat) (starts : ι → Nat) (letter : Char)
    (h : Cursor.Along tail (n + 1) c C) {ch : Char} (hc : c.char? = some ch) :
    Echoes (ReadAlong Escape.bare tail n) (hexEscape start letter c) fun i =>
      hexEscape (starts i) letter (C i) := by
  have hstep := h.step htail hc
  cases hd : c.step.char? with
  | none =>
    simp only [hexEscape, hd]
    exact .error _ _
  | some d =>
    simp only [hexEscape, hd, hstep.char?_eq hd]
    by_cases hbrace : d = '\x7b'
    · subst hbrace
      obtain ⟨m, rfl⟩ := hstep.exists_succ hd
      obtain ⟨hdigits, hfinal⟩ := (hstep.step htail hd).takeWhile htail isHexDigit (.inl rfl)
      simp only [hdigits]
      cases hend : (c.step.step.takeWhile isHexDigit).2.char? with
      | none => exact .error _ _
      | some e =>
        simp only [hfinal.char?_eq hend]
        by_cases hclose : e = '\x7d'
        · subst hclose
          refine .ite (fun _ => Iff.rfl) (fun _ => .error _ _) fun _ => ?_
          obtain ⟨k, rfl⟩ := hfinal.exists_succ hend
          cases charOfHex? (c.step.step.takeWhile isHexDigit).1 with
          | none => exact .error _ _
          | some char => exact .ok ⟨fun _ => rfl, (hfinal.step htail hend).mono (by omega)⟩
        · simp only
          exact .error _ _
    · simp only
      refine (echoes_hexDigits htail _ hstep).bind ?_
      rintro ⟨digits, final⟩ A ⟨hdigits, hfinal⟩
      simp only [id_eq] at hdigits
      simp only [hdigits]
      cases charOfHex? digits with
      | none => exact .error _ _
      | some char => exact .ok ⟨fun _ => rfl, hfinal⟩

/-- **The name of a property** is one letter, or ends with a brace. -/
theorem echoes_propertyEscape (start : Nat) (starts : ι → Nat) (negated : Bool)
    (h : Cursor.Along tail (n + 1) c C) {ch : Char} (hc : c.char? = some ch) :
    Echoes (ReadAlong Escape.bare tail n) (propertyEscape start negated c) fun i =>
      propertyEscape (starts i) negated (C i) := by
  have hstep := h.step htail hc
  cases hd : c.step.char? with
  | none =>
    simp only [propertyEscape, hd]
    exact .error _ _
  | some d =>
    simp only [propertyEscape, hd, hstep.char?_eq hd]
    obtain ⟨m, rfl⟩ := hstep.exists_succ hd
    have hbehind := hstep.step htail hd
    by_cases hbrace : d = '\x7b'
    · subst hbrace
      cases hend : (c.step.step.takeWhile (· != '\x7d')).2.char? with
      | none =>
        simp only [Cursor.atEnd_iff.2 (Cursor.rest_eq_nil_of_char? hend), if_true]
        exact .error _ _
      | some e =>
        -- A name may have any characters, so that only its end keeps it from the text behind.
        have hopen := Cursor.not_atEnd_of_char? hend
        obtain ⟨hname, hfinal⟩ := hbehind.takeWhile htail (· != '\x7d') (.inr hopen)
        obtain ⟨k, rfl⟩ := hfinal.exists_succ hend
        simp only [hopen, hfinal.atEnd_eq hopen, hname]
        exact .ok ⟨fun _ => rfl, (hfinal.advance hend).mono (by omega)⟩
    · by_cases hback : d = '\\'
      · subst hback
        exact .error _ _
      · simp only
        exact .ok ⟨fun _ => rfl, hbehind.mono (Nat.le_succ m)⟩

/-- What looks like the brace of a boundary is looked at up to its end, which is in the pattern. -/
theorem echoes_boundaryEscape (start : Nat) (starts : ι → Nat) (h : Cursor.Along tail n c C) :
    Echoes (ReadAlong Escape.bare tail n) (boundaryEscape start c) fun i =>
      boundaryEscape (starts i) (C i) := by
  have hsimple : Echoes (ReadAlong Escape.bare tail n)
      (.ok (.assertion (c.since start) .wordBoundary, c)) fun i =>
        .ok (.assertion ((C i).since (starts i)) .wordBoundary, C i) :=
    .ok ⟨fun _ => rfl, h⟩
  unfold boundaryEscape
  refine .ite (h.char?_iff htail (by decide)) (fun hc => ?_) fun _ => hsimple
  obtain ⟨m, rfl⟩ := h.exists_succ hc
  have hinside := h.step htail hc
  cases hfirst : c.step.char? with
  | none =>
    simp only [hfirst]
    exact .error _ _
  | some first =>
    simp only [hfirst, hinside.char?_eq hfirst]
    refine .ite (fun _ => Iff.rfl) (fun _ => ?_) fun _ => hsimple
    obtain ⟨hname, hfinal⟩ := hinside.takeWhile htail (fun ch => ch.isAlpha || ch == '-') (.inl rfl)
    refine .ite (hfinal.char?_iff htail (by decide)) (fun hend => ?_) fun _ => .error _ _
    obtain ⟨k, rfl⟩ := hfinal.exists_succ hend
    simp only [hname]
    cases boundaryOfName? (String.ofList
        (c.step.takeWhile fun ch => ch.isAlpha || ch == '-').1) with
    | none => exact .error _ _
    | some kind => exact .ok ⟨fun _ => rfl, (hfinal.advance hend).mono (by omega)⟩

/-- **An escape sequence that is complete** is not changed by what stands behind it. -/
theorem echoes_escape (h : Cursor.Along tail (n + 1) c C) (hc : c.char? = some '\\') :
    Echoes (ReadAlong Escape.bare tail n) (escape c) fun i => escape (C i) := by
  have hadvance := h.advance hc
  cases hletter : c.advance.char? with
  | none =>
    simp only [escape, hletter]
    exact .error _ _
  | some letter =>
    obtain ⟨m, rfl⟩ := hadvance.exists_succ hletter
    have hbehind := hadvance.advance hletter
    have hone : ∀ {e : Escape} {E : ι → Escape}, (∀ i, (E i).bare = e.bare) →
        Echoes (ReadAlong Escape.bare tail (m + 1)) (.ok (e, c.advance.advance)) fun i =>
          .ok (E i, (C i).advance.advance) := fun he => .ok ⟨he, hbehind.mono (Nat.le_succ m)⟩
    simp only [escape, hletter, hadvance.char?_eq hletter]
    refine .ite (fun _ => Iff.rfl) (fun _ => .error _ _) fun _ => ?_
    refine .ite (fun _ => Iff.rfl) (fun _ => ?_) fun _ => ?_
    · exact (echoes_hexEscape htail _ _ letter hadvance hletter).mono
        fun _ _ h => h.mono (Nat.le_succ m)
    refine .ite (fun _ => Iff.rfl) (fun _ => ?_) fun _ => ?_
    · exact (echoes_propertyEscape htail _ _ _ hadvance hletter).mono
        fun _ _ h => h.mono (Nat.le_succ m)
    refine .ite (fun _ => Iff.rfl) (fun _ => ?_) fun _ => ?_
    · exact (echoes_boundaryEscape htail _ _ hbehind).mono fun _ _ h => h.mono (Nat.le_succ m)
    split
    · exact hone fun _ => rfl
    · exact hone fun _ => rfl
    · exact hone fun _ => rfl
    · refine .ite (fun _ => Iff.rfl) (fun _ => hone fun _ => rfl) fun _ => ?_
      exact .ite (fun _ => Iff.rfl) (fun _ => hone fun _ => rfl) fun _ => .error _ _

end ColumnChecks.Pattern
