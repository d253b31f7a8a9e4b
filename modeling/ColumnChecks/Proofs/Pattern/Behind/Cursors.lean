import Mathlib.Order.Basic
import Mathlib.Tactic.Common
import ColumnChecks.Pattern.Cursor
import ColumnChecks.Proofs.Results

/-!
# Reading with more text behind

A pattern is put between other texts, and the question is whether it is still read as it
was. The reader goes from left to right, so the text before it does not matter; what
stands behind it could be taken for a part of it. Here this text starts with a closing
parenthesis, which ends everything that reads on and on, and has no line feed
(`ColumnChecks.Pattern.ClosingText`).

Cursors in several longer texts **go along with** the cursor in the pattern
(`ColumnChecks.Pattern.Cursor.Along`): they have the same text before them, with the
text behind. There is one other way for them to be. A comment at the end of a pattern
runs on through all the text behind it, and then nothing is left before any of them.
Whether this happens is up to the pattern alone, so it happens in all the texts or in
none.

A computation on such cursors is echoed (`ColumnChecks.Pattern.Echoes`) if, whenever it
succeeds in the pattern, it succeeds in all the longer texts with a result that goes
along. Failures are not echoed: the text behind may complete what the pattern does not.
-/

namespace ColumnChecks.Pattern

variable {ι : Type}

/-- Where no reader is out of fuel, each can make a step. -/
theorem exists_less_fuel {fuels : ι → Nat} (h : ∀ i, 0 < fuels i) :
    ∃ fuels' : ι → Nat, ∀ i, fuels i = fuels' i + 1 :=
  ⟨fun i => fuels i - 1, fun i => (Nat.sub_add_cancel (h i)).symm⟩

/-! ### Echoes -/

section Echoes

variable {α β : Type} {ρ : α → (ι → α) → Prop} {σ : β → (ι → β) → Prop}

/-- **What succeeds is echoed**: by results that are related to the one in the pattern. -/
def Echoes (ρ : α → (ι → α) → Prop) (x : Except Fault α) (X : ι → Except Fault α) : Prop :=
  ∀ a, x = .ok a → ∃ A, (∀ i, X i = .ok (A i)) ∧ ρ a A

theorem Echoes.error (e : Fault) (X : ι → Except Fault α) : Echoes ρ (.error e) X := fun _ => nofun

/-- A result is echoed by results that are related to it. -/
theorem Echoes.ok {a : α} {A : ι → α} (h : ρ a A) :
    Echoes ρ (.ok a) fun i => .ok (A i) := by
  rintro _ ⟨⟩
  exact ⟨A, fun _ => rfl, h⟩

/-- **One computation after another is echoed** if each of them is. -/
theorem Echoes.bind {x : Except Fault α} {X : ι → Except Fault α} {f : α → Except Fault β}
    {F : ι → α → Except Fault β} (h : Echoes ρ x X)
    (hf : ∀ a A, ρ a A → Echoes σ (f a) fun i => F i (A i)) :
    Echoes σ (x >>= f) fun i => X i >>= F i := by
  intro b hb
  obtain ⟨a, hx, hfa⟩ := exists_of_bind_eq_ok hb
  obtain ⟨A, hX, hρ⟩ := h a hx
  obtain ⟨B, hB, hσ⟩ := hf a A hρ b hfa
  refine ⟨B, fun i => ?_, hσ⟩
  simp only [hX i]
  exact hB i

theorem Echoes.mono {ρ' : α → (ι → α) → Prop} {x : Except Fault α} {X : ι → Except Fault α}
    (h : Echoes ρ x X) (hρ : ∀ a A, ρ a A → ρ' a A) : Echoes ρ' x X := by
  intro a ha
  obtain ⟨A, hX, hA⟩ := h a ha
  exact ⟨A, hX, hρ a A hA⟩

/-- The same decision is made everywhere. -/
theorem Echoes.ite {p : Prop} [Decidable p] {P : ι → Prop} [∀ i, Decidable (P i)]
    {x y : Except Fault α} {X Y : ι → Except Fault α} (hp : ∀ i, P i ↔ p) (hx : p → Echoes ρ x X)
    (hy : ¬p → Echoes ρ y Y) :
    Echoes ρ (if p then x else y) fun i => if P i then X i else Y i := by
  simp only [hp]
  split_ifs with h
  · exact hx h
  · exact hy h

/-- **What is found or not found**: it is found everywhere or nowhere. -/
def FindsAlong (ρ : α → (ι → α) → Prop) (x : Option α) (X : ι → Option α) : Prop :=
  (x = none → ∀ i, X i = none) ∧ ∀ a, x = some a → ∃ A, (∀ i, X i = some (A i)) ∧ ρ a A

theorem FindsAlong.none : FindsAlong ρ none fun _ => none := ⟨fun _ _ => rfl, fun _ => nofun⟩

theorem FindsAlong.some {a : α} {A : ι → α} (h : ρ a A) :
    FindsAlong ρ (some a) fun i => some (A i) :=
  ⟨nofun, by rintro _ ⟨⟩; exact ⟨A, fun _ => rfl, h⟩⟩

/-- What is found may be changed everywhere alike. -/
theorem FindsAlong.map {x : Option α} {X : ι → Option α} {f : α → β} {F : ι → α → β}
    (h : FindsAlong ρ x X) (hf : ∀ a A, ρ a A → σ (f a) fun i => F i (A i)) :
    FindsAlong σ (x.map f) fun i => (X i).map (F i) := by
  cases x with
  | none =>
    simp only [h.1 rfl]
    exact .none
  | some a =>
    obtain ⟨A, hX, hA⟩ := h.2 a rfl
    simp only [hX]
    exact .some (hf a A hA)

end Echoes

/-! ### Cursors -/

/-- A text that may stand behind a pattern. -/
def ClosingText (tail : List Char) : Prop := ∃ more, tail = ')' :: more ∧ '\n' ∉ tail ∧ ':' ∉ tail

/-- **Cursors that go along with a cursor**, before no more than so many characters. -/
structure Cursor.Along (tail : ι → List Char) (n : Nat) (c : Cursor) (C : ι → Cursor) : Prop where
  blanks : ∀ i, (C i).ignoresBlanks = c.ignoresBlanks
  length : c.rest.length ≤ n
  rest : (∀ i, (C i).rest = c.rest ++ tail i) ∨ c.rest = [] ∧ ∀ i, (C i).rest = []

namespace Cursor

variable {tail : ι → List Char} {n k : Nat} {c : Cursor} {C : ι → Cursor} {ch : Char}

theorem char?_eq_some_iff : c.char? = some ch ↔ ∃ more, c.rest = ch :: more :=
  List.head?_eq_some_iff

theorem rest_eq_nil_of_char? (h : c.char? = none) : c.rest = [] := List.head?_eq_none_iff.1 h

theorem length_pos_of_char? (h : c.char? = some ch) : 0 < c.rest.length := by
  obtain ⟨more, hmore⟩ := char?_eq_some_iff.1 h
  rw [hmore]
  exact Nat.succ_pos _

/-- A step makes the text shorter, also where it passes over blanks. -/
theorem length_step_lt (h : c.char? = some ch) : c.step.rest.length < c.rest.length := by
  have hpos := length_pos_of_char? h
  have hadvance : c.advance.rest.length < c.rest.length := by
    simp only [Cursor.advance, Cursor.skip, List.length_drop]
    omega
  rw [step, skipBlanks]
  split_ifs
  · simp only [Cursor.skip, List.length_drop] at hadvance ⊢
    omega
  · exact hadvance

theorem atEnd_iff : c.atEnd = true ↔ c.rest = [] := List.isEmpty_iff

theorem length_le_of_startsWith {beginning : List Char} (h : c.startsWith beginning = true) :
    beginning.length ≤ c.rest.length :=
  (List.isPrefixOf_iff_prefix.1 h).length_le

theorem not_atEnd_of_char? (h : c.char? = some ch) : c.atEnd ≠ true := fun hend => by
  obtain ⟨more, hmore⟩ := char?_eq_some_iff.1 h
  rw [atEnd_iff, hmore] at hend
  cases hend

/-- What follows blanks and the sign of a comment. -/
def bareBehind (behind : List Char) : List Char :=
  let bare := behind.dropWhile Text.isBlank
  match bare with
  | '#' :: more => more.dropWhile Text.isBlank
  | _ => bare

theorem nextPastBlanks?_eq (c : Cursor) :
    c.nextPastBlanks? =
      if c.ignoresBlanks then
        if (bareBehind (c.rest.drop 1)).isEmpty then (c.rest.drop 1).head?
        else (bareBehind (c.rest.drop 1)).head?
      else c.next? := by
  rfl

/-- Nothing is passed over in front of any other character. -/
theorem bareBehind_of_head? {behind : List Char} (h : behind.head? = some ch) (hsign : ch ≠ '#')
    (hblank : Text.isBlank ch = false) : bareBehind behind = behind := by
  obtain ⟨more, rfl⟩ := List.head?_eq_some_iff.1 h
  unfold bareBehind
  simp only [List.dropWhile_cons, hblank, Bool.false_eq_true, if_false]
  split
  · next heq => exact absurd (List.cons.inj heq).1 hsign
  · rfl

/-- The text behind a pattern is not passed over, since it begins with a parenthesis. -/
theorem bareBehind_append {text : List Char} (htext : ClosingText text) (behind : List Char) :
    bareBehind (behind ++ text) = bareBehind behind ++ text := by
  obtain ⟨more, rfl, -⟩ := htext
  have hdrop : ∀ cs : List Char, (cs ++ ')' :: more).dropWhile Text.isBlank =
      cs.dropWhile Text.isBlank ++ ')' :: more := by
    intro cs
    rw [List.dropWhile_append, List.dropWhile_cons_of_neg (by decide)]
    split_ifs with hempty
    · rw [List.isEmpty_iff.1 hempty, List.nil_append]
    · rfl
  unfold bareBehind
  simp only [hdrop]
  -- A closing parenthesis is no blank and no sign of a comment, so it stops both stretches.
  cases behind.dropWhile Text.isBlank with
  | nil => rfl
  | cons e es =>
    by_cases he : e = '#'
    · subst he
      exact hdrop es
    · rw [List.cons_append]
      split
      · next heq => exact absurd (List.cons.inj heq).1 he
      · split
        · next heq => exact absurd (List.cons.inj heq).1 he
        · rfl

namespace Along

theorem mono (h : Along tail n c C) (hn : n ≤ k) : Along tail k c C :=
  ⟨h.blanks, Nat.le_trans h.length hn, h.rest⟩

/-- Before a character there is room for a step. -/
theorem exists_succ (h : Along tail n c C) (hc : c.char? = some ch) : ∃ m, n = m + 1 :=
  Nat.exists_eq_succ_of_ne_zero
    (Nat.ne_of_gt (Nat.lt_of_lt_of_le (length_pos_of_char? hc) h.length))

/-- Before a character the cursors have more text behind. -/
theorem rest_eq (h : Along tail n c C) (hc : c.rest ≠ []) (i : ι) :
    (C i).rest = c.rest ++ tail i :=
  h.rest.elim (fun h => h i) fun h => absurd h.1 hc

/-- **Where the pattern has a character**, all the longer texts have it. -/
theorem char?_eq (h : Along tail n c C) (hc : c.char? = some ch) (i : ι) :
    (C i).char? = some ch := by
  obtain ⟨more, hmore⟩ := char?_eq_some_iff.1 hc
  rw [char?_eq_some_iff, h.rest_eq (by rw [hmore]; exact List.cons_ne_nil _ _), hmore]
  exact ⟨more ++ tail i, rfl⟩

/-- The text behind does not start with any other character than a parenthesis. -/
theorem char?_iff (htail : ∀ i, ClosingText (tail i)) (h : Along tail n c C) (hch : ch ≠ ')')
    (i : ι) : (C i).char? = some ch ↔ c.char? = some ch := by
  refine ⟨fun hi => ?_, fun hc => h.char?_eq hc i⟩
  rcases h.rest with hrest | ⟨-, hnil⟩
  · obtain ⟨more, hmore⟩ := char?_eq_some_iff.1 hi
    obtain ⟨behind, hbehind, -⟩ := htail i
    rw [hrest, hbehind] at hmore
    cases hc : c.rest with
    | nil =>
      rw [hc, List.nil_append, List.cons.injEq] at hmore
      exact absurd hmore.1.symm hch
    | cons d ds =>
      rw [hc, List.cons_append, List.cons.injEq] at hmore
      exact char?_eq_some_iff.2 ⟨ds, hc.trans (by rw [hmore.1])⟩
  · obtain ⟨more, hmore⟩ := char?_eq_some_iff.1 hi
    rw [hnil] at hmore
    cases hmore

/-- Only a closing parenthesis may be seen behind the pattern and not in it. -/
theorem char?_beq (htail : ∀ i, ClosingText (tail i)) (h : Along tail n c C) (hch : ch ≠ ')')
    (i : ι) : ((C i).char? == some ch) = (c.char? == some ch) := by
  rw [Bool.eq_iff_iff, beq_iff_eq, beq_iff_eq]
  exact h.char?_iff htail hch i

/-- Where the pattern goes on, so do the longer texts. -/
theorem atEnd_eq (h : Along tail n c C) (hc : c.atEnd ≠ true) (i : ι) : (C i).atEnd = false := by
  have hne : c.rest ≠ [] := fun hnil => hc (atEnd_iff.2 hnil)
  rw [Bool.eq_false_iff]
  intro hi
  rw [atEnd_iff, h.rest_eq hne] at hi
  exact hne (List.append_eq_nil_iff.1 hi).1

/-- A beginning without a parenthesis does not reach into the text behind. -/
theorem startsWith_eq (htail : ∀ i, ClosingText (tail i)) (h : Along tail n c C)
    {beginning : List Char} (hbeginning : ')' ∉ beginning) (i : ι) :
    (C i).startsWith beginning = c.startsWith beginning := by
  have hprefix : ∀ {pre rest : List Char}, ')' ∉ pre → pre.isPrefixOf (rest ++ tail i) =
      pre.isPrefixOf rest := by
    intro pre
    induction pre with
    | nil => exact fun _ => by simp
    | cons p pre ih =>
      intro rest hpre
      rw [List.mem_cons, not_or] at hpre
      cases rest with
      | nil =>
        obtain ⟨behind, hbehind, -⟩ := htail i
        have hne : (p == ')') = false := beq_eq_false_iff_ne.2 (Ne.symm hpre.1)
        rw [List.nil_append, hbehind, List.isPrefixOf_cons_cons, hne, Bool.false_and]
        rfl
      | cons d ds =>
        rw [List.cons_append, List.isPrefixOf_cons_cons, List.isPrefixOf_cons_cons, ih hpre.2]
  rcases h.rest with hrest | ⟨hc, hnil⟩
  · rw [startsWith, startsWith, hrest, hprefix hbeginning]
  · rw [startsWith, startsWith, hc, hnil]

/-- Characters of the pattern are skipped alike. -/
theorem skip (h : Along tail (n + k) c C) (hk : k ≤ c.rest.length) :
    Along tail n (c.skip k) fun i => (C i).skip k := by
  refine ⟨h.blanks, ?_, ?_⟩
  · have := h.length
    simp only [Cursor.skip, List.length_drop]
    omega
  · refine h.rest.imp (fun hrest i => ?_) fun ⟨hc, hnil⟩ => ⟨?_, fun i => ?_⟩
    · simp only [Cursor.skip, hrest, List.drop_append_of_le_length hk]
    · simp only [Cursor.skip, hc, List.drop_nil]
    · simp only [Cursor.skip, hnil, List.drop_nil]

theorem advance (h : Along tail (n + 1) c C) (hc : c.char? = some ch) :
    Along tail n c.advance fun i => (C i).advance := by
  obtain ⟨more, hmore⟩ := char?_eq_some_iff.1 hc
  exact h.skip (by rw [hmore]; exact Nat.succ_le_succ (Nat.zero_le _))

/-- A character may be passed or not, as long as the decision is the same everywhere. -/
theorem advanceIf {p : Prop} [Decidable p] (h : Along tail n c C) (hp : p → c.char? = some ch) :
    Along tail n (if p then c.advance else c) fun i => if p then (C i).advance else C i := by
  split_ifs with hstep
  · obtain ⟨m, rfl⟩ := h.exists_succ (hp hstep)
    exact (h.advance (hp hstep)).mono (Nat.le_succ m)
  · exact h

/-- The second character is seen alike, too, unless it is a closing parenthesis. -/
theorem next?_iff (htail : ∀ i, ClosingText (tail i)) (h : Along tail n c C) (hc : c.rest ≠ [])
    (hch : ch ≠ ')') (i : ι) : (C i).next? = some ch ↔ c.next? = some ch := by
  obtain ⟨d, ds, hds⟩ := List.exists_cons_of_ne_nil hc
  obtain ⟨more, hmore, -⟩ := htail i
  rw [next?, next?, h.rest_eq hc, hds, hmore]
  cases ds with
  | nil => exact iff_of_false (fun h => hch (Option.some.inj h).symm) nofun
  | cons e es => exact Iff.rfl

/-- What a hyphen stands before is a closing bracket or another hyphen everywhere or
nowhere. -/
theorem nextPastBlanks?_iff (htail : ∀ i, ClosingText (tail i)) (h : Along tail n c C)
    (hc : c.rest ≠ []) (hch : ch ≠ ')') (hsign : ch ≠ '#') (hblank : Text.isBlank ch = false)
    (i : ι) : (C i).nextPastBlanks? = some ch ↔ c.nextPastBlanks? = some ch := by
  rw [nextPastBlanks?_eq, nextPastBlanks?_eq, h.blanks]
  by_cases hblanks : c.ignoresBlanks = true
  · rw [if_pos hblanks, if_pos hblanks]
    obtain ⟨d, behind, hbehind⟩ := List.exists_cons_of_ne_nil hc
    rw [h.rest_eq hc, hbehind, List.cons_append, List.drop_one, List.drop_one, List.tail_cons,
      List.tail_cons, bareBehind_append (htail i)]
    obtain ⟨more, hmore, -⟩ := htail i
    have hne : (bareBehind behind ++ tail i).isEmpty = false := by simp [hmore]
    rw [hne, if_neg Bool.false_ne_true]
    cases hbare : bareBehind behind with
    | nil =>
      rw [List.nil_append, hmore]
      refine iff_of_false (fun heq => hch (Option.some.inj heq).symm) fun heq => ?_
      rw [List.isEmpty_nil, if_pos rfl] at heq
      rw [bareBehind_of_head? heq hsign hblank] at hbare
      rw [hbare] at heq
      cases heq
    | cons => exact Iff.rfl
  · rw [if_neg hblanks, if_neg hblanks]
    exact h.next?_iff htail hc hch i

end Along

/-! ### Blanks -/

/-- No more is passed over than there is. -/
theorem blankLength_le (inComment : Bool) (cs : List Char) :
    blankLength inComment cs ≤ cs.length := by
  induction cs generalizing inComment with
  | nil => exact Nat.le_refl _
  | cons c cs ih =>
    rw [blankLength]
    split_ifs
    · exact Nat.succ_le_succ (ih _)
    · exact Nat.succ_le_succ (ih _)
    · exact Nat.succ_le_succ (ih _)
    · exact Nat.zero_le _

/-- A comment that is not ended takes everything. -/
theorem blankLength_comment {cs : List Char} (h : '\n' ∉ cs) :
    blankLength true cs = cs.length := by
  induction cs with
  | nil => rfl
  | cons c cs ih =>
    rw [List.mem_cons, not_or] at h
    have hc : (c != '\n') = true := bne_iff_ne.2 (Ne.symm h.1)
    rw [blankLength, if_pos rfl, hc, ih h.2, List.length_cons]

/-- Blanks end with the pattern, or in a comment that takes the text behind. -/
theorem blankLength_append (inComment : Bool) (cs : List Char) :
    (∀ tail, ClosingText tail →
      blankLength inComment (cs ++ tail) = blankLength inComment cs) ∨
    blankLength inComment cs = cs.length ∧ ∀ tail, ClosingText tail →
      blankLength inComment (cs ++ tail) = cs.length + tail.length := by
  induction cs generalizing inComment with
  | nil =>
    cases inComment with
    | true =>
      refine Or.inr ⟨rfl, fun tail htail => ?_⟩
      obtain ⟨more, -, hline, -⟩ := htail
      rw [List.nil_append, blankLength_comment hline, List.length_nil, Nat.zero_add]
    | false =>
      refine Or.inl fun tail htail => ?_
      obtain ⟨more, rfl, -⟩ := htail
      rfl
  | cons c cs ih =>
    have hpassed : ∀ inside : Bool,
        (∀ tail, ClosingText tail →
          blankLength inside (cs ++ tail) + 1 = blankLength inside cs + 1) ∨
        blankLength inside cs + 1 = (c :: cs).length ∧ ∀ tail, ClosingText tail →
          blankLength inside (cs ++ tail) + 1 = (c :: cs).length + tail.length := by
      intro inside
      rcases ih inside with hall | ⟨hend, hall⟩
      · exact Or.inl fun tail htail => by rw [hall tail htail]
      · refine Or.inr ⟨by rw [hend, List.length_cons], fun tail htail => ?_⟩
        rw [hall tail htail, List.length_cons]
        omega
    simp only [List.cons_append, blankLength]
    split_ifs
    · exact hpassed (c != '\n')
    · exact hpassed false
    · exact hpassed true
    · exact Or.inl fun _ _ => rfl

namespace Along

variable (htail : ∀ i, ClosingText (tail i))

include htail

/-- **Blanks and comments** are passed over alike. A comment that the pattern does not end runs
on to the end of all the texts. -/
theorem skipBlanks (h : Along tail n c C) :
    Along tail n c.skipBlanks fun i => (C i).skipBlanks := by
  cases hblanks : c.ignoresBlanks with
  | false =>
    have hC : ∀ i, (C i).skipBlanks = C i := fun i => by
      rw [Cursor.skipBlanks, h.blanks, hblanks, if_neg Bool.false_ne_true]
    simp only [hC]
    rw [Cursor.skipBlanks, hblanks, if_neg Bool.false_ne_true]
    exact h
  | true =>
    have hC : ∀ i, (C i).skipBlanks = (C i).skip (blankLength false (C i).rest) := fun i => by
      rw [Cursor.skipBlanks, h.blanks, hblanks, if_pos rfl]
    simp only [hC]
    rw [Cursor.skipBlanks, hblanks, if_pos rfl]
    refine ⟨h.blanks, ?_, ?_⟩
    · simp only [Cursor.skip, List.length_drop]
      exact Nat.le_trans (Nat.sub_le _ _) h.length
    rcases h.rest with hrest | ⟨hc, hnil⟩
    · rcases blankLength_append false c.rest with hall | ⟨hend, hall⟩
      · refine Or.inl fun i => ?_
        simp only [Cursor.skip, hrest, hall (tail i) (htail i)]
        exact List.drop_append_of_le_length (blankLength_le false c.rest)
      · -- The pattern ends in a comment, which takes the text behind as well.
        refine Or.inr ⟨?_, fun i => ?_⟩
        · simp only [Cursor.skip, hend, List.drop_length]
        · simp only [Cursor.skip, hrest, hall (tail i) (htail i)]
          rw [← List.length_append, List.drop_length]
    · refine Or.inr ⟨?_, fun i => ?_⟩
      · simp only [Cursor.skip, hc, List.drop_nil]
      · simp only [Cursor.skip, hnil, List.drop_nil]

/-- A step in the pattern is a step in all the texts. -/
theorem step (h : Along tail (n + 1) c C) (hc : c.char? = some ch) :
    Along tail n c.step fun i => (C i).step :=
  (h.advance hc).skipBlanks htail

theorem stepIf {p : Prop} [Decidable p] (h : Along tail n c C) (hp : p → c.char? = some ch) :
    Along tail n (if p then c.step else c) fun i => if p then (C i).step else C i := by
  split_ifs with hstep
  · obtain ⟨m, rfl⟩ := h.exists_succ (hp hstep)
    exact (h.step htail (hp hstep)).mono (Nat.le_succ m)
  · exact h

/-- At the end nothing is taken. -/
theorem takeWhileFrom_of_end {p : Char → Bool} (hp : p ')' = false) (h : Along tail n c C)
    (hc : c.rest = []) (fuel : Nat) (i : ι) : (C i).takeWhileFrom p fuel = ([], C i) := by
  cases fuel with
  | zero => rfl
  | succ fuel =>
    rw [Cursor.takeWhileFrom]
    rcases h.rest with hrest | ⟨-, hnil⟩
    · obtain ⟨more, hmore, -⟩ := htail i
      have hchar : (C i).char? = some ')' :=
        char?_eq_some_iff.2 ⟨more, by rw [hrest, hc, List.nil_append, hmore]⟩
      simp only [hchar, hp, Bool.false_eq_true, if_false]
    · have hchar : (C i).char? = none := List.head?_eq_none_iff.2 (hnil i)
      simp only [hchar]

/-- Characters of a kind are taken up to the same place, if the text behind does not
start with one of that kind or is not reached. -/
theorem takeWhileFrom (p : Char → Bool) {fuel : Nat} {fuels : ι → Nat} (h : Along tail n c C)
    (hfuel : c.rest.length ≤ fuel) (hfuels : ∀ i, (C i).rest.length ≤ fuels i)
    (hp : p ')' = false ∨ (c.takeWhileFrom p fuel).2.atEnd ≠ true) :
    (∀ i, ((C i).takeWhileFrom p (fuels i)).1 = (c.takeWhileFrom p fuel).1) ∧
      Along tail n (c.takeWhileFrom p fuel).2 fun i => ((C i).takeWhileFrom p (fuels i)).2 := by
  induction fuel generalizing n c C fuels with
  | zero =>
    -- The pattern ends here, so that the parenthesis behind it has to be of another kind.
    have hc : c.rest = [] := List.length_eq_zero_iff.1 (Nat.le_zero.1 hfuel)
    have hp' : p ')' = false := hp.resolve_right fun hend => hend (atEnd_iff.2 hc)
    simp only [h.takeWhileFrom_of_end htail hp' hc]
    exact ⟨fun _ => rfl, h⟩
  | succ fuel ih =>
    cases hc : c.char? with
    | none =>
      have hrest := rest_eq_nil_of_char? hc
      rw [Cursor.takeWhileFrom, hc] at hp ⊢
      have hp' : p ')' = false := hp.resolve_right fun hend => hend (atEnd_iff.2 hrest)
      simp only [h.takeWhileFrom_of_end htail hp' hrest]
      exact ⟨fun _ => trivial, h⟩
    | some ch =>
      obtain ⟨fuels', hfuels'⟩ := exists_less_fuel fun i =>
        Nat.lt_of_lt_of_le (length_pos_of_char? (h.char?_eq hc i)) (hfuels i)
      simp only [hfuels', Cursor.takeWhileFrom, hc, h.char?_eq hc] at hp ⊢
      by_cases hch : p ch = true
      · simp only [hch, if_true] at hp ⊢
        obtain ⟨m, rfl⟩ := h.exists_succ hc
        have hlength := length_step_lt hc
        have hlengths : ∀ i, (C i).step.rest.length ≤ fuels' i := fun i => by
          have hstep := length_step_lt (h.char?_eq hc i)
          have hall := hfuels i
          rw [hfuels'] at hall
          omega
        obtain ⟨htaken, hfinal⟩ := ih (h.step htail hc) (by omega) hlengths hp
        exact ⟨fun i => by rw [htaken], hfinal.mono (Nat.le_succ m)⟩
      · simp only [hch] at hp ⊢
        exact ⟨fun _ => rfl, h⟩

/-- A run of characters ends alike if it stops at a closing parenthesis, or in the pattern. -/
theorem takeWhile (p : Char → Bool) (h : Along tail n c C)
    (hp : p ')' = false ∨ (c.takeWhile p).2.atEnd ≠ true) :
    (∀ i, ((C i).takeWhile p).1 = (c.takeWhile p).1) ∧
      Along tail n (c.takeWhile p).2 fun i => ((C i).takeWhile p).2 :=
  h.takeWhileFrom htail p (Nat.le_refl _) (fun _ => Nat.le_refl _) hp

end Along

end Cursor

end ColumnChecks.Pattern
