import ColumnChecks.Proofs.Results
import ColumnChecks.Proofs.Pattern.Inventory

/-!
# Escape sequences, read and scanned

As long as blanks are not ignored a cursor is no more than the text before it
(`ColumnChecks.Pattern.Cursor.At`), and what is read at once is a number of characters
that can be told from the text.

**Either both find a construct, or neither does** and the reader is behind what it
read (`ColumnChecks.Pattern.InStep`). What the reader does once there is a construct
does not matter any more, since a construct is never taken back; and only a construct
can make blanks ignored. Escape sequences are read this way
(`ColumnChecks.Pattern.escape_inStep`).
-/

namespace ColumnChecks.Pattern

/-! ### Cursors -/

/-- The cursor is before a text, and does not ignore blanks. -/
def Cursor.At (c : Cursor) (cs : List Char) : Prop := c.rest = cs ∧ c.ignoresBlanks = false

namespace Cursor.At

variable {c : Cursor} {ch : Char} {cs : List Char}

/-- The character at a cursor is the first of the text. -/
theorem char?_eq (h : c.At cs) : c.char? = cs.head? := by rw [Cursor.char?, h.1]

/-- The next one is the second. -/
theorem next?_eq (h : c.At (ch :: cs)) : c.next? = cs.head? := by
  rw [Cursor.next?, h.1, List.drop_one, List.tail_cons]

/-- It is also the next one past blanks, since blanks are characters like others here. -/
theorem nextPastBlanks?_eq (h : c.At (ch :: cs)) : c.nextPastBlanks? = cs.head? := by
  rw [Cursor.nextPastBlanks?, h.2, if_neg Bool.false_ne_true, h.next?_eq]

theorem atEnd_eq (h : c.At cs) : c.atEnd = cs.isEmpty := by rw [Cursor.atEnd, h.1]

/-- What a cursor starts with is what the text starts with. -/
theorem startsWith_eq (h : c.At cs) (pre : List Char) : c.startsWith pre = pre.isPrefixOf cs := by
  rw [Cursor.startsWith, h.1]

/-- Skipping characters drops them from the text. -/
theorem skip (h : c.At cs) (n : Nat) : (c.skip n).At (cs.drop n) := ⟨congrArg (·.drop n) h.1, h.2⟩

theorem advance (h : c.At (ch :: cs)) : c.advance.At cs := h.skip 1

/-- There are no blanks to skip. -/
theorem skipBlanks_eq (h : c.At cs) : c.skipBlanks = c := by
  rw [Cursor.skipBlanks, h.2, if_neg Bool.false_ne_true]

/-- A step of the reader is one character. -/
theorem step (h : c.At (ch :: cs)) : c.step.At cs := by
  rw [Cursor.step, h.advance.skipBlanks_eq]
  exact h.advance

/-- Enough fuel takes all characters of a kind, and stops in front of the first other one. -/
theorem takeWhileFrom (p : Char → Bool) {fuel : Nat} (h : c.At cs) (hfuel : cs.length ≤ fuel) :
    (c.takeWhileFrom p fuel).1 = cs.takeWhile p ∧
      (c.takeWhileFrom p fuel).2.At (cs.dropWhile p) := by
  induction fuel generalizing c cs with
  | zero =>
    obtain rfl : cs = [] := List.length_eq_zero_iff.1 (Nat.le_zero.1 hfuel)
    exact ⟨rfl, h⟩
  | succ fuel ih =>
    cases cs with
    | nil =>
      rw [Cursor.takeWhileFrom, h.char?_eq]
      exact ⟨rfl, h⟩
    | cons ch cs =>
      rw [Cursor.takeWhileFrom, h.char?_eq]
      simp only [List.head?_cons]
      split_ifs with hp
      · obtain ⟨htaken, hfinal⟩ := ih h.step (Nat.le_of_succ_le_succ hfuel)
        rw [List.takeWhile_cons_of_pos hp, List.dropWhile_cons_of_pos hp]
        exact ⟨congrArg (ch :: ·) htaken, hfinal⟩
      · rw [List.takeWhile_cons_of_neg hp, List.dropWhile_cons_of_neg hp]
        exact ⟨rfl, h⟩

/-- The fuel of the reader is enough. -/
theorem takeWhile (h : c.At cs) (p : Char → Bool) :
    (c.takeWhile p).1 = cs.takeWhile p ∧ (c.takeWhile p).2.At (cs.dropWhile p) :=
  h.takeWhileFrom p (Nat.le_of_eq (congrArg List.length h.1.symm))

end Cursor.At

/-- **Reading and scanning are in step**: both find a construct, or neither does and
something holds behind. -/
def InStep (constructs : List Construct) (found : Option Construct) (behind : Prop) : Prop :=
  constructs = [] ∧ found = none ∧ behind ∨ constructs ≠ [] ∧ found ≠ none

/-! ### Escape sequences -/

/-- The constructs of an escape sequence, as those of the tree it stands for. -/
def Escape.constructs (e : Escape) : List Construct := e.toTree.constructs

/-- A digit at the front counts. -/
theorem hexLength_cons (limit : Nat) {d : Char} (hd : isHexDigit d = true) (cs : List Char) :
    hexLength (limit + 1) (d :: cs) = hexLength limit cs + 1 := by
  rw [hexLength, List.take_succ_cons, List.takeWhile_cons_of_pos hd, List.length_cons, hexLength]

/-- Digits that are read were all there, and the reader is behind them. -/
theorem hexDigits_at {count : Nat} {c final : Cursor} {cs digits : List Char} (hc : c.At cs)
    (h : hexDigits count c = .ok (digits, final)) :
    hexLength count cs = count ∧ final.At (cs.drop count) := by
  induction count generalizing c cs digits with
  | zero =>
    cases h
    exact ⟨by simp [hexLength], hc⟩
  | succ count ih =>
    rw [hexDigits, hc.char?_eq] at h
    cases cs with
    | nil => cases h
    | cons d cs =>
      simp only [List.head?_cons] at h
      split_ifs at h with hd
      obtain ⟨⟨digits, final⟩, hmore, h⟩ := exists_of_bind_eq_ok h
      cases h
      obtain ⟨hlength, hfinal⟩ := ih hc.step hmore
      exact ⟨by rw [hexLength_cons count hd, hlength], hfinal⟩

/-- Only some letters make an escape sequence a construct. -/
theorem escapedConstruct?_eq_none {letter : Char} {rest : List Char}
    (h : letter ∉ ['p', 'P', 'z', 'b', 'B'])
    (hbrace : letter ∈ ['x', 'u', 'U'] → rest.head? ≠ some '\x7b') :
    escapedConstruct? (letter :: rest) = none := by
  unfold escapedConstruct?
  split
  all_goals first
    | rfl
    | (exfalso; rename_i heq; cases heq; first | exact h (by decide) | exact hbrace (by decide) rfl)

/-- **Hexadecimal escapes**: the scan takes one in braces for a construct, and counts the digits
of the others just like the reader. -/
theorem hexEscape_inStep {start : Nat} {letter : Char} {c behind : Cursor} {rest : List Char}
    {e : Escape} (hletter : letter = 'x' ∨ letter = 'u' ∨ letter = 'U') (hc : c.At (letter :: rest))
    (h : hexEscape start letter c = .ok (e, behind)) :
    InStep e.constructs (escapedConstruct? (letter :: rest))
      (behind.At ((letter :: rest).drop (escapeLength (letter :: rest)))) := by
  unfold hexEscape at h
  simp only [hc.step.char?_eq] at h
  split at h
  · cases h
  · next hbrace =>
    -- The only escape sequence in braces is a character.
    right
    constructor
    · split at h
      · cases h
      · split_ifs at h
        split at h
        · cases h
          exact List.cons_ne_nil _ _
        · cases h
      · cases h
    · obtain ⟨more, rfl⟩ := List.head?_eq_some_iff.1 hbrace
      rcases hletter with rfl | rfl | rfl <;> exact Option.some_ne_none _
  · next d hbrace hhead =>
    left
    obtain ⟨⟨digits, final⟩, hdigits, h⟩ := exists_of_bind_eq_ok h
    obtain ⟨hlength, hfinal⟩ := hexDigits_at hc.step hdigits
    split at h
    · cases h
      refine ⟨?_, escapedConstruct?_eq_none ?_ fun _ => ?_, ?_⟩
      · split_ifs <;> rfl
      · rcases hletter with rfl | rfl | rfl <;> decide
      · rw [hhead]
        exact fun h => hbrace (Option.some.inj h)
      · have hescape : escapeLength (letter :: rest) =
            1 + hexLength (if letter = 'x' then 2 else if letter = 'u' then 4 else 8) rest := by
          rcases hletter with rfl | rfl | rfl <;> rfl
        rw [hescape, hlength, Nat.add_comm]
        exact hfinal
    · cases h

/-- A property is a construct however it is named. -/
theorem propertyEscape_constructs {start : Nat} {negated : Bool} {c behind : Cursor} {e : Escape}
    (h : propertyEscape start negated c = .ok (e, behind)) : e.constructs ≠ [] := by
  unfold propertyEscape at h
  simp only at h
  split at h
  · cases h
  · split_ifs at h
    cases h
    exact List.cons_ne_nil _ _
  · cases h
  · cases h
    exact List.cons_ne_nil _ _

/-- So is a boundary with a name. -/
theorem boundaryOfName?_constructs {name : String} {kind : Assertion}
    (h : boundaryOfName? name = some kind) : kind.constructs ≠ [] := by
  unfold boundaryOfName? at h
  split_ifs at h <;> cases h <;> exact List.cons_ne_nil _ _

/-- A word boundary is a construct, with or without a name in braces. -/
theorem boundaryEscape_constructs {start : Nat} {c behind : Cursor} {e : Escape}
    (h : boundaryEscape start c = .ok (e, behind)) : e.constructs ≠ [] := by
  unfold boundaryEscape at h
  simp only at h
  split at h
  · split at h
    · cases h
    · split at h
      · split at h
        · split at h
          · next kind hkind =>
            cases h
            exact boundaryOfName?_constructs hkind
          · cases h
        · cases h
      · cases h
        exact List.cons_ne_nil _ _
  · cases h
    exact List.cons_ne_nil _ _

/-- Other escape sequences are one letter long. -/
theorem escapeLength_of_not_mem {letter : Char} (h : letter ∉ ['x', 'u', 'U']) (rest : List Char) :
    escapeLength (letter :: rest) = 1 := by
  unfold escapeLength
  split
  all_goals first
    | rfl
    | (exfalso; rename_i heq; cases heq; exact h (by decide))

/-- Of the letters that stand for assertions the database shares all but two. -/
theorem assertionOfLetter?_constructs {letter : Char} {kind : Assertion}
    (h : assertionOfLetter? letter = some kind) (hz : letter ≠ 'z') (hB : letter ≠ 'B') :
    kind.constructs = [] := by
  unfold assertionOfLetter? at h
  split_ifs at h <;> cases h <;> rfl

/-- **An escape sequence** is a construct if its first letters say so, and is read to
its end otherwise. -/
theorem escape_inStep {c behind : Cursor} {rest : List Char} {e : Escape}
    (hc : c.At ('\\' :: rest)) (h : escape c = .ok (e, behind)) :
    InStep e.constructs (escapedConstruct? rest) (behind.At (rest.drop (escapeLength rest))) := by
  unfold escape at h
  simp only [hc.advance.char?_eq] at h
  split at h
  · cases h
  next letter hletter =>
  obtain ⟨more, rfl⟩ := List.head?_eq_some_iff.1 hletter
  by_cases hdigit : letter.isDigit = true
  · rw [if_pos hdigit] at h
    cases h
  rw [if_neg hdigit] at h
  by_cases hhex : letter = 'x' ∨ letter = 'u' ∨ letter = 'U'
  · rw [if_pos hhex] at h
    exact hexEscape_inStep hhex hc.advance h
  rw [if_neg hhex] at h
  by_cases hproperty : letter = 'p' ∨ letter = 'P'
  · rw [if_pos hproperty] at h
    refine Or.inr ⟨propertyEscape_constructs h, ?_⟩
    rcases hproperty with rfl | rfl <;> exact Option.some_ne_none _
  rw [if_neg hproperty] at h
  by_cases hboundary : letter = 'b'
  · rw [if_pos hboundary] at h
    subst hboundary
    exact Or.inr ⟨boundaryEscape_constructs h, Option.some_ne_none _⟩
  rw [if_neg hboundary] at h
  by_cases hz : letter = 'z'
  · subst hz
    cases h
    exact Or.inr ⟨List.cons_ne_nil _ _, Option.some_ne_none _⟩
  by_cases hB : letter = 'B'
  · subst hB
    cases h
    exact Or.inr ⟨List.cons_ne_nil _ _, Option.some_ne_none _⟩
  -- What is left takes one letter and is no construct.
  have hhex' : letter ∉ ['x', 'u', 'U'] := by simpa using hhex
  have hnone : escapedConstruct? (letter :: more) = none := by
    refine escapedConstruct?_eq_none ?_ fun h => absurd h hhex'
    rw [not_or] at hproperty
    simp [hproperty, hboundary, hz, hB]
  have hbehind : c.advance.advance.At more := hc.advance.advance
  rw [escapeLength_of_not_mem hhex', List.drop_succ_cons, List.drop_zero]
  left
  split at h
  · cases h
    exact ⟨rfl, hnone, hbehind⟩
  · next kind hkind _ =>
    cases h
    exact ⟨assertionOfLetter?_constructs hkind hz hB, hnone, hbehind⟩
  · cases h
    exact ⟨rfl, hnone, hbehind⟩
  · split_ifs at h
    · cases h
      exact ⟨rfl, hnone, hbehind⟩
    · cases h
      exact ⟨rfl, hnone, hbehind⟩

end ColumnChecks.Pattern
