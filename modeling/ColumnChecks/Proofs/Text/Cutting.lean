import Mathlib.Data.List.Basic
import Mathlib.Tactic.Common
import ColumnChecks.Text.Blank

/-!
# Texts cut at their marks

A text that is put together from parts with marks between them is taken apart again at the
marks, provided that no part has the mark in it: at the first one
(`ColumnChecks.Text.cutAt?_append`), at the last one
(`ColumnChecks.Text.append_mark_inj`) or at all of them
(`ColumnChecks.Text.pieces_intercalate`).
-/

namespace ColumnChecks

namespace Text

variable {p : Char → Bool} {c : Char} {cs rest : List Char}

/-- A text is cut at the first character of a kind. -/
theorem cutAt?_append (hcs : ∀ d ∈ cs, p d = false) (hc : p c = true) :
    cutAt? p (cs ++ c :: rest) = some (cs, rest) := by
  induction cs with
  | nil => rw [List.nil_append, cutAt?, if_pos hc]
  | cons d cs ih =>
    rw [List.forall_mem_cons] at hcs
    rw [List.cons_append, cutAt?, hcs.1, if_neg Bool.false_ne_true, ih hcs.2]
    rfl

/-- Where there is none of the kind, it is not cut. -/
theorem cutAt?_eq_none (hcs : ∀ d ∈ cs, p d = false) : cutAt? p cs = none := by
  induction cs with
  | nil => rfl
  | cons d cs ih =>
    rw [List.forall_mem_cons] at hcs
    rw [cutAt?, hcs.1, if_neg Bool.false_ne_true, ih hcs.2]
    rfl

/-- **The last mark divides a text**: what stands before it may have the mark, but what stands
behind it has not. -/
theorem append_mark_inj {mark : Char} {before before' behind behind' : List Char}
    (h : mark ∉ behind) (h' : mark ∉ behind') :
    before ++ mark :: behind = before' ++ mark :: behind' ↔
      before = before' ∧ behind = behind' := by
  constructor
  · intro heq
    -- If one of the texts before the mark were longer, the mark would stand behind the other.
    rcases List.append_eq_append_iff.1 heq with ⟨more, hbefore, hbehind⟩ | ⟨more, hbefore, hbehind⟩
    · rcases more with _ | ⟨d, more⟩
      · rw [List.append_nil] at hbefore
        exact ⟨hbefore.symm, (List.cons.inj hbehind).2⟩
      · have hmem : mark ∈ behind := by
          rw [(List.cons.inj hbehind).2]
          exact List.mem_append_right _ List.mem_cons_self
        exact absurd hmem h
    · rcases more with _ | ⟨d, more⟩
      · rw [List.append_nil] at hbefore
        exact ⟨hbefore, (List.cons.inj hbehind).2.symm⟩
      · have hmem : mark ∈ behind' := by
          rw [(List.cons.inj hbehind).2]
          exact List.mem_append_right _ List.mem_cons_self
        exact absurd hmem h'
  · rintro ⟨rfl, rfl⟩
    rfl

theorem beq_eq_false_of_not_mem {mark : Char} (h : mark ∉ cs) : ∀ d ∈ cs, (d == mark) = false := by
  rintro d hd
  exact beq_eq_false_iff_ne.2 fun heq => h (heq ▸ hd)

/-- Without a separator there is one piece. -/
theorem pieces_of_not_mem {sep : Char} (h : sep ∉ cs) : pieces sep cs = [cs] := by
  induction cs with
  | nil => rfl
  | cons d cs ih =>
    rw [List.mem_cons, not_or] at h
    rw [pieces, if_neg fun heq => h.1 heq.symm, ih h.2]

/-- A piece ends at the first separator. -/
theorem pieces_append {sep : Char} (h : sep ∉ cs) :
    pieces sep (cs ++ sep :: rest) = cs :: pieces sep rest := by
  induction cs with
  | nil => rw [List.nil_append, pieces, if_pos rfl]
  | cons d cs ih =>
    rw [List.mem_cons, not_or] at h
    rw [List.cons_append, pieces, if_neg fun heq => h.1 heq.symm, ih h.2]

/-- **Joined pieces come apart again**, but for a text of no pieces, which has one that is
empty. -/
theorem pieces_intercalate {sep : Char} {parts : List (List Char)} (hne : parts ≠ [])
    (h : ∀ part ∈ parts, sep ∉ part) : pieces sep ([sep].intercalate parts) = parts := by
  induction parts with
  | nil => exact absurd rfl hne
  | cons part parts ih =>
    rw [List.forall_mem_cons] at h
    cases parts with
    | nil => rw [List.intercalate_singleton, pieces_of_not_mem h.1]
    | cons next parts =>
      rw [List.intercalate_cons_cons, List.append_assoc, List.singleton_append, pieces_append h.1,
        ih (List.cons_ne_nil _ _) h.2]

end Text

end ColumnChecks
