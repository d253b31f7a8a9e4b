import Mathlib.Data.List.DropRight
import ColumnChecks.Proofs.Text.Cutting

/-!
# Lines that were written

A text is written line by line, each line with a line feed behind it or with a carriage
return and a line feed, and the last one perhaps with nothing
(`ColumnChecks.Text.HasLines`). Reading the lines of the text gives them back, but for
the blanks at their ends (`ColumnChecks.Text.HasLines.forall₂_lines`): of a line that itself
ends with a carriage return, reading takes that one for part of the ending.

Whoever trims the lines does not see the difference. What a trimmed line is, is settled
by its parts: blanks around it are gone (`ColumnChecks.Text.trim_pad`), and of two parts
the first stays whole if it begins and ends with other characters
(`ColumnChecks.Text.trim_append`).
-/

namespace ColumnChecks

namespace Text

variable {before cs behind rest line : List Char}

/-! ### What trimming leaves -/

/-- A text of nothing but blanks, or of nothing at all. -/
def AllBlank (cs : List Char) : Prop := ∀ c ∈ cs, isBlank c = true

/-- A text that neither begins nor ends with a blank. -/
def Trimmed (cs : List Char) : Prop :=
  (∀ c ∈ cs.head?, isBlank c = false) ∧ ∀ c ∈ cs.getLast?, isBlank c = false

theorem forall_not_isBlank (h : cs.any isBlank = false) : ∀ c ∈ cs, isBlank c = false :=
  fun c hc => Bool.eq_false_iff.2 (List.any_eq_false.1 h c hc)

theorem Trimmed.of_forall (h : ∀ c ∈ cs, isBlank c = false) : Trimmed cs :=
  ⟨fun c hc => h c (List.mem_of_mem_head? hc), fun c hc => h c (List.mem_of_mem_getLast? hc)⟩

theorem trimStart_eq_self (h : ∀ c ∈ cs.head?, isBlank c = false) : trimStart cs = cs := by
  cases cs with
  | nil => rfl
  | cons c cs =>
    exact List.dropWhile_cons_of_neg (Bool.eq_false_iff.1 (h c rfl))

theorem trimEnd_eq_self (h : ∀ c ∈ cs.getLast?, isBlank c = false) : trimEnd cs = cs :=
  List.rdropWhile_eq_self_iff.2 fun hne =>
    Bool.eq_false_iff.1 (h _ (List.getLast?_eq_some_getLast hne))

theorem trim_eq_nil (h : AllBlank cs) : trim cs = [] := by
  rw [trim, trimStart, List.dropWhile_eq_nil_iff.2 h]
  rfl

/-- What stands before a text is trimmed away if it is blank. -/
theorem trim_before (hbefore : AllBlank before) : trim (before ++ cs) = trim cs := by
  rw [trim, trimStart, List.dropWhile_append_of_pos hbefore]
  rfl

theorem trimEnd_behind (hbehind : AllBlank behind) : trimEnd (cs ++ behind) = trimEnd cs := by
  rw [trimEnd, List.reverse_append,
    List.dropWhile_append_of_pos fun c hc => hbehind c (List.mem_reverse.1 hc)]
  rfl

/-- What stands behind a text is trimmed away if it is blank. -/
theorem trim_behind (hbehind : AllBlank behind) : trim (cs ++ behind) = trim cs := by
  rw [trim, trimStart, List.dropWhile_append]
  split_ifs with hcs
  · rw [← trimStart, ← trim, trim_eq_nil hbehind, trim, trimStart, List.isEmpty_iff.1 hcs]
    rfl
  · exact trimEnd_behind hbehind

/-- **Blanks around a text are trimmed away.** -/
theorem trim_pad (hbefore : AllBlank before) (hbehind : AllBlank behind) :
    trim (before ++ cs ++ behind) = trim cs := by
  rw [trim_behind hbehind, trim_before hbefore]

theorem trim_eq_of_trimmed (h : Trimmed cs) : trim cs = cs := by
  rw [trim, trimStart_eq_self h.1, trimEnd_eq_self h.2]

/-- **A beginning that is trimmed stays whole**, and the rest loses the blanks at its end. -/
theorem trim_append (hne : cs ≠ []) (h : Trimmed cs) : trim (cs ++ rest) = cs ++ trimEnd rest := by
  have hhead : ∀ c ∈ (cs ++ rest).head?, isBlank c = false := by
    rw [List.head?_append_of_ne_nil cs hne]
    exact h.1
  rw [trim, trimStart_eq_self hhead, trimEnd, List.reverse_append, List.dropWhile_append]
  -- If the rest is blank, trimming goes on to the first part, and stops at its last character.
  split_ifs with hrest
  · rw [← trimEnd, trimEnd_eq_self h.2, trimEnd, List.isEmpty_iff.1 hrest, List.reverse_nil,
      List.append_nil]
  · rw [List.reverse_append, List.reverse_reverse]
    rfl

/-- What is left of a text at its end is a beginning of it. -/
theorem trimEnd_prefix (cs : List Char) : trimEnd cs <+: cs := List.rdropWhile_prefix isBlank cs

/-! ### Lines and their endings -/

/-- **The lines that a text is written of.** A line has no line feed, and what is not
empty may stand at the end without an ending. -/
inductive HasLines : List Char → List (List Char) → Prop where
  | nil : HasLines [] []
  | unended {line : List Char} (hne : line ≠ []) (hline : '\n' ∉ line) : HasLines line [line]
  | lf {line rest : List Char} {lines : List (List Char)} (hline : '\n' ∉ line)
      (h : HasLines rest lines) : HasLines (line ++ '\n' :: rest) (line :: lines)
  | crlf {line rest : List Char} {lines : List (List Char)} (hline : '\n' ∉ line)
      (h : HasLines rest lines) : HasLines (line ++ '\r' :: '\n' :: rest) (line :: lines)

theorem pieces_ne_nil (sep : Char) (cs : List Char) : pieces sep cs ≠ [] := by
  fun_induction pieces sep cs <;> simp

/-- A line is read off the text that begins with it. -/
theorem lines_append (hline : '\n' ∉ line) :
    lines (line ++ '\n' :: rest) = dropReturn line :: lines rest := by
  rw [lines, pieces_append hline, lines]
  cases hpieces : pieces '\n' rest with
  | nil => exact absurd hpieces (pieces_ne_nil '\n' rest)
  | cons piece more => rfl

/-- A carriage return at the end of a line is a blank like others. -/
theorem trim_dropReturn (line : List Char) : trim (dropReturn line) = trim line := by
  rw [dropReturn]
  split_ifs with hreturn
  · obtain ⟨cs, rfl⟩ := List.getLast?_eq_some_iff.1 hreturn
    have hblank : AllBlank ['\r'] := fun c hc => by
      rw [List.mem_singleton.1 hc]
      decide
    rw [List.dropLast_concat, trim_behind hblank]
  · rfl

/-- **The lines that are read are those that were written**, but for blanks at their
ends. -/
theorem HasLines.forall₂_lines {text : List Char} {written : List (List Char)}
    (h : HasLines text written) :
    List.Forall₂ (fun found line => trim found = trim line) (lines text) written := by
  induction h with
  | nil => exact .nil
  | @unended line hne hline =>
    rw [lines, pieces_of_not_mem hline, linesOfPieces,
      if_neg fun hempty => hne (List.isEmpty_iff.1 hempty)]
    exact .cons rfl .nil
  | lf hline _ ih =>
    rw [lines_append hline]
    exact .cons (trim_dropReturn _) ih
  | @crlf line rest written hline _ ih =>
    -- Up to the line feed, the carriage return is one more character of the line.
    have hline' : '\n' ∉ line ++ ['\r'] := by simpa using hline
    have hdrop : dropReturn (line ++ ['\r']) = line := by
      rw [dropReturn, List.getLast?_concat, if_pos rfl, List.dropLast_concat]
    rw [List.append_cons, lines_append hline', hdrop]
    exact .cons rfl ih

end Text

end ColumnChecks
