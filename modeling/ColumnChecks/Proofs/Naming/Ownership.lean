import Mathlib.Tactic.Common
import ColumnChecks.Naming

/-!
# Names tell who manages them

A managed constraint is recognised by its name alone: it starts with the prefix
of the naming and an underscore. Full names and cut names are both joined from a
prefix and further parts, so a naming owns every name that it gives
(`ColumnChecks.Namer.owns_name`).
-/

namespace ColumnChecks

namespace Text

/-- Cutting off a beginning that is there. -/
theorem after?_append (before rest : List Char) : after? before (before ++ rest) = some rest := by
  induction before with
  | nil => rfl
  | cons c before ih => simpa [after?] using ih

end Text

namespace Namer

theorem joinParts_cons_cons (first second : List Char) (parts : List (List Char)) :
    joinParts (first :: second :: parts) = first ++ '_' :: joinParts (second :: parts) := by
  unfold joinParts
  rw [List.intercalate_cons_cons, List.append_assoc, List.singleton_append]

/-- A name that is joined from the prefix and more is owned. -/
theorem owns_joinParts (namer : Namer) (second : List Char) (parts : List (List Char)) :
    namer.owns (String.ofList (joinParts (namer.namePrefix :: second :: parts))) = true := by
  unfold owns
  rw [String.toList_ofList, joinParts_cons_cons, Text.after?_append]
  rfl

variable [Pattern.SizeTest]

/-- **A naming owns the names that it gives.** -/
theorem owns_name (namer : Namer) (table : String) (rule : Rule) :
    namer.owns (namer.name table rule) = true := by
  simp only [name]
  split
  · exact owns_joinParts namer _ _
  · exact owns_joinParts namer _ _

end Namer

end ColumnChecks
