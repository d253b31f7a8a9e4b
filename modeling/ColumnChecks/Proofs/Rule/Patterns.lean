import ColumnChecks.Rule.Validity
import ColumnChecks.Proofs.Pattern.Gate
import ColumnChecks.Proofs.Pattern.Following
import ColumnChecks.Proofs.Pattern.Ordered

/-!
# Patterns that are accepted

A pattern is accepted if it compiles and the quick scan of its text finds no
construct that the database's engine does not share. The quick scan takes a bracket
with a colon behind it for a named class wherever it stands, and passes to the next
`:]`. The reader does so only where an item may start, and only for the names there
are; elsewhere it reads an ordinary character or a bracket inside the brackets. **This
is the one way for a construct to get past the quick scan**
(`ColumnChecks.constructs_of_patternFault?_eq_none`).
-/

namespace ColumnChecks

open Pattern

section

variable [Pattern.SizeTest]

/-- An accepted pattern can be read, and the quick scan of it finds nothing. -/
theorem exists_parse_of_patternFault?_eq_none {pattern : String}
    (h : patternFault? pattern = none) :
    (∃ tree, Tree.parse pattern.toList = .ok tree) ∧ unshared? pattern = none := by
  unfold patternFault? at h
  split at h
  · cases h
  split at h
  · cases h
  split at h
  · cases h
  · next found hcompile =>
    obtain ⟨hexpression, -⟩ := compile_eq_ok_iff.1 hcompile
    obtain ⟨tree, hparse, -⟩ := exists_of_bind_eq_ok hexpression
    exact ⟨⟨tree, hparse⟩, Option.map_eq_none_iff.1 h⟩

/-- **The constructs of an accepted pattern.** There are none just if the scan that
follows brackets the way they are read finds none. If there are some, then the first
place where this scan meets a construct, or a range that ends in a bracket, is a bracket
inside a bracket expression: up to there the pattern has only what both engines share. -/
theorem constructs_of_patternFault?_eq_none {pattern : String} (h : patternFault? pattern = none) :
    ∃ tree, Tree.parse pattern.toList = .ok tree ∧
      (tree.constructs = [] ↔ firstConstruct? true false pattern.toList = none) ∧
      (tree.constructs ≠ [] → firstConstruct? false false pattern.toList = some .nestedClass) := by
  obtain ⟨⟨tree, hparse⟩, hscan⟩ := exists_parse_of_patternFault?_eq_none h
  have hiff := Tree.constructs_parse hparse
  refine ⟨tree, hparse, hiff, fun hne => ?_⟩
  obtain hnone | hnested := nestedOnly_of_constructFrom? (agrees_outside _) hscan
  · exact absurd (hiff.2 (firstConstruct?_true_eq_none hnone)) hne
  · exact hnested

end

theorem repeatedGroup_constructs :
    patternFault? "(?:ab)+|c*?" = none ∧
      ∃ tree, Tree.parse "(?:ab)+|c*?".toList = .ok tree ∧
        (tree.constructs = [] ↔ firstConstruct? true false "(?:ab)+|c*?".toList = none) ∧
        (tree.constructs ≠ [] →
          firstConstruct? false false "(?:ab)+|c*?".toList = some .nestedClass) := by
  have haccepted : patternFault? "(?:ab)+|c*?" = none := by decide +kernel
  exact ⟨haccepted, constructs_of_patternFault?_eq_none haccepted⟩

/-- No class has this name, so the reader opens a bracket inside the brackets. -/
example : unshared? "[[:foo:]]" = none ∧
    (Tree.parse "[[:foo:]]".toList).map Tree.constructs = .ok [.nestedClass] := by
  decide +kernel

/-- A bracket that ends a range starts no class, and the flags behind it are set. -/
example : unshared? "[A-[:x:](?i)]" = none ∧
    (Tree.parse "[A-[:x:](?i)]".toList).map Tree.constructs = .ok [.inlineFlags] := by
  decide +kernel

end ColumnChecks
