import Mathlib.Tactic.Common
import ColumnChecks.Plan.Planner
import ColumnChecks.Proofs.Results
import ColumnChecks.Proofs.Naming.Ownership

/-!
# The rules that are asked for

Rules are gathered by the names of their constraints. When that succeeds, the
rule under a name is the first one of the list with that name
(`ColumnChecks.Planner.getElem?_desired`); later ones are the same rule once more.
-/

namespace ColumnChecks

namespace Planner

variable {planner : Planner} {table : Sql.TableRef}

variable [Pattern.SizeTest]

/-- The rule that asks for a name: the first one of that name. -/
def wanted? (planner : Planner) (table : Sql.TableRef) (rules : List Rule) (name : String) :
    Option Rule :=
  rules.find? fun rule => planner.namer.name table.name rule == name

theorem getElem?_addDesired {desired desired' : Desired} {rule : Rule}
    (h : planner.addDesired table desired rule = .ok desired') (name : String) :
    desired'[name]? = desired[name]?.or
      (if planner.namer.name table.name rule = name then some rule else none) := by
  simp only [addDesired] at h
  split at h
  · next hfree =>
    cases h
    simp only [Std.ExtTreeMap.getElem?_insert, Std.LawfulEqCmp.compare_eq_iff_eq]
    split_ifs with hname
    · rw [← hname, hfree, Option.none_or]
    · rw [Option.or_none]
  · next earlier htaken =>
    split_ifs at h with hsame
    cases h
    split_ifs with hname
    · rw [← hname, htaken, Option.some_or]
    · rw [Option.or_none]

theorem getElem?_foldlM_addDesired {rules : List Rule} {start desired : Desired}
    (h : rules.foldlM (planner.addDesired table) start = .ok desired) (name : String) :
    desired[name]? = start[name]?.or (planner.wanted? table rules name) := by
  induction rules generalizing start with
  | nil =>
    cases h
    exact Option.or_none.symm
  | cons rule rules ih =>
    rw [List.foldlM_cons] at h
    obtain ⟨next, hnext, h⟩ := exists_of_bind_eq_ok h
    rw [ih h, getElem?_addDesired hnext, Option.or_assoc, wanted?, wanted?, List.find?_cons]
    by_cases hname : planner.namer.name table.name rule = name
    · simp [hname]
    · simp [beq_eq_false_iff_ne.2 hname, hname]

/-- **The rule under a name is the first one that asks for it.** -/
theorem getElem?_desired {rules : List Rule} {desired : Desired}
    (h : planner.desired table rules = .ok desired) (name : String) :
    desired[name]? = planner.wanted? table rules name := by
  rw [getElem?_foldlM_addDesired h, Std.ExtTreeMap.getElem?_empty, Option.none_or]

theorem exists_getElem?_foldlM {rules : List Rule} {start desired : Desired}
    (h : rules.foldlM (planner.addDesired table) start = .ok desired) {rule : Rule}
    (hmem : rule ∈ rules) :
    ∃ first, desired[planner.namer.name table.name rule]? = some first ∧
      (first = rule ∨ first.same rule = true) := by
  induction rules generalizing start with
  | nil => cases hmem
  | cons other rules ih =>
    rw [List.foldlM_cons] at h
    obtain ⟨next, hnext, hrest⟩ := exists_of_bind_eq_ok h
    rcases List.mem_cons.1 hmem with rfl | hmem
    · -- What an earlier rule has put there is never replaced.
      rw [getElem?_foldlM_addDesired hrest, getElem?_addDesired hnext, if_pos rfl]
      simp only [addDesired] at hnext
      split at hnext
      · next hfree => exact ⟨rule, by rw [hfree]; rfl, Or.inl rfl⟩
      · next earlier htaken =>
        split_ifs at hnext with hsame
        exact ⟨earlier, by rw [htaken]; rfl, Or.inr hsame⟩
    · exact ih hrest hmem

/-- **Every rule of the list is asked for**, by itself or by a rule that is the
same. -/
theorem exists_wanted? {rules : List Rule} {desired : Desired}
    (h : planner.desired table rules = .ok desired) {rule : Rule} (hmem : rule ∈ rules) :
    ∃ first, planner.wanted? table rules (planner.namer.name table.name rule) = some first ∧
      (first = rule ∨ first.same rule = true) := by
  rw [← getElem?_desired h]
  exact exists_getElem?_foldlM h hmem

/-- Only owned names are asked for. -/
theorem owns_of_wanted? {rules : List Rule} {name : String} {rule : Rule}
    (h : planner.wanted? table rules name = some rule) : planner.namer.owns name = true := by
  have hname := List.find?_some h
  rw [beq_iff_eq] at hname
  rw [← hname]
  exact planner.namer.owns_name table.name rule

end Planner

end ColumnChecks
