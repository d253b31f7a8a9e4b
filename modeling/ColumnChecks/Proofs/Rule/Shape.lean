import Mathlib.Tactic.Common
import ColumnChecks.Rule.Predicate
import ColumnChecks.Proofs.Results
import ColumnChecks.Proofs.Rule.Validity

/-!
# The shape of a predicate

A predicate is put together by a loop over the columns, and there are three ways
it can end (`ColumnChecks.RuleSpec.predicate_cases`): a conditional rule becomes an
implication, presence that is not about texts becomes a bare list of `IS NOT
NULL`, and every other rule has one expression for each of its columns. The loop
is opened here and nowhere else.
-/

namespace ColumnChecks

open Sql

/-! ### One column -/

theorem Format.expr_eq_ok {format : Format} {column : String} {dialect : Dialect} {e : Expr}
    (h : format.expr column dialect = .ok e) :
    e = match format.mode with
      | .accepts =>
        .regexMatch (.column column) (anchored format.pattern) false format.caseInsensitive
      | .rejects => .regexMatch (.column column) format.pattern true format.caseInsensitive := by
  unfold Format.expr at h
  split_ifs at h
  cases hm : format.mode <;> simp only [hm] at h <;> cases h <;> rfl

/-- The expression of a kind stands in that of the rule, alone or beside blank. -/
theorem RuleSpec.columnExpr_eq_ok {spec : RuleSpec} {dialect : Dialect} {column : String}
    {found : Option Expr} (h : spec.columnExpr dialect column = .ok found) :
    ∃ body, spec.kind.columnExpr dialect column = .ok body ∧
      found = body.map fun body =>
        if spec.allowBlank then
          .any [body, .compare (.column column) .eq (.literal blankText)]
        else body := by
  unfold RuleSpec.columnExpr at h
  obtain ⟨body, hb, h⟩ := exists_of_bind_eq_ok h
  cases h
  exact ⟨body, hb, rfl⟩

/-- Only presence that is not about texts asks nothing of a value. -/
theorem RuleKind.columnExpr_eq_none {kind : RuleKind} {dialect : Dialect} {column : String}
    (h : kind.columnExpr dialect column = .ok none) : kind = .presence .nonText := by
  rcases kind with r | p | t | l | vs | f | r
  · cases h
  · cases h
  · cases t with
    | text => cases h
    | nonText => rfl
  · cases h
  · cases h
  · rw [RuleKind.columnExpr] at h
    obtain ⟨e, -, h⟩ := exists_of_bind_eq_ok h
    cases h
  · cases h

theorem RuleSpec.columnExpr_eq_none_iff {spec : RuleSpec} {dialect : Dialect} {column : String}
    {found : Option Expr} (h : spec.columnExpr dialect column = .ok found) :
    found = none ↔ spec.kind = .presence .nonText := by
  obtain ⟨body, hbody, rfl⟩ := RuleSpec.columnExpr_eq_ok h
  rw [Option.map_eq_none_iff]
  constructor
  · rintro rfl
    exact RuleKind.columnExpr_eq_none hbody
  · intro hkind
    rw [hkind, RuleKind.columnExpr] at hbody
    cases hbody
    rfl

/-! ### All columns -/

/-- The columns have a value. -/
def notNulls (target : List String) : List Expr :=
  target.map fun column => .isNull (.column column) true

/-- The columns have no value. -/
def isNulls (target : List String) : List Expr :=
  target.map fun column => .isNull (.column column) false

/-- Expressions of columns none of which is missing. -/
theorem forall₂_filterMap_id {R : String → Option Expr → Prop} {columns : List String}
    {found : List (Option Expr)} (h : List.Forall₂ R columns found)
    (hsome : ∀ column f, R column f → f ≠ none) :
    List.Forall₂ (fun column e => R column (some e)) columns (found.filterMap id) := by
  induction h with
  | nil => exact .nil
  | @cons column f columns found hf _ ih =>
    cases f with
    | none => exact absurd rfl (hsome column none hf)
    | some e => exact .cons hf ih

theorem filterMap_id_eq_nil {R : String → Option Expr → Prop} {columns : List String}
    {found : List (Option Expr)} (h : List.Forall₂ R columns found)
    (hnone : ∀ column f, R column f → f = none) : found.filterMap id = [] := by
  induction h with
  | nil => rfl
  | @cons column f columns found hf _ ih =>
    rw [hnone column f hf]
    exact ih

/-- The predicate of a rule that is not conditional, once every column has been
looked at. -/
theorem RuleSpec.exists_columnExprs {spec : RuleSpec} {dialect : Dialect} {e : Expr}
    (h : spec.predicate dialect = .ok e)
    (hkind : ∀ requirement, spec.kind ≠ .conditional requirement) :
    ∃ found bodies, List.Forall₂ (fun column f => spec.columnExpr dialect column = .ok f)
        spec.target found ∧ found.filterMap id = bodies ∧
      if spec.allowNull then bodies ≠ [] ∧ e = .or [.all bodies, .all (isNulls spec.target)]
      else e = .all (notNulls spec.target ++ if bodies = [] then [] else [.all bodies]) := by
  unfold RuleSpec.predicate at h
  split at h
  · next requirement hk => exact absurd hk (hkind requirement)
  · obtain ⟨found, hfound, h⟩ := exists_of_bind_eq_ok h
    refine ⟨found, _, forall₂_of_mapM_eq_ok hfound, rfl, ?_⟩
    simp only [List.isEmpty_iff] at h
    split_ifs at h ⊢ with hnull hempty hempty
    · cases h
      exact ⟨hempty, rfl⟩
    · cases h
      rfl
    · cases h
      rfl

variable [Pattern.SizeTest]

/-- **The three shapes of a predicate.** -/
theorem RuleSpec.predicate_cases {spec : RuleSpec} {dialect : Dialect} {e : Expr}
    (h : spec.predicate dialect = .ok e) (hvalid : spec.fault? = none) :
    (∃ requirement, spec.kind = .conditional requirement ∧ e = requirement.expr spec.target) ∨
      (spec.kind = .presence .nonText ∧ spec.allowNull = false ∧ e = .all (notNulls spec.target)) ∨
      (∀ requirement, spec.kind ≠ .conditional requirement) ∧
        ∃ es, List.Forall₂ (fun column e => spec.columnExpr dialect column = .ok (some e))
            spec.target es ∧
          e = if spec.allowNull then .or [.all es, .all (isNulls spec.target)]
            else .all (notNulls spec.target ++ [.all es]) := by
  by_cases hcond : ∃ requirement, spec.kind = .conditional requirement
  · obtain ⟨requirement, hk⟩ := hcond
    refine Or.inl ⟨requirement, hk, ?_⟩
    rw [RuleSpec.predicate, hk] at h
    cases h
    rfl
  have hkind : ∀ requirement, spec.kind ≠ .conditional requirement := not_exists.1 hcond
  obtain ⟨found, bodies, hfound, hbodies, he⟩ := RuleSpec.exists_columnExprs h hkind
  right
  by_cases hpresence : spec.kind = .presence .nonText
  · have hnil : bodies = [] := hbodies ▸ filterMap_id_eq_nil hfound fun column f hf =>
      (RuleSpec.columnExpr_eq_none_iff hf).2 hpresence
    cases hnull : spec.allowNull with
    | true => simp [hnull, hnil] at he
    | false =>
      refine Or.inl ⟨hpresence, rfl, ?_⟩
      simpa [hnull, hnil] using he
  · have hall : List.Forall₂ (fun column e => spec.columnExpr dialect column = .ok (some e))
        spec.target bodies := hbodies ▸ forall₂_filterMap_id hfound fun column f hf hnone =>
      hpresence ((RuleSpec.columnExpr_eq_none_iff hf).1 hnone)
    refine Or.inr ⟨hkind, bodies, hall, ?_⟩
    cases hnull : spec.allowNull with
    | true =>
      rw [if_pos hnull] at he
      exact he.2
    | false =>
      -- A target is never empty, so that there is something beside the `IS NOT NULL`s.
      have htarget : spec.target ≠ [] :=
        (targetFault?_eq_none_iff.1 (RuleSpec.fault?_eq_none_iff.1 hvalid).1).1
      have hne : bodies ≠ [] := by
        rintro rfl
        exact htarget (List.forall₂_nil_right_iff.1 hall)
      simpa [hnull, hne] using he

end ColumnChecks
