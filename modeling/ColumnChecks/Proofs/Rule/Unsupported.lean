import ColumnChecks.Proofs.Rule.Patterns
import ColumnChecks.Proofs.Rule.Shape

/-!
# Rules that a dialect cannot express

Making a predicate can fail in five ways, but three of them are for rules that are
not valid. **A valid rule has no predicate just if it is about a pattern and the
dialect cannot match it** (`ColumnChecks.Rule.predicate_eq_error_iff`).
-/

namespace ColumnChecks

open Sql

/-- Why a dialect cannot match a pattern. -/
def Format.refusal? (format : Format) (dialect : Dialect) : Option UnsupportedRule :=
  if dialect.regexMatch = false then some (.noRegexMatch dialect.name)
  else if format.caseInsensitive = true ∧ dialect.caseInsensitiveRegex = false then
    some (.noCaseInsensitiveMatch dialect.name)
  else none

theorem RuleSpec.columnExpr_eq_error {spec : RuleSpec} {dialect : Dialect} {column : String}
    {error : UnsupportedRule} (h : spec.columnExpr dialect column = .error error)
    (hkind : ∀ requirement, spec.kind ≠ .conditional requirement) :
    ∃ format, spec.kind = .format format ∧ format.expr column dialect = .error error := by
  rcases bind_eq_error h with h | ⟨body, -, h⟩
  · cases hk : spec.kind with
    | range bounds => rw [hk] at h; cases h
    | parity parity => rw [hk] at h; cases h
    | presence columnType => rw [hk] at h; cases columnType <;> cases h
    | length bounds => rw [hk] at h; cases h
    | inclusion values => rw [hk] at h; cases h
    | format format =>
      rw [hk] at h
      rcases bind_eq_error h with h | ⟨e, -, h⟩
      · exact ⟨format, rfl, h⟩
      · cases h
    | conditional requirement => exact absurd hk (hkind requirement)
  · cases h

variable [Pattern.SizeTest]

theorem Format.expr_eq_error_iff {format : Format} {column : String} {dialect : Dialect}
    {error : UnsupportedRule} (hpattern : patternFault? format.pattern = none) :
    format.expr column dialect = .error error ↔ format.refusal? dialect = some error := by
  have hnonempty : format.pattern.isEmpty = false := by
    by_contra hempty
    rw [Bool.not_eq_false] at hempty
    rw [patternFault?, if_pos hempty] at hpattern
    cases hpattern
  rw [expr, refusal?, hnonempty, if_neg Bool.false_ne_true]
  simp only [Bool.not_eq_true', Bool.and_eq_true]
  split_ifs
  · simp
  · simp
  · cases format.mode <;> simp

variable {rule : Rule} {dialect : Dialect} {error : UnsupportedRule}

/-- What a valid rule asks of a value is there, unless nothing is asked at all. -/
theorem Rule.columnExprs_ne_nil {found : List (Option Expr)}
    (hfound : List.Forall₂ (fun column f => rule.spec.columnExpr dialect column = .ok f)
      rule.spec.target found) (hnull : rule.spec.allowNull = true) :
    found.filterMap id ≠ [] := by
  obtain ⟨htarget, -, -, hkind⟩ := RuleSpec.fault?_eq_none_iff.1 rule.valid
  have hpresence : rule.spec.kind ≠ .presence .nonText := by
    intro hk
    rw [hk, RuleKind.fault?, if_pos ⟨rfl, hnull⟩] at hkind
    cases hkind
  have hall := forall₂_filterMap_id hfound fun column f hf hnone =>
    hpresence ((RuleSpec.columnExpr_eq_none_iff hf).1 hnone)
  intro hnil
  rw [hnil, List.forall₂_nil_right_iff] at hall
  exact (targetFault?_eq_none_iff.1 htarget).1 hall

/-- **A valid rule has no predicate** just if it has a pattern that the dialect cannot
match, and then this is the error. -/
theorem Rule.predicate_eq_error_iff :
    rule.predicate dialect = .error error ↔
      ∃ format, rule.spec.kind = .format format ∧ format.refusal? dialect = some error := by
  obtain ⟨htarget, -, -, hvalid⟩ := RuleSpec.fault?_eq_none_iff.1 rule.valid
  have hpattern : ∀ format, rule.spec.kind = .format format →
      patternFault? format.pattern = none := by
    intro format hk
    rwa [hk] at hvalid
  unfold Rule.predicate RuleSpec.predicate
  constructor
  · intro h
    split at h
    · cases h
    · next hkind =>
      rcases bind_eq_error h with h | ⟨found, hfound, h⟩
      · obtain ⟨column, -, h⟩ := exists_of_mapM_eq_error h
        obtain ⟨format, hk, h⟩ := RuleSpec.columnExpr_eq_error h hkind
        exact ⟨format, hk, (Format.expr_eq_error_iff (hpattern format hk)).1 h⟩
      · simp only at h
        split_ifs at h with hnull hempty
        exact absurd (List.isEmpty_iff.1 hempty)
          (Rule.columnExprs_ne_nil (forall₂_of_mapM_eq_ok hfound) hnull)
  · rintro ⟨format, hk, hrefusal⟩
    obtain ⟨column, columns, htarget⟩ :=
      List.exists_cons_of_ne_nil (targetFault?_eq_none_iff.1 htarget).1
    have hexpr : format.expr column dialect = .error error :=
      (Format.expr_eq_error_iff (hpattern format hk)).2 hrefusal
    have hcolumn : rule.spec.columnExpr dialect column = .error error := by
      unfold RuleSpec.columnExpr
      rw [hk, RuleKind.columnExpr, hexpr]
      rfl
    simp only [hk]
    rw [htarget, List.mapM_cons, hcolumn]
    rfl

end ColumnChecks
