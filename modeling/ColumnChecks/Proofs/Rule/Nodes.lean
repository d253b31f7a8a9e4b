import ColumnChecks.Proofs.Rule.Shape

/-!
# The matches in a predicate

Only a regular-expression match can fail on a pattern. The predicate of a format rule has
one for each of its columns and no others (`ColumnChecks.Rule.patternNodes_predicate`),
whatever is wrapped around them, and the predicates of the other rules have none
(`ColumnChecks.Rule.patternNodes_eq_nil`).

A match holds the pattern of its rule, with anchors around it where whole texts are to
match (`ColumnChecks.Format.nodePattern`).
-/

namespace ColumnChecks

open Sql

/-! ### Regular-expression matches in expressions -/

mutual

/-- The regular-expression matches in an expression. -/
def Sql.Expr.patternNodes : Expr → List Expr
  | .column _ | .literal _ => []
  | .compare left _ right => left.patternNodes ++ right.patternNodes
  | .regexMatch operand pattern negated caseInsensitive =>
    .regexMatch operand pattern negated caseInsensitive :: operand.patternNodes
  | .modulo e _ | .charLength e | .between e _ _ | .inList e _ | .isNull e _ | .coalesce e _
  | .not e => e.patternNodes
  | .and es | .or es => Expr.operandNodes es

/-- The regular-expression matches in some expressions. -/
def Sql.Expr.operandNodes : List Expr → List Expr
  | [] => []
  | e :: es => e.patternNodes ++ Expr.operandNodes es

end

namespace Sql.Expr

theorem operandNodes_eq (es : List Expr) : operandNodes es = es.flatMap patternNodes := by
  induction es with
  | nil => rfl
  | cons e es ih => rw [operandNodes, ih, List.flatMap_cons]

/-- A conjunction has the matches of its operands, in order. -/
theorem patternNodes_all (es : List Expr) :
    (Expr.all es).patternNodes = es.flatMap patternNodes := by
  match es with
  | [] => rfl
  | [e] => simp [Expr.all]
  | e :: e' :: es => rw [Expr.all, patternNodes, operandNodes_eq]; exact nofun

end Sql.Expr

/-! ### The match of a column -/

/-- The match that a format rule puts into its predicate for a column. -/
def Format.node (format : Format) (column : String) : Expr :=
  match format.mode with
  | .accepts => .regexMatch (.column column) (anchored format.pattern) false format.caseInsensitive
  | .rejects => .regexMatch (.column column) format.pattern true format.caseInsensitive

/-- The pattern that a match of the rule compiles. -/
def Format.nodePattern (format : Format) : String :=
  match format.mode with
  | .accepts => anchored format.pattern
  | .rejects => format.pattern

/-- A match is told by its pattern, whether it is negated, and whether case matters. -/
theorem Format.node_eq (format : Format) (column : String) :
    format.node column = .regexMatch (.column column) format.nodePattern
      (format.mode == .rejects) format.caseInsensitive := by
  unfold Format.node Format.nodePattern
  cases format.mode <;> rfl

/-! ### What a rule asks of a column -/

variable {dialect : Dialect} {e : Expr} {column : String}

/-- What a format rule asks of a column: its match, or blank if that is allowed. -/
theorem RuleSpec.columnExpr_format {spec : RuleSpec} {format : Format}
    (hkind : spec.kind = .format format)
    (h : spec.columnExpr dialect column = .ok (some e)) :
    e = if spec.allowBlank then
        .any [format.node column, .compare (.column column) .eq (.literal blankText)]
      else format.node column := by
  obtain ⟨body, hbody, he⟩ := RuleSpec.columnExpr_eq_ok h
  rw [hkind, RuleKind.columnExpr] at hbody
  obtain ⟨node, hnode, hbody⟩ := exists_of_bind_eq_ok hbody
  cases hbody
  rw [Option.map_some, Format.expr_eq_ok hnode] at he
  exact Option.some.inj he

/-- The tests of the columns have one match each, with blank allowed or not. -/
theorem patternNodes_columnExprs {spec : RuleSpec} {format : Format}
    (hkind : spec.kind = .format format) {columns : List String} {es : List Expr}
    (h : List.Forall₂ (fun column e => spec.columnExpr dialect column = .ok (some e)) columns es) :
    es.flatMap Expr.patternNodes = columns.map format.node := by
  have hnode : ∀ column, (format.node column).patternNodes = [format.node column] := by
    intro column
    unfold Format.node
    cases format.mode <;> rfl
  induction h with
  | nil => rfl
  | cons hbody _ ih =>
    rw [List.flatMap_cons, List.map_cons, ih, RuleSpec.columnExpr_format hkind hbody]
    split_ifs
    · rw [Expr.any, Expr.patternNodes, Expr.operandNodes, hnode]
      · rfl
      · exact nofun
    · rw [hnode]
      rfl

/-- Tests for null match nothing. -/
theorem patternNodes_nullTests (columns : List String) (negated : Bool) :
    (columns.map fun column => Expr.isNull (.column column) negated).flatMap Expr.patternNodes =
      [] := by
  rw [List.flatMap_map, List.flatMap_eq_nil_iff]
  exact fun _ _ => rfl

/-- Only formats put matches into the test of a column. -/
theorem RuleKind.patternNodes_columnExpr {kind : RuleKind} (hkind : ∀ format, kind ≠ .format format)
    (h : kind.columnExpr dialect column = .ok (some e)) : e.patternNodes = [] := by
  rcases kind with range | parity | presence | length | values | format | requirement
  · cases h
    rw [Range.expr, Expr.patternNodes_all]
    obtain ⟨min, max, _, _⟩ := range
    cases min <;> cases max <;> rfl
  · cases h
    rfl
  · cases presence with
    | text =>
      cases h
      rfl
    | nonText => cases h
  · cases h
    obtain ⟨min, max⟩ := length
    cases min <;> cases max <;> rfl
  · cases h
    rfl
  · exact absurd rfl (hkind format)
  · cases h

/-- Allowing blank puts in none. -/
theorem RuleSpec.patternNodes_columnExpr {spec : RuleSpec}
    (hkind : ∀ format, spec.kind ≠ .format format)
    (h : spec.columnExpr dialect column = .ok (some e)) : e.patternNodes = [] := by
  obtain ⟨body, hbody, he⟩ := RuleSpec.columnExpr_eq_ok h
  obtain ⟨body, rfl, rfl⟩ := Option.map_eq_some_iff.1 he.symm
  have hnone := RuleKind.patternNodes_columnExpr hkind hbody
  split_ifs
  · rw [Expr.any, Expr.patternNodes, Expr.operandNodes, hnone]
    · rfl
    · exact nofun
  · exact hnone

theorem RuleSpec.patternNodes_columnExprs {spec : RuleSpec}
    (hkind : ∀ format, spec.kind ≠ .format format) {columns : List String} {es : List Expr}
    (h : List.Forall₂ (fun column e => spec.columnExpr dialect column = .ok (some e)) columns es) :
    es.flatMap Expr.patternNodes = [] := by
  induction h with
  | nil => rfl
  | cons hbody _ ih =>
    rw [List.flatMap_cons, RuleSpec.patternNodes_columnExpr hkind hbody, ih, List.append_nil]

/-- Conditional rules compare, and match nothing. -/
theorem Requirement.patternNodes_expr (requirement : Requirement) (target : List String) :
    (requirement.expr target).patternNodes = [] := by
  have hwhen : (requirement.when.map Condition.expr).flatMap Expr.patternNodes = [] := by
    rw [List.flatMap_map, List.flatMap_eq_nil_iff]
    rintro (_ | _ | _ | _) - <;> rfl
  have hrequired : (target.flatMap (requiredExprs requirement.rejectBlank)).flatMap
      Expr.patternNodes = [] := by
    rw [List.flatMap_assoc, List.flatMap_eq_nil_iff]
    intro column _
    unfold requiredExprs
    split_ifs <;> rfl
  simp only [Requirement.expr, Expr.patternNodes, Expr.operandNodes, Expr.patternNodes_all, hwhen,
    hrequired, List.append_nil]

/-! ### Predicates -/

variable [Pattern.SizeTest] {rule : Rule} {format : Format}

/-- **The predicate of a format rule** from its columns. -/
theorem Rule.predicate_format (hkind : rule.spec.kind = .format format)
    (h : rule.predicate dialect = .ok e) :
    ∃ es, List.Forall₂ (fun column e => rule.spec.columnExpr dialect column = .ok (some e))
        rule.spec.target es ∧
      e = if rule.spec.allowNull then .or [.all es, .all (isNulls rule.spec.target)]
        else .all (notNulls rule.spec.target ++ [.all es]) := by
  obtain ⟨requirement, hrequirement, -⟩ | ⟨hpresence, -⟩ | ⟨-, hes⟩ :=
    RuleSpec.predicate_cases h rule.valid
  · rw [hkind] at hrequirement
    cases hrequirement
  · rw [hkind] at hpresence
    cases hpresence
  · exact hes

/-- **A format rule matches each of its columns once.** -/
theorem Rule.patternNodes_predicate (hkind : rule.spec.kind = .format format)
    (h : rule.predicate dialect = .ok e) : e.patternNodes = rule.spec.target.map format.node := by
  obtain ⟨es, hes, rfl⟩ := Rule.predicate_format hkind h
  have hnodes := patternNodes_columnExprs hkind hes
  split_ifs
  · rw [Expr.patternNodes, Expr.operandNodes_eq, List.flatMap_cons, List.flatMap_singleton,
      Expr.patternNodes_all, Expr.patternNodes_all, hnodes, isNulls, patternNodes_nullTests,
      List.append_nil]
  · rw [Expr.patternNodes_all, List.flatMap_append, List.flatMap_singleton, notNulls,
      patternNodes_nullTests, Expr.patternNodes_all, hnodes, List.nil_append]

/-- **The predicates of the other rules have no matches.** -/
theorem Rule.patternNodes_eq_nil (hkind : ∀ format, rule.spec.kind ≠ .format format)
    (h : rule.predicate dialect = .ok e) : e.patternNodes = [] := by
  obtain ⟨requirement, -, rfl⟩ | ⟨-, -, rfl⟩ | ⟨-, es, hes, rfl⟩ :=
    RuleSpec.predicate_cases h rule.valid
  · exact requirement.patternNodes_expr _
  · rw [Expr.patternNodes_all, notNulls, patternNodes_nullTests]
  · have hnone := RuleSpec.patternNodes_columnExprs hkind hes
    split_ifs
    · simp only [Expr.patternNodes, Expr.operandNodes, Expr.patternNodes_all, isNulls,
        patternNodes_nullTests, hnone, List.append_nil]
    · simp only [Expr.patternNodes_all, List.flatMap_append, List.flatMap_singleton, notNulls,
        patternNodes_nullTests, hnone, List.append_nil]

end ColumnChecks
