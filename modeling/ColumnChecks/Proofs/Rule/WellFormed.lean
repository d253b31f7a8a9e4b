import ColumnChecks.Proofs.Rule.Checks
import ColumnChecks.Proofs.Rule.Reading
import ColumnChecks.Proofs.Rule.Unsupported

/-!
# Predicates that can be written down

Not every expression has a text that a database would take: a connective of no operands is
written as nothing at all, a list of no values as a pair of parentheses, and a double that is
not finite as a word. What is asked of one expression, apart from the expressions inside it, is
`ColumnChecks.Sql.Expr.IsProper`; it also says that a column is one of some columns, and that
remainders are by two.

Since every predicate of a valid rule is put together from tests of its columns
(`ColumnChecks.RuleSpec.isCheck_predicate`), all of its parts are proper. With the dialects that
cannot match a pattern, which are the only reason for a rule to have no predicate, this is
`ColumnChecks.Rule.predicate_proper`.
-/

namespace ColumnChecks

open Sql

/-! ### Parts of expressions -/

mutual

/-- The parts of an expression: itself, and those of its operands. -/
def Sql.Expr.parts : Expr → List Expr
  | .column name => [.column name]
  | .literal value => [.literal value]
  | .compare left op right => .compare left op right :: (left.parts ++ right.parts)
  | .modulo e divisor => .modulo e divisor :: e.parts
  | .charLength e => .charLength e :: e.parts
  | .between e low high => .between e low high :: e.parts
  | .inList e values => .inList e values :: e.parts
  | .regexMatch e pattern negated caseInsensitive =>
    .regexMatch e pattern negated caseInsensitive :: e.parts
  | .isNull e negated => .isNull e negated :: e.parts
  | .coalesce e fallback => .coalesce e fallback :: e.parts
  | .not e => .not e :: e.parts
  | .and es => .and es :: Expr.operandParts es
  | .or es => .or es :: Expr.operandParts es

/-- The parts of some expressions. -/
def Sql.Expr.operandParts : List Expr → List Expr
  | [] => []
  | e :: es => e.parts ++ Expr.operandParts es

end

namespace Sql.Expr

theorem operandParts_eq (es : List Expr) : operandParts es = es.flatMap parts := by
  induction es with
  | nil => rfl
  | cons e es ih => rw [operandParts, ih, List.flatMap_cons]

/-- **An expression is proper**, as far as it can be seen without looking into its operands. -/
def IsProper (columns : List String) : Expr → Prop
  | .column name => name ∈ columns
  | .literal value => value.isFinite = true
  | .modulo _ divisor => divisor = 2
  | .between _ low high => low.isFinite = true ∧ high.isFinite = true
  | .inList _ values => values ≠ [] ∧ ∀ v ∈ values, v.isFinite = true
  | .and es | .or es => 2 ≤ es.length
  | .compare _ _ _ | .charLength _ | .regexMatch _ _ _ _ | .isNull _ _ | .coalesce _ _ | .not _ =>
    True

/-- **All parts of a predicate are proper.** -/
theorem IsCheck.isProper_parts {columns : List String} {e : Expr} (h : e.IsCheck columns) :
    ∀ part ∈ e.parts, part.IsProper columns := by
  induction h with
  | isNull hcolumn negated => simpa [parts, IsProper] using hcolumn
  | compare hcolumn op hfinite => simpa [parts, IsProper] using ⟨hcolumn, hfinite⟩
  | parity hcolumn op => simpa [parts, IsProper, Literal.isFinite] using hcolumn
  | length hcolumn op bound => simpa [parts, IsProper, Literal.isFinite] using hcolumn
  | lengthBetween hcolumn low high => simpa [parts, IsProper, Numeric.isFinite] using hcolumn
  | inList hcolumn hne hfinite => simpa [parts, IsProper] using ⟨⟨hne, hfinite⟩, hcolumn⟩
  | regexMatch hcolumn pattern negated caseInsensitive =>
    simpa [parts, IsProper] using hcolumn
  | untriggered _ ih => simpa [parts, IsProper] using ih
  | and hlength _ ih | or hlength _ ih =>
    rw [parts, operandParts_eq, List.forall_mem_cons]
    refine ⟨hlength, fun part hpart => ?_⟩
    obtain ⟨operand, hoperand, hpart⟩ := List.mem_flatMap.1 hpart
    exact ih operand hoperand part hpart

end Sql.Expr

/-! ### Patterns that cannot be matched -/

/-- A dialect cannot match a format: it has no regular expressions, or none without regard to
case while the format asks for that. -/
def Format.Unmatchable (format : Format) (dialect : Dialect) : Prop :=
  dialect.regexMatch = false ∨
    format.caseInsensitive = true ∧ dialect.caseInsensitiveRegex = false

theorem Format.exists_refusal?_iff {format : Format} {dialect : Dialect} :
    (∃ error, format.refusal? dialect = some error) ↔ format.Unmatchable dialect := by
  rw [refusal?, Unmatchable]
  split_ifs with hregex hcase
  · simp [hregex]
  · simp [hcase]
  · simp [hregex, hcase]

/-- **A rule has no predicate** just if it is about a format that the dialect cannot match.
Otherwise there is one, and all of its parts are proper: no connective is short of operands, no
list is empty, all doubles are finite, remainders are by two, and only the columns of the rule
are mentioned. -/
theorem Rule.predicate_proper [Pattern.SizeTest] (rule : Rule) (dialect : Dialect) :
    ((∃ error, rule.predicate dialect = .error error) ↔
        ∃ format, rule.kind = .format format ∧ format.Unmatchable dialect) ∧
      ((¬∃ format, rule.kind = .format format ∧ format.Unmatchable dialect) →
        ∃ e, rule.predicate dialect = .ok e ∧
          ∀ part ∈ e.parts, part.IsProper rule.spec.columns) := by
  have hrefused : (∃ error, rule.predicate dialect = .error error) ↔
      ∃ format, rule.kind = .format format ∧ format.Unmatchable dialect := by
    simp only [Rule.predicate_eq_error_iff, ← Format.exists_refusal?_iff]
    constructor
    · rintro ⟨error, format, hkind, hrefusal⟩
      exact ⟨format, hkind, error, hrefusal⟩
    · rintro ⟨format, hkind, error, hrefusal⟩
      exact ⟨error, format, hkind, hrefusal⟩
  refine ⟨hrefused, fun hmatched => ?_⟩
  cases hpredicate : rule.predicate dialect with
  | error error => exact absurd (hrefused.1 ⟨error, hpredicate⟩) hmatched
  | ok e => exact ⟨e, rfl, (RuleSpec.isCheck_predicate rule.valid hpredicate).isProper_parts⟩

/-- The policy on returns has a predicate about the columns of its trigger and its target. -/
theorem returnsPolicy_proper :
    (¬∃ format, returnsPolicy.kind = .format format ∧ format.Unmatchable .postgres) ∧
      ∃ e, returnsPolicy.predicate .postgres = .ok e ∧ ∀ part ∈ e.parts,
        part.IsProper ["returned by", "null", "order \"kind\"", "between"] := by
  have hmatched : ¬∃ format, returnsPolicy.kind = .format format ∧ format.Unmatchable .postgres :=
    nofun
  exact ⟨hmatched, (Rule.predicate_proper returnsPolicy .postgres).2 hmatched⟩

end ColumnChecks
