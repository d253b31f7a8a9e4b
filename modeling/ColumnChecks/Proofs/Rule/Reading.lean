import ColumnChecks.Rule.Builder
import ColumnChecks.Proofs.Rule.Checks
import ColumnChecks.Proofs.Sql.Reading

/-!
# The predicate of a rule is read back from its text

Parentheses are written around conjunctions and disjunctions only, and whether that
is enough depends on what else is ever put together. **Every predicate of a valid
rule is readable** (`ColumnChecks.RuleSpec.readable_predicate`): what stands under a
comparison, a test or a remainder is always a column, a length or a remainder; the
connectives have operands enough, since a single one is not wrapped; and that the
rule is valid gives the names, numbers and lists that the text needs.

The text of a predicate therefore determines it
(`ColumnChecks.Rule.read?_compile`).
-/

namespace ColumnChecks

open Sql

/-- What stands in a predicate binds tightly enough, and has what its text needs. -/
theorem Sql.Expr.IsCheck.readable {columns : List String} {e : Expr} (h : e.IsCheck columns)
    (hcolumns : ∀ c ∈ columns, c ≠ "") : e.Readable := by
  induction h with
  | isNull hcolumn negated => exact ⟨hcolumns _ hcolumn, (by decide : 4 ≤ 7)⟩
  | compare hcolumn op hfinite =>
    exact ⟨⟨hcolumns _ hcolumn, (by decide : 5 ≤ 7)⟩, hfinite, (by decide : 5 ≤ 7)⟩
  | parity hcolumn op =>
    exact ⟨⟨⟨hcolumns _ hcolumn, (by decide : 7 ≤ 7)⟩, (by decide : 5 ≤ 6)⟩, rfl,
      (by decide : 5 ≤ 7)⟩
  | length hcolumn op bound =>
    exact ⟨⟨hcolumns _ hcolumn, (by decide : 5 ≤ 7)⟩, rfl, (by decide : 5 ≤ 7)⟩
  | lengthBetween hcolumn low high =>
    exact ⟨⟨hcolumns _ hcolumn, (by decide : 6 ≤ 7)⟩, rfl, rfl⟩
  | inList hcolumn hne hfinite =>
    exact ⟨⟨hcolumns _ hcolumn, (by decide : 6 ≤ 7)⟩, hne, hfinite⟩
  | regexMatch hcolumn pattern negated caseInsensitive =>
    exact ⟨hcolumns _ hcolumn, (by decide : 6 ≤ 7)⟩
  | untriggered _ ih => exact ih
  | and hlength _ ih => exact ⟨hlength, Expr.allReadable_iff.2 ih⟩
  | or hlength _ ih => exact ⟨hlength, Expr.allReadable_iff.2 ih⟩

section

variable [Pattern.SizeTest]

/-- The columns of a valid rule have proper names. -/
theorem RuleSpec.ne_empty_of_mem_columns {spec : RuleSpec} (hvalid : spec.fault? = none)
    {column : String} (h : column ∈ spec.columns) : column ≠ "" := by
  obtain ⟨htarget, -, -, hkind⟩ := RuleSpec.fault?_eq_none_iff.1 hvalid
  rcases List.mem_append.1 h with h | h
  · exact ((targetFault?_eq_none_iff.1 htarget).2.1 column h).1
  · split at h
    · next requirement hk =>
      rw [hk, RuleKind.fault?] at hkind
      split_ifs at hkind
      obtain ⟨condition, hmem, rfl⟩ := List.mem_map.1 h
      have hcondition := (Requirement.fault?_eq_none_iff.1 hkind).2 condition hmem
      exact (Condition.of_fault?_eq_none hcondition).1.1
    · cases h

/-- **Every predicate of a valid rule is readable.** -/
theorem RuleSpec.readable_predicate {spec : RuleSpec} {dialect : Dialect} {e : Expr}
    (hvalid : spec.fault? = none) (h : spec.predicate dialect = .ok e) : e.Readable :=
  (RuleSpec.isCheck_predicate hvalid h).readable fun _ => RuleSpec.ne_empty_of_mem_columns hvalid

/-- **The text of a compiled rule determines its predicate.** Reading it as SQL gives
the predicate back, numbers taken as their numerals are, whether or not a backslash
escapes in plain strings. -/
theorem Rule.read?_compile {rule : Rule} {dialect : Dialect} {compiled : CompiledRule}
    (h : rule.compile dialect = .ok compiled) (conforming : Bool) :
    Sql.read? conforming compiled.sql = some compiled.expr.canonical := by
  rw [Rule.compile] at h
  cases he : rule.predicate dialect with
  | error x =>
    rw [he] at h
    cases h
  | ok e =>
    rw [he] at h
    cases h
    exact read?_sql (RuleSpec.readable_predicate rule.valid he)

end

/-- A rule that nothing about its names and values makes easy to read. -/
def returnsPolicy : Rule where
  spec := RuleSpec.of (.conditional
    { when := [.compare "order \"kind\"" .eq (.text "cash on \\ 'delivery'"),
        .isIn "between" [.integer 3, .integer (-4)]]
      rejectBlank := true }) ["returned by", "null"]
  valid := by decide

/-- The policy is read back from its text. -/
theorem returnsPolicy_read? : ∃ compiled, returnsPolicy.compile .postgres = .ok compiled ∧
    Sql.read? true compiled.sql = some compiled.expr.canonical := by
  have hcompile : returnsPolicy.compile .postgres = .ok _ := rfl
  exact ⟨_, hcompile, Rule.read?_compile hcompile true⟩

end ColumnChecks
