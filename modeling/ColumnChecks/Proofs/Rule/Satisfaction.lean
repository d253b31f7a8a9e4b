import ColumnChecks.Rule.Predicate
import ColumnChecks.Sql.Evaluate
import ColumnChecks.Proofs.Decimal.Multiples

/-!
# What a rule asks of a row

This file says what the rules mean, without a word about predicates: which
values a kind admits (`ColumnChecks.RuleKind.Admits`), when a trigger condition
holds (`ColumnChecks.Condition.Holds`), and from these the truth value that a rule
should have on a row (`ColumnChecks.RuleSpec.Verdict`). Three things are settled
here that the kinds themselves leave open.

* **Missing values.** A rule that does not allow them is false where one is
  missing; a rule that does is true where all are missing, and unknown where only
  some are and the others are as they should be.
* **Blank.** Where blank is allowed, the empty text is admitted whatever the kind
  says about it.
* **Triggers.** A condition on a missing value does not hold, so a conditional
  rule is never unknown.

A row suits a rule (`ColumnChecks.RuleSpec.SuitedBy`) when its values are of the
kinds that the rule compares them with; what happens to other rows is a question
of errors, not of meaning.
-/

namespace ColumnChecks

open Sql (Comparison Row Truth matchesPattern)

/-! ### What a kind asks of a value -/

/-- A comparison holds between two values. -/
def Literal.Relates (v : Literal) (op : Comparison) (w : Literal) : Prop :=
  ∃ o, v.compare? w = some o ∧ op.holds o = true

/-- A value lies within bounds. -/
def Range.Admits (range : Range) (v : Literal) : Prop :=
  (∀ min, range.min = some min →
      v.Relates (if range.minInclusive then .ge else .gt) min.toLiteral) ∧
    ∀ max, range.max = some max →
      v.Relates (if range.maxInclusive then .le else .lt) max.toLiteral

/-- Odd is whatever is not even, a number that is not whole included. -/
def Parity.Admits : Parity → Literal → Prop
  | .even, v => v.IsEven
  | .odd, v => ¬v.IsEven

/-- The number of characters of a text lies within bounds. It is counted as a
64-bit integer, which holds the length of every text that fits a memory. -/
def Length.Admits (length : Length) (v : Literal) : Prop :=
  ∃ s, v = .text s ∧ (∀ min, length.min = some min → min ≤ Int64.ofNat s.length) ∧
    ∀ max, length.max = some max → Int64.ofNat s.length ≤ max

theorem eq_of_known {t u : Truth} {b : Bool} (ht : t ≠ none) (hu : u ≠ none)
    (h : t = some b ↔ u = some b) : t = u := by
  rcases t with _ | t
  · exact absurd rfl ht
  · rcases u with _ | u
    · exact absurd rfl hu
    · cases t <;> cases u <;> cases b <;> simp_all

theorem eq_of_true_of_false {t u : Truth} (htrue : t = some true ↔ u = some true)
    (hfalse : t = some false ↔ u = some false) : t = u := by
  rcases t with _ | (_ | _) <;> rcases u with _ | (_ | _) <;> simp_all

variable [Pattern.SizeTest]

/-- A text matches a pattern from end to end, or nowhere. -/
def Format.Admits (format : Format) (v : Literal) : Prop :=
  ∃ s, v = .text s ∧ match format.mode with
    | .accepts => matchesPattern (anchored format.pattern) format.caseInsensitive s = .ok true
    | .rejects => matchesPattern format.pattern format.caseInsensitive s = .ok false

/-- **A kind admits a value.** A conditional rule asks nothing of a value apart
from its being there. -/
def RuleKind.Admits : RuleKind → Literal → Prop
  | .range r, v => r.Admits v
  | .parity p, v => p.Admits v
  | .presence .text, v => v ≠ blankText
  | .presence .nonText, _ => True
  | .length l, v => l.Admits v
  | .inclusion values, v => ∃ w ∈ values, v.Relates .eq w
  | .format f, v => f.Admits v
  | .conditional _, _ => True

/-- A rule admits a value: its kind does, or the value is blank and that is
allowed. -/
def RuleSpec.Admits (spec : RuleSpec) (v : Literal) : Prop :=
  spec.kind.Admits v ∨ spec.allowBlank = true ∧ v = blankText

/-! ### Triggers -/

/-- **A trigger condition holds** on a row. -/
def Condition.Holds (row : Row) : Condition → Prop
  | .compare column op value => ∃ v, row column = some v ∧ v.Relates op value
  | .isIn column values => ∃ v, row column = some v ∧ ∃ w ∈ values, v.Relates .eq w
  | .isNull column => row column = none
  | .isNotNull column => row column ≠ none

/-- A requirement misses a column: it has no value, or a blank one where that
counts as none. -/
def Requirement.Misses (requirement : Requirement) (row : Row) (column : String) : Prop :=
  row column = none ∨ requirement.rejectBlank = true ∧ row column = some blankText

/-! ### The truth value of a rule -/

/-- **The truth value that a rule should have on a row.** The two statements of
each case leave one truth value. -/
def RuleSpec.Verdict (spec : RuleSpec) (row : Row) (t : Truth) : Prop :=
  match spec.kind with
  | .conditional requirement =>
    t ≠ none ∧
      (t = some false ↔ (∀ c ∈ requirement.when, c.Holds row) ∧
        ∃ column ∈ spec.target, requirement.Misses row column)
  | _ =>
    if spec.allowNull then
      (t = some true ↔ (∀ column ∈ spec.target, row column = none) ∨
          ∀ column ∈ spec.target, ∃ v, row column = some v ∧ spec.Admits v) ∧
        (t = some false ↔ ∃ column ∈ spec.target, ∃ v, row column = some v ∧ ¬spec.Admits v)
    else
      t ≠ none ∧
        (t = some true ↔ ∀ column ∈ spec.target, ∃ v, row column = some v ∧ spec.Admits v)

/-- **A rule has one verdict on a row.** -/
theorem RuleSpec.Verdict.unique {spec : RuleSpec} {row : Row} {t u : Truth}
    (ht : spec.Verdict row t) (hu : spec.Verdict row u) : t = u := by
  unfold RuleSpec.Verdict at ht hu
  split at ht
  · next requirement hk =>
    simp only [hk] at hu
    exact eq_of_known ht.1 hu.1 (ht.2.trans hu.2.symm)
  · next hk =>
    split at hu
    · next requirement hk' => exact absurd hk' (hk requirement)
    · split_ifs at ht hu
      · exact eq_of_true_of_false (ht.1.trans hu.1.symm) (ht.2.trans hu.2.symm)
      · exact eq_of_known ht.1 hu.1 (ht.2.trans hu.2.symm)

/-! ### Rows that suit a rule -/

/-- A kind takes a value: the value is of the kind of literal that the rule
compares it with. -/
def RuleKind.Takes : RuleKind → Literal → Prop
  | .range _, v | .parity _, v => v.kind = .numeric
  | .presence .text, v | .length _, v | .format _, v => v.kind = .text
  | .presence .nonText, _ => True
  | .inclusion values, v => ∀ w ∈ values, v.kind = w.kind
  | .conditional requirement, v => requirement.rejectBlank = true → v.kind = .text

/-- A condition takes a value. -/
def Condition.Takes : Condition → Literal → Prop
  | .compare _ _ value, v => v.kind = value.kind
  | .isIn _ values, v => ∀ w ∈ values, v.kind = w.kind
  | .isNull _, _ | .isNotNull _, _ => True

/-- **A row suits a rule**: in every column that the rule is about or that
triggers it, there is no value, or a finite one that is taken. -/
structure RuleSpec.SuitedBy (spec : RuleSpec) (row : Row) : Prop where
  target : ∀ column ∈ spec.target, ∀ v, row column = some v →
    v.isFinite = true ∧ spec.kind.Takes v
  trigger : ∀ requirement, spec.kind = .conditional requirement →
    ∀ c ∈ requirement.when, ∀ v, row c.column = some v → v.isFinite = true ∧ c.Takes v

end ColumnChecks
