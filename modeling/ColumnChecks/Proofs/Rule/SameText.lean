import ColumnChecks.Proofs.Decimal.Integers
import ColumnChecks.Proofs.Rule.Reading
import ColumnChecks.Proofs.Sql.Kleene

/-!
# Predicates with one text

The text of a predicate does not say whether a number in it was an integer or a
decimal, while the evaluator compares two integers exactly and rounds an integer before
it compares it with a decimal. So two predicates with one text are told apart by a row
just where rounding can be noticed: where an integer of the row and the integer that the
text has for a decimal are two integers but one double
(`ColumnChecks.Sql.Expr.Confuses`). This needs an integer of at least `2 ^ 53`.

**On every other row, predicates with one text have one verdict**, be it acceptance,
rejection or an error (`ColumnChecks.Rule.accepts_of_sql_eq`). Both are compared with
the predicate that is read from the text, test by test.

Errors carry the values that they are about, and these may differ in their types, so
verdicts are compared without them, by `Except.toOption`.
-/

namespace ColumnChecks

namespace Except

variable {ε α β : Type}

theorem toOption_bind (x : Except ε α) (f : α → Except ε β) :
    (x >>= f).toOption = x.toOption.bind fun a => (f a).toOption := by
  cases x <;> rfl

theorem toOption_map (x : Except ε α) (f : α → β) : (x.map f).toOption = x.toOption.map f := by
  cases x <;> rfl

end Except

open Sql

/-! ### The values of a predicate -/

namespace Sql.Expr

mutual

/-- The values that are written down in an expression. -/
def literals : Expr → List Literal
  | .column _ => []
  | .literal v => [v]
  | .compare left _ right => literals left ++ literals right
  | .modulo e _ | .charLength e | .regexMatch e _ _ _ | .isNull e _ | .coalesce e _ | .not e =>
    literals e
  | .between e low high => literals e ++ [low.toLiteral, high.toLiteral]
  | .inList e values => literals e ++ values
  | .and es | .or es => operandLiterals es

/-- The values that are written down in some operands. -/
def operandLiterals : List Expr → List Literal
  | [] => []
  | e :: es => literals e ++ operandLiterals es

end

theorem operandLiterals_eq (es : List Expr) : operandLiterals es = es.flatMap literals := by
  induction es with
  | nil => rfl
  | cons e es ih => rw [operandLiterals, ih, List.flatMap_cons]

theorem literals_subset {e : Expr} {es : List Expr} (h : e ∈ es) :
    e.literals ⊆ operandLiterals es := by
  rw [operandLiterals_eq]
  exact fun v hv => List.mem_flatMap.2 ⟨e, h, hv⟩

theorem canonicals_eq (es : List Expr) : canonicals es = es.map canonical := by
  induction es with
  | nil => rfl
  | cons e es ih => rw [canonicals, ih, List.map_cons]

end Sql.Expr

/-- A column of a row holds an integer that is confused with a value: with a decimal
whose numeral is that of another integer. -/
def Literal.ConfusedWith (held written : Literal) : Prop :=
  ∃ i d j, held = .integer i ∧ written = .decimal d ∧
    (Numeric.decimal d).canonical = .integer j ∧ Decimal.Confused i.toInt j.toInt

/-- An expression is told apart from its text by a row. -/
def Sql.Expr.Confuses (columns : List String) (row : Row) (e : Expr) : Prop :=
  ∃ column ∈ columns, ∃ held, row column = some held ∧ ∃ written ∈ e.literals,
    held.ConfusedWith written

theorem Sql.Expr.Confuses.mono {columns : List String} {row : Row} {e f : Expr}
    (h : e.literals ⊆ f.literals) (he : e.Confuses columns row) : f.Confuses columns row := by
  obtain ⟨column, hcolumn, held, hheld, written, hwritten, hconfused⟩ := he
  exact ⟨column, hcolumn, held, hheld, written, h hwritten, hconfused⟩

/-- Where an expression is told apart from its text, a large integer is rounded. -/
theorem Sql.Expr.Confuses.exists_large {columns : List String} {row : Row} {e : Expr}
    (h : e.Confuses columns row) :
    ∃ column ∈ columns, ∃ i j d, row column = some (.integer i) ∧ .decimal d ∈ e.literals ∧
      (Numeric.decimal d).canonical = .integer j ∧ i.toInt ≠ j.toInt ∧
      Decimal.ofInt i.toInt = Decimal.ofInt j.toInt ∧ 2 ^ 53 ≤ i.toInt.natAbs := by
  obtain ⟨column, hcolumn, held, hheld, written, hwritten, i, d, j, rfl, rfl, hd, hc⟩ := h
  exact ⟨column, hcolumn, i, j, d, hheld, hwritten, hd, hc.1, hc.2, hc.le_natAbs⟩

/-! ### Comparing with a value and with its numeral -/

theorem Numeric.canonical_decimal (d : Decimal) :
    (Numeric.decimal d).canonical = .decimal d ∨
      ∃ j, (Numeric.decimal d).canonical = .integer j ∧
        integerOfText? (Decimal.plain.write d) = some j := by
  rw [Numeric.canonical]
  cases integerOfText? (Decimal.plain.write d) with
  | none => exact Or.inl rfl
  | some j => exact Or.inr ⟨j, rfl, rfl⟩

/-- **A value compares like its numeral**, unless integers are confused. -/
theorem Literal.compare?_canonical {held written : Literal} (hfinite : written.isFinite = true)
    (h : ¬ held.ConfusedWith written) :
    held.compare? written.canonical = held.compare? written := by
  cases written with
  | boolean b => rfl
  | integer j => rfl
  | text s => rfl
  | decimal d =>
    rw [Literal.canonical]
    rcases Numeric.canonical_decimal d with hd | ⟨j, hd, hj⟩
    · rw [hd]
      rfl
    · rw [hd]
      have hcompare := Decimal.compare?_integerOfText? hfinite hj
      cases held with
      | boolean b => rfl
      | text s => rfl
      | decimal x => exact (hcompare x).symm
      | integer i =>
        have hexact : ¬ Decimal.Confused i.toInt j.toInt := fun hc => h ⟨i, d, j, rfl, rfl, hd, hc⟩
        exact ((hcompare _).trans (Decimal.compare?_ofInt hexact)).symm

namespace Sql

theorem toOption_compareValues (left right : Literal) :
    (compareValues left right).toOption = left.compare? right := by
  unfold compareValues
  cases left.compare? right <;> rfl

/-- A list of values may be replaced by values that compare alike. -/
theorem toOption_isAmong_map {held : Literal} {values : List Literal} {f : Literal → Literal}
    (h : ∀ v ∈ values, held.compare? (f v) = held.compare? v) :
    (isAmong held (values.map f)).toOption = (isAmong held values).toOption := by
  induction values with
  | nil => rfl
  | cons v values ih =>
    rw [List.forall_mem_cons] at h
    rw [List.map_cons, isAmong, isAmong, Except.toOption_bind, Except.toOption_bind,
      toOption_compareValues, toOption_compareValues, h.1]
    congr 1
    funext o
    split_ifs
    · rfl
    · exact ih h.2

theorem toOption_isAmong {held : Literal} {values : List Literal}
    (hfinite : ∀ v ∈ values, v.isFinite = true) (h : ∀ v ∈ values, ¬ held.ConfusedWith v) :
    (isAmong held (values.map Literal.canonical)).toOption = (isAmong held values).toOption :=
  toOption_isAmong_map fun v hv => Literal.compare?_canonical (hfinite v hv) (h v hv)

/-! ### The tests of a predicate -/

variable [Pattern.SizeTest] {row : Row}

theorem evaluate_compare_column (column : String) (op : Comparison) (written : Literal) :
    ((Expr.compare (.column column) op (.literal written)).evaluate row).toOption =
      match row column with
      | none => some none
      | some held => (held.compare? written).map fun o => some (op.holds o) := by
  rw [Expr.evaluate, Expr.value, Expr.value, Expr.value]
  cases row column with
  | none => rfl
  | some held =>
    simp only [bind, Except.bind, compareValues]
    cases held.compare? written <;> rfl

theorem evaluate_inList_column (column : String) (values : List Literal) :
    ((Expr.inList (.column column) values).evaluate row).toOption =
      match row column with
      | none => some none
      | some held => (isAmong held values).toOption.map some := by
  rw [Expr.evaluate, Expr.value, Expr.value]
  cases row column with
  | none => rfl
  | some held =>
    simp only [bind, Except.bind]
    cases isAmong held values <;> rfl

/-- A walk over operands finds the same where the operands have the same truth
values. -/
theorem toOption_connect (neutral : Bool) (sofar : Truth) {es fs : List Expr}
    (h : List.Forall₂ (fun e f => (e.evaluate row).toOption = (f.evaluate row).toOption) es fs) :
    (Expr.connect row neutral sofar es).toOption =
      (Expr.connect row neutral sofar fs).toOption := by
  induction h generalizing sofar with
  | nil => rfl
  | @cons e f es fs he _ ih =>
    rw [Expr.connect_cons, Expr.connect_cons, Except.toOption_bind, Except.toOption_bind, he]
    congr 1
    funext t
    rcases t with _ | b
    · exact ih none
    · simp only
      split_ifs
      · exact ih sofar
      · rfl

variable {columns : List String}

theorem forall₂_canonicals {es : List Expr}
    (h : ∀ e ∈ es, (e.canonical.evaluate row).toOption = (e.evaluate row).toOption) :
    List.Forall₂ (fun e f => (e.evaluate row).toOption = (f.evaluate row).toOption)
      (Expr.canonicals es) es := by
  rw [Expr.canonicals_eq, List.forall₂_map_left_iff, List.forall₂_same]
  exact h

/-- **A predicate has the truth value of its text**, on a row that does not tell them
apart. -/
theorem Expr.IsCheck.evaluate_canonical {e : Expr} (h : e.IsCheck columns)
    (hrow : ¬ e.Confuses columns row) :
    (e.canonical.evaluate row).toOption = (e.evaluate row).toOption := by
  induction h with
  | isNull | parity | length | lengthBetween | regexMatch => rfl
  | @compare column hcolumn op written hfinite =>
    rw [canonical, canonical, canonical, evaluate_compare_column, evaluate_compare_column]
    cases hheld : row column with
    | none => rfl
    | some held =>
      have hwritten : ¬ held.ConfusedWith written := fun hc =>
        hrow ⟨column, hcolumn, held, hheld, written, by simp [literals], hc⟩
      simp only
      rw [Literal.compare?_canonical hfinite hwritten]
  | @inList column hcolumn values hne hfinite =>
    rw [canonical, canonical, evaluate_inList_column, evaluate_inList_column]
    cases hheld : row column with
    | none => rfl
    | some held =>
      have hwritten : ∀ v ∈ values, ¬ held.ConfusedWith v := fun v hv hc =>
        hrow ⟨column, hcolumn, held, hheld, v, by simp [literals, hv], hc⟩
      simp only
      rw [toOption_isAmong hfinite hwritten]
  | @untriggered e _ ih =>
    have ih := ih hrow
    rw [canonical, canonical, evaluate_not, evaluate_not, evaluate_coalesce, evaluate_coalesce]
    simp only [Except.toOption_map, ih]
  | @and es _ _ ih =>
    rw [canonical, evaluate_and, evaluate_and]
    exact toOption_connect _ _ (forall₂_canonicals fun e he => ih e he fun hc =>
      hrow (hc.mono (literals_subset he)))
  | @or es _ _ ih =>
    rw [canonical, evaluate_or, evaluate_or]
    exact toOption_connect _ _ (forall₂_canonicals fun e he => ih e he fun hc =>
      hrow (hc.mono (literals_subset he)))

/-- The verdict of a predicate is that of its text. -/
theorem Expr.IsCheck.accepts_canonical {e : Expr} (h : e.IsCheck columns)
    (hrow : ¬ e.Confuses columns row) :
    (e.canonical.accepts row).toOption = (e.accepts row).toOption := by
  rw [accepts, accepts, Except.toOption_bind, Except.toOption_bind, h.evaluate_canonical hrow]

end Sql

/-! ### Two rules -/

section

variable [Pattern.SizeTest]

theorem Rule.predicate_of_compile {rule : Rule} {dialect : Dialect} {compiled : CompiledRule}
    (h : rule.compile dialect = .ok compiled) :
    rule.predicate dialect = .ok compiled.expr ∧ compiled.sql = compiled.expr.sql := by
  obtain ⟨e, hpredicate, h⟩ := exists_of_bind_eq_ok h
  cases h
  exact ⟨hpredicate, rfl⟩

/-- **Two rules with one text have one verdict on every row**, unless an integer of the
row and an integer of the text, where one of the rules has a decimal, are two integers
that are rounded to one double. Such an integer is at least `2 ^ 53`. -/
theorem Rule.accepts_of_sql_eq {rule other : Rule} {dialect dialect' : Dialect}
    {compiled compiled' : CompiledRule} (h : rule.compile dialect = .ok compiled)
    (h' : other.compile dialect' = .ok compiled') (hsql : compiled.sql = compiled'.sql)
    (row : Row) :
    (compiled.expr.accepts row).toOption = (compiled'.expr.accepts row).toOption ∨
      ∃ column ∈ rule.spec.columns ++ other.spec.columns, ∃ i j d,
        row column = some (.integer i) ∧
        .decimal d ∈ compiled.expr.literals ++ compiled'.expr.literals ∧
        (Numeric.decimal d).canonical = .integer j ∧
        i.toInt ≠ j.toInt ∧ Decimal.ofInt i.toInt = Decimal.ofInt j.toInt ∧
        2 ^ 53 ≤ i.toInt.natAbs := by
  obtain ⟨hpredicate, htext⟩ := Rule.predicate_of_compile h
  obtain ⟨hpredicate', htext'⟩ := Rule.predicate_of_compile h'
  have hcheck := RuleSpec.isCheck_predicate rule.valid hpredicate
  have hcheck' := RuleSpec.isCheck_predicate other.valid hpredicate'
  have hcanonical : compiled.expr.canonical = compiled'.expr.canonical :=
    canonical_eq_of_sql_eq (RuleSpec.readable_predicate rule.valid hpredicate)
      (RuleSpec.readable_predicate other.valid hpredicate') (by rw [← htext, ← htext', hsql])
  by_cases hrow : compiled.expr.Confuses rule.spec.columns row
  · obtain ⟨column, hcolumn, i, j, d, hheld, hwritten, hlarge⟩ := hrow.exists_large
    exact Or.inr ⟨column, List.mem_append_left _ hcolumn, i, j, d, hheld,
      List.mem_append_left _ hwritten, hlarge⟩
  by_cases hrow' : compiled'.expr.Confuses other.spec.columns row
  · obtain ⟨column, hcolumn, i, j, d, hheld, hwritten, hlarge⟩ := hrow'.exists_large
    exact Or.inr ⟨column, List.mem_append_right _ hcolumn, i, j, d, hheld,
      List.mem_append_right _ hwritten, hlarge⟩
  -- Both have the verdict of the one predicate that is read from the text.
  · left
    rw [← hcheck.accepts_canonical hrow, ← hcheck'.accepts_canonical hrow', hcanonical]

end

/-- A number of copies, as an integer and as a decimal. -/
def manyCopies : Literal := .integer 9007199254740992

@[inherit_doc manyCopies]
def manyCopiesDecimal : Literal := .decimal (.number false ⟨1076 * 2 ^ 52, by decide⟩)

/-- The rule for that many copies. -/
def integerCopies : Rule where
  spec := RuleSpec.of (.inclusion [manyCopies]) ["copies"]
  valid := by decide

@[inherit_doc integerCopies]
def decimalCopies : Rule where
  spec := RuleSpec.of (.inclusion [manyCopiesDecimal]) ["copies"]
  valid := by decide

/-- What the rule for a number of copies is compiled to. -/
def copiesCheck (copies : Literal) : Expr :=
  .and [.isNull (.column "copies") true, .inList (.column "copies") [copies]]

/-- A row with a number of copies. -/
def copiesRow (i : Int64) : Row := fun column =>
  if column = "copies" then some (.integer i) else none

/-- Both rules have one verdict on a row with ten copies. -/
theorem copies_accepts :
    integerCopies.compile .postgres = .ok ⟨copiesCheck manyCopies, (copiesCheck manyCopies).sql⟩ ∧
    decimalCopies.compile .postgres =
      .ok ⟨copiesCheck manyCopiesDecimal, (copiesCheck manyCopiesDecimal).sql⟩ ∧
    (copiesCheck manyCopies).sql = (copiesCheck manyCopiesDecimal).sql ∧
    ((copiesCheck manyCopies).accepts (copiesRow 10)).toOption =
      ((copiesCheck manyCopiesDecimal).accepts (copiesRow 10)).toOption := by
  have hinteger : integerCopies.compile .postgres =
      .ok ⟨copiesCheck manyCopies, (copiesCheck manyCopies).sql⟩ := rfl
  have hdecimal : decimalCopies.compile .postgres =
      .ok ⟨copiesCheck manyCopiesDecimal, (copiesCheck manyCopiesDecimal).sql⟩ := rfl
  have hsql : (copiesCheck manyCopies).sql = (copiesCheck manyCopiesDecimal).sql := by
    decide +kernel
  refine ⟨hinteger, hdecimal, hsql, ?_⟩
  rcases Rule.accepts_of_sql_eq hinteger hdecimal hsql (copiesRow 10) with h | h
  · exact h
  · obtain ⟨column, -, i, j, d, hheld, -, -, -, -, hlarge⟩ := h
    -- Ten is not large enough to be confused with anything.
    rw [copiesRow] at hheld
    split_ifs at hheld
    cases hheld
    exact absurd hlarge (by decide)

/-- The row after them is refused by the rule with the integer, and accepted by the rule
with the decimal. -/
example : (copiesCheck manyCopies).accepts (copiesRow 9007199254740993) = .ok false ∧
    (copiesCheck manyCopiesDecimal).accepts (copiesRow 9007199254740993) = .ok true := by
  decide +kernel

end ColumnChecks
