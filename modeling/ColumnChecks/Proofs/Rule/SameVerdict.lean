import ColumnChecks.Proofs.Rule.SameText
import ColumnChecks.Proofs.Rule.Sameness

/-!
# One verdict of the same rules

Rules that are the same are equal once every zero is plain, and so are their predicates:
taking the signs off the zeros of a rule takes them off its predicate
(`ColumnChecks.RuleSpec.predicate_plainZeros`). No comparison sees the sign of a zero, so that
a predicate has its truth value without it
(`ColumnChecks.Sql.Expr.IsCheck.evaluate_plainZeros`). Hence **the same rules have one verdict
on every row** (`ColumnChecks.Rule.accepts_of_same`), and a dialect that cannot express one of
them cannot express the other.

Only the errors may differ, for they show the values that were compared.
-/

namespace ColumnChecks

open Sql

/-! ### Comparing with a plain zero -/

/-- Both zeros have one place on the line. -/
theorem Decimal.compare?_plainZero (x y : Decimal) : x.compare? y.plainZero = x.compare? y := by
  cases y with
  | nan => rfl
  | number negative rank =>
    have hplace : place (negative && rank.val != 0) rank.val = place negative rank.val :=
      place_eq_iff.2 ⟨by cases negative <;> simp, rfl⟩
    cases x with
    | nan => rfl
    | number negative' rank' => rw [plainZero, compare?, compare?, hplace]

/-- **No value sees the sign of a zero.** -/
theorem Literal.compare?_plainZero (held written : Literal) :
    held.compare? written.plainZero = held.compare? written := by
  cases written with
  | boolean | integer | text => rfl
  | decimal d =>
    cases held with
    | boolean | text => rfl
    | integer i => exact Decimal.compare?_plainZero _ d
    | decimal x => exact Decimal.compare?_plainZero x d

namespace Sql

variable {row : Row} {columns : List String}

/-! ### Predicates with plain zeros -/

namespace Expr

mutual

/-- An expression with plain zeros. -/
def plainZeros : Expr → Expr
  | .column name => .column name
  | .literal v => .literal v.plainZero
  | .compare left op right => .compare (plainZeros left) op (plainZeros right)
  | .modulo e divisor => .modulo (plainZeros e) divisor
  | .charLength e => .charLength (plainZeros e)
  | .between e low high => .between (plainZeros e) low.plainZero high.plainZero
  | .inList e values => .inList (plainZeros e) (values.map Literal.plainZero)
  | .regexMatch e pattern negated caseInsensitive =>
    .regexMatch (plainZeros e) pattern negated caseInsensitive
  | .isNull e negated => .isNull (plainZeros e) negated
  | .coalesce e fallback => .coalesce (plainZeros e) fallback
  | .not e => .not (plainZeros e)
  | .and es => .and (operandsPlainZeros es)
  | .or es => .or (operandsPlainZeros es)

/-- Several expressions with plain zeros. -/
def operandsPlainZeros : List Expr → List Expr
  | [] => []
  | e :: es => plainZeros e :: operandsPlainZeros es

end

theorem operandsPlainZeros_eq (es : List Expr) : operandsPlainZeros es = es.map plainZeros := by
  induction es with
  | nil => rfl
  | cons e es ih => rw [operandsPlainZeros, ih, List.map_cons]

/-- A conjunction is put together alike from operands with plain zeros. -/
theorem plainZeros_all (es : List Expr) : (Expr.all es).plainZeros = .all (es.map plainZeros) := by
  rcases es with _ | ⟨e, _ | ⟨f, es⟩⟩
  · rfl
  · rfl
  · rw [all, plainZeros, operandsPlainZeros_eq]
    · rfl
    · simp

/-- **A predicate has its truth value without the signs of zeros.** -/
theorem IsCheck.evaluate_plainZeros [Pattern.SizeTest] {e : Expr} (h : e.IsCheck columns) :
    (e.plainZeros.evaluate row).toOption = (e.evaluate row).toOption := by
  have hoperands : ∀ {es : List Expr},
      (∀ e ∈ es, (e.plainZeros.evaluate row).toOption = (e.evaluate row).toOption) →
      List.Forall₂ (fun e f => (e.evaluate row).toOption = (f.evaluate row).toOption)
        (operandsPlainZeros es) es := by
    intro es hes
    rw [operandsPlainZeros_eq, List.forall₂_map_left_iff, List.forall₂_same]
    exact hes
  induction h with
  | isNull | parity | length | lengthBetween | regexMatch => rfl
  | @compare column hcolumn op written hfinite =>
    rw [plainZeros, plainZeros, plainZeros, evaluate_compare_column, evaluate_compare_column]
    cases row column with
    | none => rfl
    | some held => simp only [Literal.compare?_plainZero]
  | @inList column hcolumn values hne hfinite =>
    rw [plainZeros, plainZeros, evaluate_inList_column, evaluate_inList_column]
    cases row column with
    | none => rfl
    | some held =>
      simp only
      rw [toOption_isAmong_map fun v _ => Literal.compare?_plainZero held v]
  | untriggered _ ih =>
    rw [plainZeros, plainZeros, evaluate_not, evaluate_not, evaluate_coalesce, evaluate_coalesce]
    simp only [Except.toOption_map, ih]
  | and _ _ ih =>
    rw [plainZeros, evaluate_and, evaluate_and]
    exact toOption_connect _ _ (hoperands ih)
  | or _ _ ih =>
    rw [plainZeros, evaluate_or, evaluate_or]
    exact toOption_connect _ _ (hoperands ih)

end Expr

end Sql

/-! ### Predicates of rules with plain zeros -/

variable {dialect : Dialect} {column : String}

theorem numberExpr_plainZero (n : Numeric) :
    numberExpr n.plainZero = (numberExpr n).plainZeros := by
  cases n <;> rfl

/-- The test of a range with plain zeros is the test with plain zeros. -/
theorem Range.expr_plainZeros (range : Range) (column : String) :
    ({ range with min := range.min.map Numeric.plainZero,
                  max := range.max.map Numeric.plainZero } : Range).expr column =
      (range.expr column).plainZeros := by
  rw [expr, expr, Expr.plainZeros_all, List.map_append]
  congr 2
  · cases range.min with
    | none => rfl
    | some min => simp [Expr.plainZeros, numberExpr_plainZero]
  · cases range.max with
    | none => rfl
    | some max => simp [Expr.plainZeros, numberExpr_plainZero]

/-- The limits of a length are integers, and have no signs of zeros. -/
theorem Length.expr_plainZeros (length : Length) (column : String) :
    (length.expr column).plainZeros = length.expr column := by
  obtain ⟨_ | min, _ | max⟩ := length <;> rfl

/-- Neither has a match. -/
theorem Format.expr_plainZeros {format : Format} {e : Expr}
    (h : format.expr column dialect = .ok e) : e.plainZeros = e := by
  rw [Format.expr_eq_ok h]
  cases format.mode <;> rfl

/-- What a kind asks of a column with plain zeros. -/
theorem RuleKind.columnExpr_plainZeros (kind : RuleKind) :
    kind.plainZeros.columnExpr dialect column =
      (kind.columnExpr dialect column).map (Option.map Expr.plainZeros) := by
  cases kind with
  | range bounds =>
    rw [plainZeros, columnExpr, Range.expr_plainZeros]
    rfl
  | parity parity => rfl
  | presence columnType => cases columnType <;> rfl
  | length bounds =>
    change (length bounds).columnExpr dialect column = _
    rw [columnExpr, Except.map, Option.map_some, Length.expr_plainZeros]
  | inclusion values => rfl
  | format format =>
    change (RuleKind.format format).columnExpr dialect column = _
    rw [columnExpr]
    cases h : format.expr column dialect with
    | error error => rfl
    | ok e =>
      have he := Format.expr_plainZeros h
      simp only [bind, Except.bind, Except.map, Option.map_some, he]
  | conditional requirement => rfl

theorem RuleSpec.columnExpr_plainZeros (spec : RuleSpec) :
    spec.plainZeros.columnExpr dialect column =
      (spec.columnExpr dialect column).map (Option.map Expr.plainZeros) := by
  rw [columnExpr, columnExpr, plainZeros, RuleKind.columnExpr_plainZeros]
  cases spec.kind.columnExpr dialect column with
  | error error => rfl
  | ok body =>
    cases body with
    | none => rfl
    | some body =>
      simp only [bind, Except.bind, Except.map, Option.map_some]
      cases spec.allowBlank with
      | false => rfl
      | true => rfl

/-- The test of a condition with plain zeros is the test with plain zeros. -/
theorem Condition.expr_plainZeros (c : Condition) : c.plainZeros.expr = c.expr.plainZeros := by
  cases c <;> rfl

theorem Requirement.expr_plainZeros (requirement : Requirement) (target : List String) :
    ({ requirement with when := requirement.when.map Condition.plainZeros } : Requirement).expr
        target = (requirement.expr target).plainZeros := by
  have hrequired : ∀ column, (requiredExprs requirement.rejectBlank column).map Expr.plainZeros =
      requiredExprs requirement.rejectBlank column := by
    intro column
    rw [requiredExprs]
    cases requirement.rejectBlank <;> rfl
  have hwhen : (requirement.when.map Condition.plainZeros).map Condition.expr =
      (requirement.when.map Condition.expr).map Expr.plainZeros := by
    rw [List.map_map, List.map_map]
    exact List.map_congr_left fun c _ => c.expr_plainZeros
  have hall : ((target.flatMap (requiredExprs requirement.rejectBlank)).map Expr.plainZeros) =
      target.flatMap (requiredExprs requirement.rejectBlank) := by
    rw [List.map_flatMap]
    simp only [hrequired]
  rw [expr, expr, hwhen]
  simp only [Expr.plainZeros, Expr.operandsPlainZeros, Expr.plainZeros_all, hall]

theorem mapM_map_right {ε α β γ : Type} (f : α → Except ε β) (g : β → γ) (xs : List α) :
    xs.mapM (fun x => (f x).map g) = (xs.mapM f).map (List.map g) := by
  induction xs with
  | nil => rfl
  | cons x xs ih =>
    rw [List.mapM_cons, List.mapM_cons, ih]
    cases f x with
    | error e => rfl
    | ok b => cases xs.mapM f <;> rfl

/-- The predicate of a rule that is not conditional, from what it asks of its columns. -/
def RuleSpec.assemble (spec : RuleSpec) (bodies : List Expr) : Except UnsupportedRule Expr :=
  if spec.allowNull then
    if bodies.isEmpty then .error (.nothingToCheck spec.kind.name)
    else .ok (.or [.all bodies, .all (isNulls spec.target)])
  else .ok (.all (notNulls spec.target ++ if bodies.isEmpty then [] else [.all bodies]))

/-- Apart from conditional rules, a predicate is assembled from the tests of its columns. -/
theorem RuleSpec.predicate_eq_assemble {spec : RuleSpec}
    (hkind : ∀ requirement, spec.kind ≠ .conditional requirement) :
    spec.predicate dialect =
      spec.target.mapM (spec.columnExpr dialect) >>= fun found =>
        spec.assemble (found.filterMap id) := by
  unfold predicate
  split
  · next requirement hk => exact absurd hk (hkind requirement)
  · rfl

/-- What stands around the tests has no zeros. -/
theorem RuleSpec.assemble_plainZeros (spec : RuleSpec) (bodies : List Expr) :
    spec.plainZeros.assemble (bodies.map Expr.plainZeros) =
      (spec.assemble bodies).map Expr.plainZeros := by
  have hname : spec.plainZeros.kind.name = spec.kind.name := by
    rw [plainZeros]
    cases spec.kind <;> rfl
  have htarget : spec.plainZeros.target = spec.target := rfl
  have hnull : spec.plainZeros.allowNull = spec.allowNull := rfl
  have hisNulls : (isNulls spec.target).map Expr.plainZeros = isNulls spec.target := by
    rw [isNulls, List.map_map]
    rfl
  have hnotNulls : (notNulls spec.target).map Expr.plainZeros = notNulls spec.target := by
    rw [notNulls, List.map_map]
    rfl
  have hempty : (bodies.map Expr.plainZeros).isEmpty = bodies.isEmpty := List.isEmpty_map
  rw [assemble, assemble, htarget, hnull, hname, hempty]
  split_ifs
  · rfl
  · simp only [Except.map, Expr.plainZeros, Expr.operandsPlainZeros, Expr.plainZeros_all, hisNulls]
  · simp only [Except.map, Expr.plainZeros_all, List.append_nil, hnotNulls]
  · simp only [Except.map, Expr.plainZeros_all, List.map_append, List.map_cons, List.map_nil,
      hnotNulls]

/-- **The predicate of a rule with plain zeros** is that of the rule with plain zeros. -/
theorem RuleSpec.predicate_plainZeros (spec : RuleSpec) :
    spec.plainZeros.predicate dialect = (spec.predicate dialect).map Expr.plainZeros := by
  by_cases hcond : ∃ requirement, spec.kind = .conditional requirement
  · obtain ⟨requirement, hk⟩ := hcond
    have hk' : spec.plainZeros.kind = .conditional
        { requirement with when := requirement.when.map Condition.plainZeros } := by
      rw [plainZeros, hk]
      rfl
    simp only [predicate, hk, hk']
    exact congrArg Except.ok (requirement.expr_plainZeros spec.target)
  · -- Any other rule asks the same of each of its columns.
    have hkind : ∀ requirement, spec.kind ≠ .conditional requirement := not_exists.1 hcond
    have hkind' : ∀ requirement, spec.plainZeros.kind ≠ .conditional requirement := by
      intro requirement hk'
      rw [plainZeros] at hk'
      cases hk : spec.kind with
      | conditional r => exact hkind r hk
      | range | parity | presence | length | inclusion | format =>
        rw [hk] at hk'
        cases hk'
    have hcolumns : spec.plainZeros.columnExpr dialect = fun column =>
        (spec.columnExpr dialect column).map (Option.map Expr.plainZeros) :=
      funext fun _ => columnExpr_plainZeros spec
    have htarget : spec.plainZeros.target = spec.target := rfl
    rw [predicate_eq_assemble hkind, predicate_eq_assemble hkind', hcolumns, htarget,
      mapM_map_right]
    cases hfound : spec.target.mapM (spec.columnExpr dialect) with
    | error error => rfl
    | ok found =>
      have hbodies : (found.map (Option.map Expr.plainZeros)).filterMap id =
          (found.filterMap id).map Expr.plainZeros := by
        rw [List.filterMap_map, List.map_filterMap]
        rfl
      change spec.plainZeros.assemble ((found.map (Option.map Expr.plainZeros)).filterMap id) = _
      rw [hbodies, assemble_plainZeros]
      rfl

/-! ### Verdicts of the same rules -/

variable [Pattern.SizeTest] {rule other : Rule}

theorem Rule.predicate_of_same (h : rule.same other = true) (dialect : Dialect) :
    (rule.predicate dialect).map Expr.plainZeros =
      (other.predicate dialect).map Expr.plainZeros := by
  rw [predicate, predicate, ← RuleSpec.predicate_plainZeros, ← RuleSpec.predicate_plainZeros,
    Rule.same_iff.1 h]

/-- A dialect that cannot express a rule cannot express the same rule. -/
theorem Rule.predicate_error_of_same (h : rule.same other = true) {error : UnsupportedRule}
    (herror : rule.predicate dialect = .error error) : other.predicate dialect = .error error := by
  have hmap := Rule.predicate_of_same h dialect
  rw [herror] at hmap
  cases hother : other.predicate dialect with
  | error error' =>
    rw [hother] at hmap
    cases hmap
    rfl
  | ok e =>
    rw [hother] at hmap
    cases hmap

/-- **The same rules have one verdict on every row.** -/
theorem Rule.accepts_of_same (h : rule.same other = true) {e : Expr}
    (hpredicate : rule.predicate dialect = .ok e) :
    ∃ e', other.predicate dialect = .ok e' ∧
      ∀ row, (e.accepts row).toOption = (e'.accepts row).toOption := by
  have hmap := Rule.predicate_of_same h dialect
  rw [hpredicate] at hmap
  cases hother : other.predicate dialect with
  | error error =>
    rw [hother] at hmap
    cases hmap
  | ok e' =>
    rw [hother] at hmap
    -- The two predicates meet in the one with plain zeros.
    have hplain : e.plainZeros = e'.plainZeros := Except.ok.inj hmap
    have hcheck := RuleSpec.isCheck_predicate rule.valid hpredicate
    have hcheck' := RuleSpec.isCheck_predicate other.valid hother
    refine ⟨e', rfl, fun row => ?_⟩
    rw [Expr.accepts, Expr.accepts, Except.toOption_bind, Except.toOption_bind,
      ← hcheck.evaluate_plainZeros, ← hcheck'.evaluate_plainZeros, hplain]

end ColumnChecks
