import ColumnChecks.Proofs.Rule.Matching
import ColumnChecks.Proofs.Rule.Verdict

/-!
# Rows that a predicate cannot be evaluated on

A value that the kind of a rule does not take, such as a text where there should be a number, is
an error, but only if the evaluator gets to it. It walks over the columns of the rule and stops
at the first one that is not as it should be. **So a row is an error if some column holds such a
value and every column before it is missing or satisfied**
(`ColumnChecks.RuleSpec.TripsOver`); where missing values are not allowed, none may be missing
either, since the row is refused before any value is looked at.

Whether a row is an error is one of three things that can be said of its evaluation
(`ColumnChecks.Sql.FailsJustIf`), the third being that a pattern does not compile. This is kept
up along the columns (`ColumnChecks.RuleSpec.failsJustIf_connect`), and from there it is carried
through the shapes of predicates to `ColumnChecks.Rule.evaluate_error`.
-/

namespace ColumnChecks

open Sql

namespace Sql

/-! ### Errors -/

/-- A value is of the wrong kind. -/
def EvalError.IsMismatch : EvalError → Prop
  | .notBoolean _ | .notText _ | .notNumber _ | .lengthOfNonText _ | .incomparable _ _ => True
  | .divisionByZero | .quotientOverflow | .invalidPattern _ _ => False

/-- **An evaluation fails just if** something is the case, on a value of the wrong kind, unless
a pattern does not compile. -/
inductive FailsJustIf (P : Prop) : Except EvalError Truth → Prop where
  | mismatch (h : P) {error : EvalError} (herror : error.IsMismatch) : FailsJustIf P (.error error)
  | value (h : ¬P) (t : Truth) : FailsJustIf P (.ok t)
  | pattern (pattern : String) (error : Pattern.Error) :
    FailsJustIf P (.error (.invalidPattern pattern error))

namespace FailsJustIf

variable {P Q : Prop} {x : Except EvalError Truth}

theorem congr (h : FailsJustIf P x) (hPQ : P ↔ Q) : FailsJustIf Q x := by
  rwa [← propext hPQ]

theorem exists_error_iff (h : FailsJustIf P x) :
    (∃ pattern error, x = .error (.invalidPattern pattern error)) ∨
      ((∃ error, x = .error error) ↔ P) := by
  cases h with
  | mismatch h _ => exact Or.inr (iff_of_true ⟨_, rfl⟩ h)
  | value h t => exact Or.inr (iff_of_false nofun h)
  | pattern pattern error => exact Or.inl ⟨pattern, error, rfl⟩

/-- The remainder by two never overflows. -/
theorem ne_quotientOverflow (h : FailsJustIf P x) : x ≠ .error .quotientOverflow := by
  rintro rfl
  cases h with
  | mismatch _ herror => exact herror

end FailsJustIf

variable [Pattern.SizeTest] {row : Row} {column : String}

theorem evaluate_compare_error {left right : Expr} {op : Comparison} {l r : Literal}
    (hl : left.value row = .ok (some l)) (hr : right.value row = .ok (some r))
    (hnone : l.compare? r = none) :
    (Expr.compare left op right).evaluate row = .error (.incomparable l r) := by
  simp [Expr.evaluate, Expr.value, hl, hr, compareValues, hnone, bind, Except.bind]

/-- An error of the first operand is one of the connective. -/
theorem connect_of_error {neutral : Bool} {sofar : Truth} {e : Expr} {es : List Expr}
    {error : EvalError} (h : e.evaluate row = .error error) :
    Expr.connect row neutral sofar (e :: es) = .error error := by
  rw [Expr.connect_cons, h]
  rfl

/-! ### Tests of whether there is a value -/

/-- A column without a value refuses the row at once. -/
theorem connect_notNulls_missing {columns : List String}
    (h : ∃ column ∈ columns, row column = none) (sofar : Truth) (es : List Expr) :
    Expr.connect row true sofar (notNulls columns ++ es) = .ok (some false) := by
  induction columns with
  | nil =>
    obtain ⟨column, hmem, -⟩ := h
    cases hmem
  | cons column columns ih =>
    rw [notNulls, List.map_cons, List.cons_append, Expr.connect_cons, evaluate_isNull_column]
    rw [List.exists_mem_cons_iff] at h
    rcases h with hnone | hmore
    · rw [hnone]
      rfl
    · cases row column with
      | none => rfl
      | some v => exact ih hmore

/-- Tests of whether there is a value are never errors. -/
theorem exists_connect_isNulls (columns : List String) (sofar : Truth) :
    ∃ t, Expr.connect row true sofar (isNulls columns) = .ok t := by
  induction columns generalizing sofar with
  | nil => exact ⟨sofar, rfl⟩
  | cons column columns ih =>
    rw [isNulls, List.map_cons, Expr.connect_cons, evaluate_isNull_column]
    cases row column with
    | none => exact ih sofar
    | some v => exact ⟨_, rfl⟩

/-- A disjunction fails with its first operand if the second one never does. -/
theorem FailsJustIf.or_pair {P : Prop} {e f : Expr} (h : FailsJustIf P (e.evaluate row))
    (hf : ∃ t, f.evaluate row = .ok t) : FailsJustIf P ((Expr.or [e, f]).evaluate row) := by
  obtain ⟨u, hu⟩ := hf
  rw [evaluate_or, Expr.connect_cons, Expr.connect_cons, Expr.connect_cons, hu]
  cases he : e.evaluate row with
  | error error => rwa [he] at h
  | ok t =>
    rw [he] at h
    cases h with
    | value hP _ => rcases t with _ | _ | _ <;> rcases u with _ | _ | _ <;> exact .value hP _

end Sql

/-! ### Values of the wrong kind -/

/-- Values of two kinds do not compare. -/
theorem Literal.compare?_eq_none {v w : Literal} (h : v.kind ≠ w.kind) : v.compare? w = none := by
  cases v <;> cases w <;> first | rfl | exact absurd rfl h

section

variable [Pattern.SizeTest] {row : Row} {column : String} {dialect : Dialect} {v : Literal}

/-- Comparing a column with a literal of another kind. -/
theorem compare_mismatch (hv : row column = some v) {w : Literal} (h : v.kind ≠ w.kind)
    (op : Comparison) : ∃ error, error.IsMismatch ∧
      (Expr.compare (.column column) op (.literal w)).evaluate row = .error error :=
  ⟨.incomparable v w, trivial, evaluate_compare_error (by rw [Expr.value, hv]) (by rw [Expr.value])
    (Literal.compare?_eq_none h)⟩

theorem Range.mismatch_expr {range : Range} (hvalid : range.fault? = none)
    (hv : row column = some v) (h : v.kind ≠ .numeric) :
    ∃ error, error.IsMismatch ∧ (range.expr column).evaluate row = .error error := by
  obtain ⟨hbound, -, -⟩ := Range.of_fault?_eq_none hvalid
  have hcompare : ∀ (n : Numeric) (op : Comparison), ∃ error, error.IsMismatch ∧
      (Expr.compare (.column column) op (numberExpr n)).evaluate row = .error error := by
    intro n op
    refine compare_mismatch hv (fun hkind => h ?_) op
    rw [hkind]
    cases n <;> rfl
  obtain ⟨min, max, minInclusive, maxInclusive⟩ := range
  rcases min with _ | min
  · rcases max with _ | max
    · simp at hbound
    · exact hcompare max _
  · obtain ⟨error, hmismatch, herror⟩ := hcompare min (if minInclusive then .ge else .gt)
    refine ⟨error, hmismatch, ?_⟩
    rw [Range.expr, evaluate_all]
    exact connect_of_error herror

theorem Parity.mismatch_expr (parity : Parity) (hv : row column = some v)
    (h : v.kind ≠ .numeric) :
    ∃ error, error.IsMismatch ∧ (parity.expr column).evaluate row = .error error := by
  have hdivisor : ¬(2 : Int64) = 0 := by decide
  have hremainder : remainderOf v 2 = .error (.notNumber v) := by
    cases v with
    | boolean b => rfl
    | text s => rfl
    | integer i => exact absurd rfl h
    | decimal d => exact absurd rfl h
  refine ⟨.notNumber v, trivial, ?_⟩
  simp [Parity.expr, Expr.evaluate, Expr.value, hdivisor, hv, hremainder, bind, Except.bind]

theorem Length.mismatch_expr {length : Length} (hvalid : length.fault? = none)
    (hv : row column = some v) (h : v.kind ≠ .text) :
    ∃ error, error.IsMismatch ∧ (length.expr column).evaluate row = .error error := by
  have hbound := Length.of_fault?_eq_none hvalid
  have hlength : lengthOf v = .error (.lengthOfNonText v) := by
    cases v with
    | text s => exact absurd rfl h
    | boolean b => rfl
    | integer i => rfl
    | decimal d => rfl
  refine ⟨.lengthOfNonText v, trivial, ?_⟩
  obtain ⟨min, max⟩ := length
  rcases min with _ | min <;> rcases max with _ | max
  · simp at hbound
  all_goals simp [Length.expr, Expr.evaluate, Expr.value, hv, hlength, bind, Except.bind]

theorem inList_mismatch {field : String} {values : List Literal}
    (hvalid : valuesFault? field values = none) (hv : row column = some v)
    (h : ¬∀ w ∈ values, v.kind = w.kind) : ∃ error, error.IsMismatch ∧
      (Expr.inList (.column column) values).evaluate row = .error error := by
  obtain ⟨hne, hall⟩ := valuesFault?_eq_none_iff.1 hvalid
  obtain ⟨first, rest, rfl⟩ := List.exists_cons_of_ne_nil hne
  -- The values are of one kind, so already the first one does not compare.
  have hfirst : v.kind ≠ first.kind := fun hkind =>
    h fun w hw => hkind.trans ((hall first List.mem_cons_self).2 w hw)
  refine ⟨.incomparable v first, trivial, ?_⟩
  simp [Expr.evaluate, Expr.value, hv, isAmong, compareValues, Literal.compare?_eq_none hfirst,
    bind, Except.bind]

theorem regexMatch_mismatch (hv : row column = some v) (h : v.kind ≠ .text) (pattern : String)
    (negated caseInsensitive : Bool) : ∃ error, error.IsMismatch ∧
      (Expr.regexMatch (.column column) pattern negated caseInsensitive).evaluate row =
        .error error := by
  refine ⟨.notText v, trivial, ?_⟩
  cases v with
  | text s => exact absurd rfl h
  | boolean b => simp [Expr.evaluate, Expr.value, hv, bind, Except.bind]
  | integer i => simp [Expr.evaluate, Expr.value, hv, bind, Except.bind]
  | decimal d => simp [Expr.evaluate, Expr.value, hv, bind, Except.bind]

/-- **What a kind asks of a value that it does not take** is an error. -/
theorem RuleKind.mismatch_columnExpr {kind : RuleKind} {target : List String} {allowNull : Bool}
    (hvalid : kind.fault? target allowNull = none) {e : Expr}
    (h : kind.columnExpr dialect column = .ok (some e)) (hv : row column = some v)
    (hnot : ¬kind.Takes v) : ∃ error, error.IsMismatch ∧ e.evaluate row = .error error := by
  rcases kind with range | parity | presence | length | values | format | requirement
  · cases h
    exact Range.mismatch_expr hvalid hv hnot
  · cases h
    exact parity.mismatch_expr hv hnot
  · cases presence with
    | text =>
      cases h
      exact compare_mismatch hv (w := blankText) hnot _
    | nonText => cases h
  · cases h
    exact Length.mismatch_expr hvalid hv hnot
  · cases h
    exact inList_mismatch hvalid hv hnot
  · rw [RuleKind.columnExpr] at h
    obtain ⟨body, hformat, h⟩ := exists_of_bind_eq_ok h
    cases h
    rw [Format.expr_eq_ok hformat]
    cases format.mode
    · exact regexMatch_mismatch hv hnot _ _ _
    · exact regexMatch_mismatch hv hnot _ _ _
  · cases h

/-! ### One column -/

namespace RuleSpec

/-- A column holds a value that the kind of the rule does not take. -/
def StumblesAt (spec : RuleSpec) (row : Row) (column : String) : Prop :=
  ∃ v, row column = some v ∧ ¬spec.kind.Takes v

/-- A column is satisfied: it holds a value that is taken and admitted. -/
def SatisfiedAt (spec : RuleSpec) (row : Row) (column : String) : Prop :=
  ∃ v, row column = some v ∧ spec.kind.Takes v ∧ spec.Admits v

/-- **A row trips over columns** if one of them holds a value that is not taken, and every
column before it is missing or satisfied. -/
def TripsOver (spec : RuleSpec) (row : Row) (columns : List String) : Prop :=
  ∃ before column behind, columns = before ++ column :: behind ∧ spec.StumblesAt row column ∧
    ∀ earlier ∈ before, row earlier = none ∨ spec.SatisfiedAt row earlier

variable {spec : RuleSpec} {columns : List String}

theorem not_tripsOver_nil : ¬spec.TripsOver row [] := by
  rintro ⟨before, column, behind, hsplit, -⟩
  exact List.append_ne_nil_of_right_ne_nil _ (List.cons_ne_nil _ _) hsplit.symm

/-- The first column decides unless it is missing or satisfied. -/
theorem tripsOver_cons : spec.TripsOver row (column :: columns) ↔
    spec.StumblesAt row column ∨
      (row column = none ∨ spec.SatisfiedAt row column) ∧ spec.TripsOver row columns := by
  constructor
  · rintro ⟨before, stumble, behind, hsplit, hstumbles, hbefore⟩
    cases before with
    | nil =>
      cases hsplit
      exact Or.inl hstumbles
    | cons earlier before =>
      cases hsplit
      rw [List.forall_mem_cons] at hbefore
      exact Or.inr ⟨hbefore.1, before, stumble, behind, rfl, hstumbles, hbefore.2⟩
  · rintro (hstumbles | ⟨hpasses, before, stumble, behind, rfl, hstumbles, hbefore⟩)
    · exact ⟨[], column, columns, rfl, hstumbles, nofun⟩
    · exact ⟨column :: before, stumble, behind, rfl, hstumbles,
        List.forall_mem_cons.2 ⟨hpasses, hbefore⟩⟩

theorem mismatch_columnExpr (hvalid : spec.fault? = none) {e : Expr}
    (h : spec.columnExpr dialect column = .ok (some e)) (hstumbles : spec.StumblesAt row column) :
    ∃ error, error.IsMismatch ∧ e.evaluate row = .error error := by
  obtain ⟨v, hv, hnot⟩ := hstumbles
  obtain ⟨body, hbody, he⟩ := RuleSpec.columnExpr_eq_ok h
  obtain ⟨body, rfl, rfl⟩ := Option.map_eq_some_iff.1 he.symm
  obtain ⟨error, hmismatch, herror⟩ :=
    RuleKind.mismatch_columnExpr (RuleSpec.fault?_eq_none_iff.1 hvalid).2.2.2 hbody hv hnot
  refine ⟨error, hmismatch, ?_⟩
  split_ifs
  · show (Expr.or [body, _]).evaluate row = .error error
    rw [evaluate_or]
    exact connect_of_error herror
  · exact herror

/-! ### All columns -/

/-- **Walking over the columns** fails just if the row trips over them. -/
theorem failsJustIf_connect (hvalid : spec.fault? = none) {es : List Expr}
    (hes : List.Forall₂ (fun column e => spec.columnExpr dialect column = .ok (some e)) columns es)
    (hfinite : ∀ column ∈ columns, ∀ v, row column = some v → v.isFinite = true) (sofar : Truth) :
    FailsJustIf (spec.TripsOver row columns) (Expr.connect row true sofar es) := by
  induction hes generalizing sofar with
  | nil => exact .value not_tripsOver_nil _
  | @cons column e columns es he _ ih =>
    rw [List.forall_mem_cons] at hfinite
    by_cases hstumbles : spec.StumblesAt row column
    · obtain ⟨error, hmismatch, herror⟩ := mismatch_columnExpr hvalid he hstumbles
      rw [connect_of_error herror]
      exact .mismatch (tripsOver_cons.2 (Or.inl hstumbles)) hmismatch
    have htakes : ∀ v, row column = some v → spec.kind.Takes v :=
      fun v hv => not_not.1 fun hnot => hstumbles ⟨v, hv, hnot⟩
    have hmore : (row column = none ∨ spec.SatisfiedAt row column) → ∀ sofar,
        FailsJustIf (spec.TripsOver row (column :: columns)) (Expr.connect row true sofar es) :=
      fun hpasses sofar => (ih hfinite.2 sofar).congr
        ⟨fun h => tripsOver_cons.2 (Or.inr ⟨hpasses, h⟩),
          fun h => ((tripsOver_cons.1 h).resolve_left hstumbles).2⟩
    rcases RuleSpec.yields_columnExpr hvalid he fun v hv => ⟨hfinite.1 v hv, htakes v hv⟩ with
      hyields | ⟨pattern, error, herror⟩
    · rw [Expr.connect_cons, hyields]
      rcases hjudge : judge spec.Admits (row column) with _ | _ | _
      · exact hmore (Or.inl (judge_eq_none.1 hjudge)) none
      · -- A value that is refused stops the walk before anything is an error.
        obtain ⟨v, hv, hrefused⟩ := judge_eq_false.1 hjudge
        refine .value (fun h => ?_) _
        rcases ((tripsOver_cons.1 h).resolve_left hstumbles).1 with hnone | ⟨w, hw, -, hadmits⟩
        · cases hv.symm.trans hnone
        · cases hv.symm.trans hw
          exact hrefused hadmits
      · obtain ⟨v, hv, hadmits⟩ := judge_eq_true.1 hjudge
        exact hmore (Or.inr ⟨v, hv, htakes v hv, hadmits⟩) sofar
    · rw [connect_of_error herror]
      exact .pattern pattern error

/-- A row on which the evaluator gets to a value that it cannot use. -/
def FailsOn (spec : RuleSpec) (row : Row) : Prop :=
  (spec.allowNull = false → ∀ column ∈ spec.target, row column ≠ none) ∧
    spec.TripsOver row spec.target

end RuleSpec

/-! ### All rules -/

variable {rule : Rule} {e : Expr}

/-- A rule that does not allow missing values refuses a row with one outright. -/
theorem Rule.evaluate_of_missing (hkind : ∀ requirement, rule.kind ≠ .conditional requirement)
    (h : rule.predicate dialect = .ok e) (hnull : rule.spec.allowNull = false)
    (hmissing : ∃ column ∈ rule.target, row column = none) : e.evaluate row = .ok (some false) := by
  obtain ⟨requirement, hconditional, -⟩ | ⟨-, -, rfl⟩ | ⟨-, es, -, rfl⟩ :=
    RuleSpec.predicate_cases h rule.valid
  · exact absurd hconditional (hkind requirement)
  · rw [evaluate_all, ← List.append_nil (notNulls _)]
    exact connect_notNulls_missing hmissing _ _
  · rw [hnull, if_neg Bool.false_ne_true, evaluate_all]
    exact connect_notNulls_missing hmissing _ _

theorem Rule.failsJustIf_evaluate (hkind : ∀ requirement, rule.kind ≠ .conditional requirement)
    (h : rule.predicate dialect = .ok e)
    (hfinite : ∀ column ∈ rule.target, ∀ v, row column = some v → v.isFinite = true) :
    FailsJustIf (rule.spec.FailsOn row) (e.evaluate row) := by
  by_cases hrefused : rule.spec.allowNull = false ∧ ∃ column ∈ rule.target, row column = none
  · -- The row is refused before a value is looked at.
    obtain ⟨hnull, column, hcolumn, hnone⟩ := hrefused
    rw [Rule.evaluate_of_missing hkind h hnull ⟨column, hcolumn, hnone⟩]
    exact .value (fun hfails => hfails.1 hnull column hcolumn hnone) _
  have hpresent : rule.spec.allowNull = false → ∀ column ∈ rule.spec.target, row column ≠ none :=
    fun hnull column hcolumn hnone => hrefused ⟨hnull, column, hcolumn, hnone⟩
  have hfails : rule.spec.TripsOver row rule.spec.target ↔ rule.spec.FailsOn row :=
    ⟨fun htrips => ⟨hpresent, htrips⟩, fun hfails => hfails.2⟩
  obtain ⟨requirement, hconditional, -⟩ | ⟨hpresence, hnull, rfl⟩ | ⟨-, es, hes, rfl⟩ :=
    RuleSpec.predicate_cases h rule.valid
  · exact absurd hconditional (hkind requirement)
  · rw [evaluate_all, ← List.append_nil (notNulls _), connect_notNulls (hpresent hnull)]
    refine .value ?_ _
    rintro ⟨-, before, column, behind, -, ⟨v, -, hnot⟩, -⟩
    rw [hpresence] at hnot
    exact hnot trivial
  have hcolumns : FailsJustIf (rule.spec.FailsOn row) ((Expr.all es).evaluate row) := by
    rw [evaluate_all]
    exact (RuleSpec.failsJustIf_connect rule.valid hes hfinite _).congr hfails
  cases hnull : rule.spec.allowNull with
  | true =>
    refine hcolumns.or_pair ?_
    rw [evaluate_all]
    exact exists_connect_isNulls _ _
  | false =>
    show FailsJustIf _ ((Expr.all (notNulls _ ++ [Expr.all es])).evaluate row)
    rw [evaluate_all, connect_notNulls (hpresent hnull), ← evaluate_all]
    exact hcolumns

/-- **Which rows are errors.** Evaluating a rule that is not conditional on a row of finite
values never overflows, and unless a pattern does not compile it is an error just if some column
holds a value that is not taken while every column before it is missing or satisfied, and no
column is missing at all where that is not allowed. There a row with a missing value is refused,
whatever its other values are. -/
theorem Rule.evaluate_error (hkind : ∀ requirement, rule.kind ≠ .conditional requirement)
    (h : rule.predicate dialect = .ok e)
    (hfinite : ∀ column ∈ rule.target, ∀ v, row column = some v → v.isFinite = true) :
    e.evaluate row ≠ .error .quotientOverflow ∧
      ((∃ pattern error, e.evaluate row = .error (.invalidPattern pattern error)) ∨
        ((∃ error, e.evaluate row = .error error) ↔
          (rule.spec.allowNull = false → ∀ column ∈ rule.target, row column ≠ none) ∧
            rule.spec.TripsOver row rule.target)) ∧
      (rule.spec.allowNull = false → (∃ column ∈ rule.target, row column = none) →
        e.evaluate row = .ok (some false)) := by
  have hfails := Rule.failsJustIf_evaluate hkind h hfinite
  exact ⟨hfails.ne_quotientOverflow, hfails.exists_error_iff, Rule.evaluate_of_missing hkind h⟩

end

/-- A row that says in words when the shop closes. -/
def closesLate : Row := fun column =>
  if column = "opens" then some (.integer 9) else some (.text "late")

/-- On that row the opening hours are an error. -/
theorem openingHours_error : ∃ e, openingHours.predicate .postgres = .ok e ∧
    openingHours.spec.TripsOver closesLate openingHours.target ∧
    ∃ error, e.evaluate closesLate = .error error := by
  have hkind : ∀ requirement, openingHours.kind ≠ .conditional requirement := nofun
  have hpredicate : openingHours.predicate .postgres = .ok _ := rfl
  have hfinite : ∀ column ∈ openingHours.target, ∀ v, closesLate column = some v →
      v.isFinite = true := by
    intro column _ v hv
    unfold closesLate at hv
    split_ifs at hv <;> cases hv <;> rfl
  have htrips : openingHours.spec.TripsOver closesLate openingHours.target := by
    refine ⟨["opens"], "closes", [], rfl, ⟨.text "late", rfl, nofun⟩, ?_⟩
    rw [List.forall_mem_singleton]
    refine Or.inr ⟨.integer 9, rfl, rfl, Or.inl ⟨?_, ?_⟩⟩
    · rintro min hmin
      cases hmin
      exact ⟨.gt, rfl, rfl⟩
    · rintro max hmax
      cases hmax
      exact ⟨.lt, rfl, rfl⟩
  refine ⟨_, hpredicate, htrips, ?_⟩
  rcases (Rule.evaluate_error hkind hpredicate hfinite).2.1 with ⟨pattern, error, herror⟩ | hiff
  · exact ⟨_, herror⟩
  · exact hiff.2 ⟨nofun, htrips⟩

/-- A shop that opens at no hour of the day is refused before the other hour is looked at. -/
example : (openingHours.predicate .postgres).toOption.map (fun e => e.evaluate fun column =>
    if column = "opens" then some (.integer 30) else some (.text "late")) =
      some (.ok (some false)) := by
  decide +kernel

end ColumnChecks
