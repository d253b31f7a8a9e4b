import ColumnChecks.Proofs.Rule.Shape

/-!
# What predicates are made of

The predicate of a rule is put together from a few kinds of tests, each about one
column (`ColumnChecks.Sql.Expr.IsCheck`): whether there is a value, a comparison with a
value that is written down, the parity, the length, a list of values, a pattern. Above
them stand conjunctions and disjunctions of at least two operands, and the negated
trigger of a conditional rule, which counts as false when it is unknown.

**Every predicate of a valid rule is of this form**
(`ColumnChecks.RuleSpec.isCheck_predicate`), and whatever is to be proved of predicates
can be proved by induction on it.
-/

namespace ColumnChecks

open Sql

/-! ### The form of a predicate -/

/-- **A predicate about some columns.** -/
inductive Sql.Expr.IsCheck (columns : List String) : Expr → Prop where
  | isNull {column : String} (hcolumn : column ∈ columns) (negated : Bool) :
    IsCheck columns (.isNull (.column column) negated)
  | compare {column : String} (hcolumn : column ∈ columns) (op : Comparison) {value : Literal}
    (hfinite : value.isFinite = true) :
    IsCheck columns (.compare (.column column) op (.literal value))
  | parity {column : String} (hcolumn : column ∈ columns) (op : Comparison) :
    IsCheck columns (.compare (.modulo (.column column) 2) op (.literal (.integer 0)))
  | length {column : String} (hcolumn : column ∈ columns) (op : Comparison) (bound : Int64) :
    IsCheck columns (.compare (.charLength (.column column)) op (.literal (.integer bound)))
  | lengthBetween {column : String} (hcolumn : column ∈ columns) (low high : Int64) :
    IsCheck columns (.between (.charLength (.column column)) (.integer low) (.integer high))
  | inList {column : String} (hcolumn : column ∈ columns) {values : List Literal}
    (hne : values ≠ []) (hfinite : ∀ v ∈ values, v.isFinite = true) :
    IsCheck columns (.inList (.column column) values)
  | regexMatch {column : String} (hcolumn : column ∈ columns) (pattern : String)
    (negated caseInsensitive : Bool) :
    IsCheck columns (.regexMatch (.column column) pattern negated caseInsensitive)
  /-- An unknown trigger does not hold. -/
  | untriggered {e : Expr} (h : IsCheck columns e) : IsCheck columns (.not (.coalesce e false))
  | and {es : List Expr} (hlength : 2 ≤ es.length) (h : ∀ e ∈ es, IsCheck columns e) :
    IsCheck columns (.and es)
  | or {es : List Expr} (hlength : 2 ≤ es.length) (h : ∀ e ∈ es, IsCheck columns e) :
    IsCheck columns (.or es)

/-- The columns that a rule is about: its target, and those of its trigger. -/
def RuleSpec.columns (spec : RuleSpec) : List String :=
  spec.target ++ match spec.kind with
    | .conditional requirement => requirement.when.map Condition.column
    | _ => []

namespace Sql.Expr.IsCheck

variable {columns : List String} {column : String}

/-- A conjunction of one operand is that operand, so that it is enough for there to be some. -/
theorem all {es : List Expr} (hne : es ≠ []) (h : ∀ e ∈ es, IsCheck columns e) :
    IsCheck columns (Expr.all es) := by
  match es with
  | [] => exact absurd rfl hne
  | [e] => exact h e List.mem_cons_self
  | _ :: _ :: es => exact .and (by simp) h

/-- Two operands are joined by a disjunction of their own. -/
theorem any_pair {e f : Expr} (he : IsCheck columns e) (hf : IsCheck columns f) :
    IsCheck columns (Expr.any [e, f]) :=
  .or (Nat.le_refl 2) (by simp [he, hf])

theorem or_pair {e f : Expr} (he : IsCheck columns e) (hf : IsCheck columns f) :
    IsCheck columns (.or [e, f]) :=
  .or (Nat.le_refl 2) (by simp [he, hf])

/-- The values of a rule that makes sense are finite, and there is one. -/
theorem of_values {field : String} (hcolumn : column ∈ columns) {values : List Literal}
    (h : valuesFault? field values = none) : IsCheck columns (.inList (.column column) values) := by
  obtain ⟨hne, hall⟩ := valuesFault?_eq_none_iff.1 h
  exact .inList hcolumn hne fun v hv => (hall v hv).1

end Sql.Expr.IsCheck

open Sql.Expr (IsCheck)

variable {columns : List String} {column : String} {dialect : Dialect}

/-! ### Conditional rules -/

/-- A condition of a trigger tests its own column, which need not be one of the target. -/
theorem Condition.isCheck_expr {condition : Condition} {target : List String}
    (hcolumn : condition.column ∈ columns) (h : condition.fault? target = none) :
    IsCheck columns condition.expr := by
  obtain ⟨-, -, hvalues⟩ := Condition.of_fault?_eq_none h
  cases condition with
  | compare column operator value =>
    have hfinite := (valuesFault?_eq_none_iff.1 (hvalues _ rfl)).2 value List.mem_cons_self
    exact .compare hcolumn operator hfinite.1
  | isIn column values => exact .of_values hcolumn (hvalues values rfl)
  | isNull column => exact .isNull hcolumn false
  | isNotNull column => exact .isNull hcolumn true

/-- A column that is required has a value, and is not blank if that is asked for. -/
theorem isCheck_requiredExprs {rejectBlank : Bool} (hcolumn : column ∈ columns) {e : Expr}
    (h : e ∈ requiredExprs rejectBlank column) : IsCheck columns e := by
  rcases List.mem_cons.1 h with rfl | h
  · exact .isNull hcolumn true
  · split_ifs at h
    · rw [List.mem_singleton.1 h]
      exact .compare hcolumn _ rfl
    · cases h

/-- **A conditional rule** has its trigger negated, beside what is required. -/
theorem Requirement.isCheck_expr {requirement : Requirement} {target : List String}
    (hne : target ≠ []) (htarget : target ⊆ columns)
    (hwhen : requirement.when.map Condition.column ⊆ columns)
    (h : requirement.fault? target = none) : IsCheck columns (requirement.expr target) := by
  obtain ⟨hconditions, hall⟩ := Requirement.fault?_eq_none_iff.1 h
  refine .or_pair (.untriggered (.all ?_ fun e he => ?_)) (.all ?_ fun e he => ?_)
  · exact fun hnil => hconditions (List.map_eq_nil_iff.1 hnil)
  · obtain ⟨c, hc, rfl⟩ := List.mem_map.1 he
    exact Condition.isCheck_expr (hwhen (List.mem_map_of_mem hc)) (hall c hc)
  · obtain ⟨column, columns, rfl⟩ := List.exists_cons_of_ne_nil hne
    exact List.cons_ne_nil _ _
  · obtain ⟨column, hcolumn, he⟩ := List.mem_flatMap.1 he
    exact isCheck_requiredExprs (htarget hcolumn) he

/-! ### One column -/

/-- Every column of the target may be tested for null. -/
theorem isCheck_nullTests {target : List String} (htarget : target ⊆ columns) (negated : Bool) :
    ∀ e ∈ target.map fun column => Expr.isNull (.column column) negated, IsCheck columns e := by
  intro e he
  obtain ⟨column, hcolumn, rfl⟩ := List.mem_map.1 he
  exact .isNull (htarget hcolumn) negated

/-- A finite number is a finite value. -/
theorem Numeric.isFinite_toLiteral {n : Numeric} (h : n.isFinite = true) :
    n.toLiteral.isFinite = true := by
  cases n with
  | integer i => rfl
  | decimal d => exact h

/-- A range tests one bound or both. -/
theorem Range.isCheck_expr {range : Range} (hcolumn : column ∈ columns)
    (h : range.fault? = none) : IsCheck columns (range.expr column) := by
  obtain ⟨hsome, hmin, hmax⟩ := Range.of_fault?_eq_none h
  refine .all ?_ fun e he => ?_
  · intro hnil
    obtain ⟨hlower, hupper⟩ := List.append_eq_nil_iff.1 hnil
    rw [Option.toList_eq_nil_iff, Option.map_eq_none_iff] at hlower hupper
    exact hsome.elim (· hlower) (· hupper)
  · rcases List.mem_append.1 he with he | he
    · obtain ⟨min, hm, rfl⟩ := Option.map_eq_some_iff.1 (Option.mem_toList.1 he)
      exact .compare hcolumn _ (Numeric.isFinite_toLiteral (hmin min hm))
    · obtain ⟨max, hm, rfl⟩ := Option.map_eq_some_iff.1 (Option.mem_toList.1 he)
      exact .compare hcolumn _ (Numeric.isFinite_toLiteral (hmax max hm))

/-- Two limits of a length make one test, a single one a comparison. -/
theorem Length.isCheck_expr {length : Length} (hcolumn : column ∈ columns)
    (h : length.fault? = none) : IsCheck columns (length.expr column) := by
  have hbound := Length.of_fault?_eq_none h
  obtain ⟨min, max⟩ := length
  rcases min with _ | min
  · rcases max with _ | max
    · simp at hbound
    · exact .length hcolumn .le max
  · rcases max with _ | max
    · exact .length hcolumn .ge min
    · exact .lengthBetween hcolumn min max

variable [Pattern.SizeTest]

/-- **What a kind asks of a column** is one of the tests, whatever the kind. -/
theorem RuleKind.isCheck_columnExpr {kind : RuleKind} {target : List String} {allowNull : Bool}
    (hvalid : kind.fault? target allowNull = none) (hcolumn : column ∈ columns) {e : Expr}
    (h : kind.columnExpr dialect column = .ok (some e)) : IsCheck columns e := by
  rcases kind with range | parity | presence | length | values | format | requirement
  · cases h
    exact Range.isCheck_expr hcolumn hvalid
  · cases h
    exact .parity hcolumn _
  · cases presence with
    | text =>
      cases h
      exact .compare hcolumn _ rfl
    | nonText => cases h
  · cases h
    exact Length.isCheck_expr hcolumn hvalid
  · cases h
    exact .of_values hcolumn hvalid
  · rw [RuleKind.columnExpr] at h
    obtain ⟨body, hf, h⟩ := exists_of_bind_eq_ok h
    cases h
    rw [Format.expr_eq_ok hf]
    cases format.mode
    · exact .regexMatch hcolumn _ _ _
    · exact .regexMatch hcolumn _ _ _
  · cases h

/-- Where blank is allowed, the test for it is added. -/
theorem RuleSpec.isCheck_columnExpr {spec : RuleSpec} (hvalid : spec.fault? = none)
    (hcolumn : column ∈ columns) {e : Expr}
    (h : spec.columnExpr dialect column = .ok (some e)) : IsCheck columns e := by
  obtain ⟨body, hbody, he⟩ := RuleSpec.columnExpr_eq_ok h
  obtain ⟨body, rfl, rfl⟩ := Option.map_eq_some_iff.1 he.symm
  have hcheck : IsCheck columns body :=
    RuleKind.isCheck_columnExpr (RuleSpec.fault?_eq_none_iff.1 hvalid).2.2.2 hcolumn hbody
  split_ifs
  · exact .any_pair hcheck (.compare hcolumn _ rfl)
  · exact hcheck

/-- All columns of the target are tested alike. -/
theorem RuleSpec.isCheck_columnExprs {spec : RuleSpec} (hvalid : spec.fault? = none)
    {target : List String} (htarget : target ⊆ columns) {es : List Expr}
    (h : List.Forall₂ (fun column e => spec.columnExpr dialect column = .ok (some e)) target es) :
    ∀ e ∈ es, IsCheck columns e := by
  induction h with
  | nil => exact nofun
  | cons hbody _ ih =>
    rw [List.cons_subset] at htarget
    rw [List.forall_mem_cons]
    exact ⟨RuleSpec.isCheck_columnExpr hvalid htarget.1 hbody, ih htarget.2⟩

/-! ### All rules -/

/-- **Every predicate of a valid rule is put together from tests of its columns.** -/
theorem RuleSpec.isCheck_predicate {spec : RuleSpec} {e : Expr} (hvalid : spec.fault? = none)
    (h : spec.predicate dialect = .ok e) : IsCheck spec.columns e := by
  obtain ⟨hfault, -, -, hkindFault⟩ := RuleSpec.fault?_eq_none_iff.1 hvalid
  obtain ⟨hne, -, -⟩ := targetFault?_eq_none_iff.1 hfault
  have htarget : spec.target ⊆ spec.columns := List.subset_append_left _ _
  have htests : ∀ negated : Bool,
      (spec.target.map fun column => Expr.isNull (.column column) negated) ≠ [] :=
    fun _ hnil => hne (List.map_eq_nil_iff.1 hnil)
  obtain ⟨requirement, hkind, rfl⟩ | ⟨-, -, rfl⟩ | ⟨-, es, hes, rfl⟩ :=
    RuleSpec.predicate_cases h hvalid
  · have hwhen : requirement.when.map Condition.column ⊆ spec.columns := by
      rw [RuleSpec.columns, hkind]
      exact List.subset_append_right _ _
    rw [hkind, RuleKind.fault?] at hkindFault
    split_ifs at hkindFault
    exact Requirement.isCheck_expr hne htarget hwhen hkindFault
  · exact .all (htests true) (isCheck_nullTests htarget true)
  · have hbodies := RuleSpec.isCheck_columnExprs hvalid htarget hes
    have hnonempty : es ≠ [] := by
      rintro rfl
      exact hne (List.forall₂_nil_right_iff.1 hes)
    split_ifs
    · exact .or_pair (.all hnonempty hbodies)
        (.all (htests false) (isCheck_nullTests htarget false))
    · refine .all (List.append_ne_nil_of_left_ne_nil (htests true) _) fun e he => ?_
      rcases List.mem_append.1 he with he | he
      · exact isCheck_nullTests htarget true e he
      · rw [List.mem_singleton.1 he]
        exact .all hnonempty hbodies

end ColumnChecks
