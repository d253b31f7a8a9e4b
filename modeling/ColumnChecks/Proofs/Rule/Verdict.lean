import ColumnChecks.Rule.Builder
import ColumnChecks.Proofs.Rule.Shape
import ColumnChecks.Proofs.Sql.Judging

/-!
# Predicates say what rules mean

A CHECK constraint rejects a row only when its predicate is false, so a predicate
that is unknown where it should be false lets the row through. This file proves
that none is: on a row that suits the rule, the predicate has the truth value of
`ColumnChecks.RuleSpec.Verdict`
(`ColumnChecks.Rule.evaluate_predicate`), whatever the number of columns and
whichever operand the evaluator stops at. What can still go wrong is a pattern
that is too large once it is wrapped in anchors; then there is an error, and no
truth value at all.

The proof goes up the predicate: the expression of a kind on a column, the same
with blank beside it, and the three shapes that put columns together. Each of them
is a join of truth values, and what is left to say is which operands decide it.
-/

namespace ColumnChecks

open Sql

variable {row : Row} {column : String} {dialect : Dialect}

/-! ### The judgments of a conditional rule -/

/-- The judgment of a trigger condition. -/
noncomputable def Condition.judgment (row : Row) : Condition → Truth
  | .compare column op w => judge (fun v => v.Relates op w) (row column)
  | .isIn column values => judge (fun v => ∃ w ∈ values, v.Relates .eq w) (row column)
  | .isNull column => some ((row column).isNone != false)
  | .isNotNull column => some ((row column).isNone != true)

theorem Condition.judgment_eq_true {c : Condition} :
    c.judgment row = some true ↔ c.Holds row := by
  cases c with
  | compare column op w => exact judge_eq_true
  | isIn column values => exact judge_eq_true
  | isNull column => cases h : row column <;> simp [Condition.judgment, Condition.Holds, h]
  | isNotNull column => cases h : row column <;> simp [Condition.judgment, Condition.Holds, h]

/-- The judgments that a required column gets. -/
noncomputable def Requirement.judgments (requirement : Requirement) (row : Row)
    (column : String) : List Truth :=
  some ((row column).isNone != true) ::
    if requirement.rejectBlank then [judge (· ≠ blankText) (row column)] else []

theorem Requirement.false_mem_judgments {requirement : Requirement} :
    some false ∈ requirement.judgments row column ↔ requirement.Misses row column := by
  unfold Requirement.judgments Requirement.Misses
  cases h : row column with
  | none => simp
  | some v => cases requirement.rejectBlank <;> simp [judge]

/-- A judgment that is unknown comes with one that is false. -/
theorem Requirement.misses_of_none_mem {requirement : Requirement}
    (h : none ∈ requirement.judgments row column) : requirement.Misses row column := by
  unfold Requirement.judgments at h
  refine Or.inl ?_
  cases hv : row column with
  | none => rfl
  | some v => cases hb : requirement.rejectBlank <;> simp [hv, hb, judge] at h

/-! ### The expression of one column -/

section

variable [Pattern.SizeTest]

theorem Range.yields_expr {range : Range} (hvalid : range.fault? = none)
    (hv : ∀ v, row column = some v → v.isFinite = true ∧ v.kind = .numeric) :
    Expr.Yields row (range.expr column) (judge range.Admits (row column)) := by
  have hkind : ∀ n : Numeric, n.toLiteral.kind = .numeric := fun n => by cases n <;> rfl
  have hfinite : ∀ n : Numeric, n.isFinite = true → n.toLiteral.isFinite = true :=
    fun n h => by cases n <;> exact h
  obtain ⟨hbound, hmin, hmax⟩ := Range.of_fault?_eq_none hvalid
  have hcompare : ∀ (n : Numeric) (op : Comparison), n.isFinite = true →
      Expr.Yields row (.compare (.column column) op (numberExpr n))
        (judge (fun v => v.Relates op n.toLiteral) (row column)) := fun n op hn =>
    yields_compare (hfinite n hn) fun v h => ⟨(hv v h).1, (hv v h).2.trans (hkind n).symm⟩
  obtain ⟨min, max, minInclusive, maxInclusive⟩ := range
  rcases min with _ | min <;> rcases max with _ | max
  · simp at hbound
  · rw [judge_congr (Q := _) fun w _ => ?_]
    · exact hcompare max _ (hmax max rfl)
    · simp [Range.Admits]
  · rw [judge_congr (Q := _) fun w _ => ?_]
    · exact hcompare min _ (hmin min rfl)
    · simp [Range.Admits]
  · rw [judge_congr (Q := _) fun w _ => ?_, ← joinTruths_judge_and]
    · exact Expr.Yields.and (.cons (hcompare min _ (hmin min rfl))
        (.cons (hcompare max _ (hmax max rfl)) .nil))
    · simp [Range.Admits]

theorem Format.yields_expr {format : Format} {e : Expr}
    (h : format.expr column dialect = .ok e) (hv : ∀ v, row column = some v → v.kind = .text) :
    Expr.Yields row e (judge format.Admits (row column)) := by
  rw [Format.expr_eq_ok h]
  cases hm : format.mode with
  | accepts =>
    rw [judge_congr (Q := _) fun w _ => ?_]
    · exact yields_regexMatch hv
    · simp [Format.Admits, hm]
  | rejects =>
    rw [judge_congr (Q := _) fun w _ => ?_]
    · exact yields_regexMatch hv
    · simp [Format.Admits, hm]

/-- **What a kind asks of a column** is true just of the values that it admits. -/
theorem RuleKind.yields_columnExpr {kind : RuleKind} {target : List String} {allowNull : Bool}
    (hvalid : kind.fault? target allowNull = none) {e : Expr}
    (h : kind.columnExpr dialect column = .ok (some e))
    (hv : ∀ v, row column = some v → v.isFinite = true ∧ kind.Takes v) :
    Expr.Yields row e (judge kind.Admits (row column)) := by
  rcases kind with r | p | t | l | vs | f | r
  · cases h
    exact Range.yields_expr hvalid hv
  · cases h
    exact yields_parity p hv
  · cases t with
    | text =>
      cases h
      exact yields_ne_blank fun v h => (hv v h).2
    | nonText => cases h
  · cases h
    exact yields_length (Length.of_fault?_eq_none hvalid) fun v h => (hv v h).2
  · cases h
    exact yields_inList (fun w hw => ((valuesFault?_eq_none_iff.1 hvalid).2 w hw).1) hv
  · rw [RuleKind.columnExpr] at h
    obtain ⟨e', hf, h⟩ := exists_of_bind_eq_ok h
    cases h
    exact Format.yields_expr hf fun v h => (hv v h).2
  · cases h

/-- Where blank may be allowed, the values are texts. -/
theorem RuleKind.kind_eq_text {kind : RuleKind} {target : List String} {allowNull : Bool}
    (hvalid : kind.fault? target allowNull = none) (h : kind.isTextValued = true) {v : Literal}
    (hv : kind.Takes v) : v.kind = .text := by
  rcases kind with r | p | t | l | vs | f | r
  · cases h
  · cases h
  · cases h
  · exact hv
  · obtain ⟨w, hw⟩ := List.exists_mem_of_ne_nil vs (valuesFault?_eq_none_iff.1 hvalid).1
    rw [hv w hw]
    have htext : w.isText = true := List.all_eq_true.1 h w hw
    cases w with
    | text s => rfl
    | boolean b => cases htext
    | integer i => cases htext
    | decimal d => cases htext
  · exact hv
  · cases h

/-- **What a rule asks of a column** is true just of the values that it admits. -/
theorem RuleSpec.yields_columnExpr {spec : RuleSpec} (hvalid : spec.fault? = none) {e : Expr}
    (h : spec.columnExpr dialect column = .ok (some e))
    (hv : ∀ v, row column = some v → v.isFinite = true ∧ spec.kind.Takes v) :
    Expr.Yields row e (judge spec.Admits (row column)) := by
  obtain ⟨-, -, hblank, hkind⟩ := RuleSpec.fault?_eq_none_iff.1 hvalid
  obtain ⟨body, hbody, hfound⟩ := RuleSpec.columnExpr_eq_ok h
  obtain ⟨b, rfl, hb⟩ := Option.map_eq_some_iff.1 hfound.symm
  have hyields := RuleKind.yields_columnExpr hkind hbody hv
  cases hallow : spec.allowBlank with
  | false =>
    rw [hallow, if_neg Bool.false_ne_true] at hb
    rw [← hb, judge_congr (Q := spec.kind.Admits) fun w _ => ?_]
    · exact hyields
    · simp [RuleSpec.Admits, hallow]
  | true =>
    rw [hallow, if_pos rfl] at hb
    have htext : ∀ v, row column = some v → v.kind = .text := fun v h =>
      RuleKind.kind_eq_text hkind (hblank hallow) (hv v h).2
    rw [← hb, judge_congr (Q := fun w => spec.kind.Admits w ∨ w = blankText) fun w _ => ?_,
      ← joinTruths_judge_or]
    · exact Expr.Yields.any (.cons hyields (.cons (yields_eq_blank htext) .nil))
    · simp [RuleSpec.Admits, hallow]

theorem RuleSpec.yields_columnExprs {spec : RuleSpec} (hvalid : spec.fault? = none)
    {columns : List String} {es : List Expr}
    (hes : List.Forall₂ (fun column e => spec.columnExpr dialect column = .ok (some e)) columns es)
    (hv : ∀ column ∈ columns, ∀ v, row column = some v → v.isFinite = true ∧ spec.kind.Takes v) :
    List.Forall₂ (Expr.Yields row) es
      (columns.map fun column => judge spec.Admits (row column)) := by
  induction hes with
  | nil => exact .nil
  | @cons column e columns es he _ ih =>
    refine .cons ?_ (ih fun c hc => hv c (List.mem_cons_of_mem _ hc))
    exact RuleSpec.yields_columnExpr hvalid he (hv column List.mem_cons_self)

/-! ### Columns with and without a value -/

theorem yields_isNull (negated : Bool) :
    Expr.Yields row (.isNull (.column column) negated) (some ((row column).isNone != negated)) :=
  .of_eq (evaluate_isNull_column column negated)

theorem yields_notNulls (target : List String) :
    List.Forall₂ (Expr.Yields row) (notNulls target)
      (target.map fun column => some ((row column).isNone != true)) := by
  rw [notNulls, List.forall₂_map_left_iff, List.forall₂_map_right_iff, List.forall₂_same]
  exact fun column _ => yields_isNull true

theorem yields_isNulls (target : List String) :
    List.Forall₂ (Expr.Yields row) (isNulls target)
      (target.map fun column => some ((row column).isNone != false)) := by
  rw [isNulls, List.forall₂_map_left_iff, List.forall₂_map_right_iff, List.forall₂_same]
  exact fun column _ => yields_isNull false

/-! ### The three shapes -/

/-- The verdict of a rule that does not allow NULL. -/
theorem RuleSpec.verdict_of_refusing {spec : RuleSpec} {t : Truth}
    (hkind : ∀ requirement, spec.kind ≠ .conditional requirement) (hnull : spec.allowNull = false)
    (hknown : t ≠ none)
    (htrue : t = some true ↔ ∀ column ∈ spec.target, ∃ v, row column = some v ∧ spec.Admits v) :
    spec.Verdict row t := by
  unfold RuleSpec.Verdict
  split
  · next requirement hk => exact absurd hk (hkind requirement)
  · rw [if_neg (by simp [hnull])]
    exact ⟨hknown, htrue⟩

/-- The verdict of a rule that allows NULL. -/
theorem RuleSpec.verdict_of_allowing {spec : RuleSpec} {t : Truth}
    (hkind : ∀ requirement, spec.kind ≠ .conditional requirement) (hnull : spec.allowNull = true)
    (htrue : t = some true ↔ (∀ column ∈ spec.target, row column = none) ∨
      ∀ column ∈ spec.target, ∃ v, row column = some v ∧ spec.Admits v)
    (hfalse : t = some false ↔
      ∃ column ∈ spec.target, ∃ v, row column = some v ∧ ¬spec.Admits v) :
    spec.Verdict row t := by
  unfold RuleSpec.Verdict
  split
  · next requirement hk => exact absurd hk (hkind requirement)
  · rw [if_pos hnull]
    exact ⟨htrue, hfalse⟩

/-- **Presence that is not about texts** only asks that there are values. -/
theorem RuleSpec.verdict_presence {spec : RuleSpec} (hkind : spec.kind = .presence .nonText)
    (hnull : spec.allowNull = false) :
    spec.Verdict row
      (joinTruths true (spec.target.map fun column => some ((row column).isNone != true))) := by
  have hadmits : ∀ v, spec.Admits v := fun v => Or.inl (by rw [hkind]; trivial)
  refine RuleSpec.verdict_of_refusing (by simp [hkind]) hnull ?_ ?_
  · rw [Ne, joinTruths_eq_none, not_and]
    intro _ hnone
    simp at hnone
  · rw [joinTruths_eq_neutral, List.forall_mem_map]
    refine forall₂_congr fun column _ => ?_
    cases row column <;> simp [hadmits]

/-- **No value is refused outright**: a column without one makes its `IS NOT NULL`
false, which decides over the unknown judgment of the column. -/
theorem RuleSpec.verdict_refuse {spec : RuleSpec}
    (hkind : ∀ requirement, spec.kind ≠ .conditional requirement)
    (hnull : spec.allowNull = false) :
    spec.Verdict row
      (joinTruths true ((spec.target.map fun column => some ((row column).isNone != true)) ++
        [joinTruths true (spec.target.map fun column => judge spec.Admits (row column))])) := by
  refine RuleSpec.verdict_of_refusing hkind hnull ?_ ?_
  · rw [Ne, joinTruths_eq_none]
    rintro ⟨hfalse, hnone⟩
    rw [List.mem_append, not_or] at hfalse
    have hjudge : none = joinTruths true (spec.target.map fun column =>
        judge spec.Admits (row column)) := by simpa using hnone
    obtain ⟨column, hcolumn, hmissing⟩ := List.mem_map.1 (joinTruths_eq_none.1 hjudge.symm).2
    rw [judge_eq_none] at hmissing
    refine hfalse.1 (List.mem_map.2 ⟨column, hcolumn, ?_⟩)
    rw [hmissing]
    rfl
  · rw [joinTruths_eq_neutral, List.forall_mem_append, List.forall_mem_map,
      List.forall_mem_singleton, joinTruths_eq_neutral, List.forall_mem_map]
    simp only [judge_eq_true]
    refine ⟨fun h => h.2, fun h => ⟨fun column hcolumn => ?_, h⟩⟩
    obtain ⟨v, hv, -⟩ := h column hcolumn
    rw [hv]
    rfl

/-- **All values or none**: a column that is not as it should be makes both
branches false. -/
theorem RuleSpec.verdict_allow {spec : RuleSpec}
    (hkind : ∀ requirement, spec.kind ≠ .conditional requirement)
    (hnull : spec.allowNull = true) :
    spec.Verdict row
      (joinTruths false
        [joinTruths true (spec.target.map fun column => judge spec.Admits (row column)),
          joinTruths true (spec.target.map fun column =>
            some ((row column).isNone != false))]) := by
  refine RuleSpec.verdict_of_allowing hkind hnull ?_ ?_
  · rw [show some true = some (!false) from rfl, joinTruths_eq_decided, List.mem_pair]
    rw [show some (!false) = some true from rfl, eq_comm, joinTruths_eq_neutral,
      eq_comm, joinTruths_eq_neutral, List.forall_mem_map, List.forall_mem_map, or_comm]
    simp only [judge_eq_true]
    refine or_congr_left (forall₂_congr fun column _ => ?_)
    cases row column <;> simp
  · rw [joinTruths_eq_neutral, List.forall_mem_cons, List.forall_mem_singleton,
      show some false = some (!true) from rfl, joinTruths_eq_decided, joinTruths_eq_decided,
      List.mem_map, List.mem_map]
    simp only [Bool.not_true, judge_eq_false]
    refine ⟨fun h => ?_, ?_⟩
    · obtain ⟨column, hcolumn, v, hv, hbad⟩ := h.1
      exact ⟨column, hcolumn, v, hv, hbad⟩
    · rintro ⟨column, hcolumn, v, hv, hbad⟩
      exact ⟨⟨column, hcolumn, v, hv, hbad⟩, column, hcolumn, by rw [hv]; rfl⟩

/-! ### Conditional rules -/

theorem Condition.yields_expr {c : Condition} {target : List String}
    (hvalid : c.fault? target = none)
    (hv : ∀ v, row c.column = some v → v.isFinite = true ∧ c.Takes v) :
    Expr.Yields row c.expr (c.judgment row) := by
  obtain ⟨-, -, hvalues⟩ := Condition.of_fault?_eq_none hvalid
  cases c with
  | compare column op w =>
    have hw := (valuesFault?_eq_none_iff.1 (hvalues [w] rfl)).2 w List.mem_cons_self
    exact yields_compare hw.1 hv
  | isIn column values =>
    have hw := (valuesFault?_eq_none_iff.1 (hvalues values rfl)).2
    exact yields_inList (fun w hmem => (hw w hmem).1) hv
  | isNull column => exact yields_isNull false
  | isNotNull column => exact yields_isNull true

theorem Requirement.yields_requiredExprs {requirement : Requirement} {target : List String}
    (hv : ∀ column ∈ target, ∀ v, row column = some v →
      requirement.rejectBlank = true → v.kind = .text) :
    List.Forall₂ (Expr.Yields row) (target.flatMap (requiredExprs requirement.rejectBlank))
      (target.flatMap (requirement.judgments row)) := by
  induction target with
  | nil => exact .nil
  | cons column columns ih =>
    rw [List.flatMap_cons, List.flatMap_cons]
    refine List.rel_append ?_ (ih fun c hc => hv c (List.mem_cons_of_mem _ hc))
    unfold requiredExprs Requirement.judgments
    refine .cons (yields_isNull true) ?_
    split_ifs with hblank
    · exact .cons (yields_ne_blank fun v h => hv column List.mem_cons_self v h hblank) .nil
    · exact .nil

/-- **An unknown trigger counts as false**, and a required column is never
unknown, so that neither branch can hide the other. -/
theorem RuleSpec.verdict_conditional {spec : RuleSpec} {requirement : Requirement}
    (hkind : spec.kind = .conditional requirement) :
    spec.Verdict row
      (joinTruths false
        [some (!(joinTruths true (requirement.when.map (Condition.judgment row))).getD false),
          joinTruths true (spec.target.flatMap (requirement.judgments row))]) := by
  have hmisses : joinTruths true (spec.target.flatMap (requirement.judgments row)) = some false ↔
      ∃ column ∈ spec.target, requirement.Misses row column := by
    rw [show some false = some (!true) from rfl, joinTruths_eq_decided, List.mem_flatMap]
    simp only [Bool.not_true, Requirement.false_mem_judgments]
  -- A judgment is unknown only for a value that is missing, and then another one is false.
  have hknown : joinTruths true (spec.target.flatMap (requirement.judgments row)) ≠ none := by
    intro hnone
    have hfalse := joinTruths_eq_none.1 hnone
    obtain ⟨column, hcolumn, hmem⟩ := List.mem_flatMap.1 hfalse.2
    exact hfalse.1 (joinTruths_eq_decided.1
      (hmisses.2 ⟨column, hcolumn, Requirement.misses_of_none_mem hmem⟩))
  have htrigger : some (!(joinTruths true
      (requirement.when.map (Condition.judgment row))).getD false) = some false ↔
      ∀ c ∈ requirement.when, c.Holds row := by
    rw [Option.some_inj, Bool.not_eq_false']
    trans joinTruths true (requirement.when.map (Condition.judgment row)) = some true
    · rcases joinTruths true (requirement.when.map (Condition.judgment row)) with _ | b <;> simp
    · rw [joinTruths_eq_neutral, List.forall_mem_map]
      exact forall₂_congr fun c _ => Condition.judgment_eq_true
  unfold RuleSpec.Verdict
  split
  · next requirement' hk =>
    cases hkind.symm.trans hk
    refine ⟨?_, ?_⟩
    · rw [Ne, joinTruths_eq_none]
      rintro ⟨-, hnone⟩
      rw [List.mem_pair] at hnone
      rcases hnone with hnone | hnone
      · cases hnone
      · exact hknown hnone.symm
    · rw [joinTruths_eq_neutral, List.forall_mem_cons, List.forall_mem_singleton, htrigger,
        hmisses]
  · next hk => exact absurd hkind (hk requirement)

/-! ### All rules -/

/-- **The truth value of a predicate is the verdict of its rule**, on every row
that suits the rule, unless a pattern does not compile. -/
theorem Rule.evaluate_predicate {rule : Rule} {dialect : Dialect} {e : Expr} {row : Row}
    (h : rule.predicate dialect = .ok e) (hrow : rule.spec.SuitedBy row) :
    (∃ t, e.evaluate row = .ok t ∧ rule.spec.Verdict row t) ∨
      ∃ pattern error, e.evaluate row = .error (.invalidPattern pattern error) := by
  obtain ⟨spec, hvalid⟩ := rule
  suffices hyields : ∃ t, Expr.Yields row e t ∧ spec.Verdict row t by
    obtain ⟨t, ht | herror, hverdict⟩ := hyields
    · exact Or.inl ⟨t, ht, hverdict⟩
    · exact Or.inr herror
  obtain ⟨requirement, hkind, rfl⟩ | ⟨hkind, hnull, rfl⟩ | ⟨hkind, es, hes, rfl⟩ :=
    RuleSpec.predicate_cases h hvalid
  · -- The trigger and the required columns are the two branches of a disjunction.
    refine ⟨_, ?_, RuleSpec.verdict_conditional hkind⟩
    have hfault := (RuleSpec.fault?_eq_none_iff.1 hvalid).2.2.2
    rw [hkind, RuleKind.fault?] at hfault
    split_ifs at hfault
    have hwhen := (Requirement.fault?_eq_none_iff.1 hfault).2
    have htriggers : List.Forall₂ (Expr.Yields row) (requirement.when.map Condition.expr)
        (requirement.when.map (Condition.judgment row)) := by
      rw [List.forall₂_map_left_iff, List.forall₂_map_right_iff, List.forall₂_same]
      exact fun c hc => Condition.yields_expr (hwhen c hc) (hrow.trigger requirement hkind c hc)
    have hrequired : List.Forall₂ (Expr.Yields row)
        (spec.target.flatMap (requiredExprs requirement.rejectBlank))
        (spec.target.flatMap (requirement.judgments row)) := by
      refine Requirement.yields_requiredExprs fun column hcolumn v hv hblank => ?_
      have htakes := (hrow.target column hcolumn v hv).2
      rw [hkind] at htakes
      exact htakes hblank
    exact .or (.cons ((Expr.Yields.all htriggers).coalesce false).not
      (.cons (.all hrequired) .nil))
  · exact ⟨_, .all (yields_notNulls _), RuleSpec.verdict_presence hkind hnull⟩
  · have hbodies := RuleSpec.yields_columnExprs hvalid hes hrow.target
    cases hnull : spec.allowNull with
    | false =>
      refine ⟨_, ?_, RuleSpec.verdict_refuse hkind hnull⟩
      exact .all (List.rel_append (yields_notNulls _) (.cons (.all hbodies) .nil))
    | true =>
      refine ⟨_, ?_, RuleSpec.verdict_allow hkind hnull⟩
      exact .or (.cons (.all hbodies) (.cons (.all (yields_isNulls _)) .nil))

end

/-- Opening hours: two columns that may both be missing. -/
def openingHours : Rule where
  spec := { RuleSpec.of (.range (.between (.integer 0) (.integer 24))) ["opens", "closes"] with
    allowNull := true }
  valid := by decide

/-- A row with one of the two. -/
def openOnly : Row := fun column => if column = "opens" then some (.integer 9) else none

/-- On a row that is only partly filled in, the opening hours have a verdict. -/
theorem openingHours_verdict : ∃ e, openingHours.predicate .postgres = .ok e ∧
    openingHours.spec.SuitedBy openOnly ∧
    ((∃ t, e.evaluate openOnly = .ok t ∧ openingHours.spec.Verdict openOnly t) ∨
      ∃ pattern error, e.evaluate openOnly = .error (.invalidPattern pattern error)) := by
  have hsuited : openingHours.spec.SuitedBy openOnly := by
    refine ⟨fun column _ v hv => ?_, fun requirement hkind => ?_⟩
    · unfold openOnly at hv
      split_ifs at hv
      cases hv
      exact ⟨rfl, rfl⟩
    · cases hkind
  have hpredicate : openingHours.predicate .postgres = .ok _ := rfl
  exact ⟨_, hpredicate, hsuited, Rule.evaluate_predicate hpredicate hsuited⟩

end ColumnChecks
