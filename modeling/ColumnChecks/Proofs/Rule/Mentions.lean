import ColumnChecks.Proofs.Rule.Reading
import ColumnChecks.Proofs.Sql.Kleene

/-!
# What predicates mention

Of the tokens of a predicate, those that depend on the values of the rule are of interest: its
numerals, say, or its texts. What is picked out of the tokens is given by a function that
passes over the names, the words and symbols of the syntax, and the blank text
(`ColumnChecks.Sql.PassesSyntax`).

**What is picked out of a predicate** is then what is picked out of the values that its rule
mentions (`ColumnChecks.RuleKind.literals`), once for each column that they are written for
(`ColumnChecks.RuleSpec.picked_predicate`). A rule that mentions no values may still have
numerals and texts of its own, such as the bounds of a length, and then it is up to the
function to pass over them.
-/

namespace ColumnChecks

open Sql

variable {β : Type} {f : Token → Option β}

namespace Sql

/-- **A function of tokens that passes over the syntax** of predicates. -/
structure PassesSyntax (f : Token → Option β) : Prop where
  word {w : String} (hne : w ≠ "") (hnul : hasNul w = false) : f (.word w) = none
  quoted {name : String} (hne : name ≠ "") (hnul : hasNul name = false) : f (.quoted name) = none
  symbol (s : String) : f (.symbol s) = none
  blank : f (.text "") = none

/-- What is picked out of the tokens of an expression, from left to right. -/
def Expr.picked (f : Token → Option β) (e : Expr) : List β := e.tokens.filterMap f

/-- What is picked out of values. -/
def pickedOf (f : Token → Option β) (values : List Literal) : List β :=
  values.filterMap fun v => f (literalToken v)

/-- A column is passed over, quoted or not. -/
theorem PassesSyntax.name (hf : PassesSyntax f) {name : String} (hne : name ≠ "")
    (hnul : hasNul name = false) : f (nameToken name) = none := by
  unfold nameToken
  split_ifs
  · exact hf.word hne hnul
  · exact hf.quoted hne hnul

/-- The words of the syntax are passed over. -/
theorem PassesSyntax.keyword (hf : PassesSyntax f) {w : String}
    (hw : w ∈ ["is", "not", "null", "in", "and", "or", "coalesce", "false"]) :
    f (.word w) = none := by
  have hall : ∀ w ∈ ["is", "not", "null", "in", "and", "or", "coalesce", "false"],
      w ≠ "" ∧ hasNul w = false := by decide
  exact hf.word (hall w hw).1 (hall w hw).2

namespace Expr

variable {column : String}

/-! ### Tests of a column -/

theorem picked_isNull (hf : PassesSyntax f) (hcolumn : f (nameToken column) = none)
    (negated : Bool) : (isNull (.column column) negated).picked f = [] := by
  cases negated <;> simp [picked, tokens, hcolumn, hf.keyword]

/-- A comparison mentions the value that a column is compared with. -/
theorem picked_compare (hf : PassesSyntax f) (hcolumn : f (nameToken column) = none)
    (op : Comparison) (v : Literal) :
    (compare (.column column) op (.literal v)).picked f = pickedOf f [v] := by
  simp [picked, tokens, pickedOf, List.filterMap_cons, hcolumn, hf.symbol]

/-- What stands between parts adds nothing to what is picked out of them. -/
theorem filterMap_intercalate {sep : Token} (hsep : f sep = none) (parts : List (List Token)) :
    ([sep].intercalate parts).filterMap f = parts.flatMap (List.filterMap f) := by
  induction parts with
  | nil => rfl
  | cons part parts ih =>
    cases parts with
    | nil => simp
    | cons next parts =>
      rw [List.intercalate_cons_cons, List.filterMap_append, List.filterMap_append, ih]
      simp [hsep]

/-- **A list mentions its values**, from left to right. -/
theorem picked_inList (hf : PassesSyntax f) (hcolumn : f (nameToken column) = none)
    (values : List Literal) : (inList (.column column) values).picked f = pickedOf f values := by
  have hvalues : ([Token.symbol ","].intercalate (values.map fun v => [literalToken v])).filterMap
      f = pickedOf f values := by
    rw [filterMap_intercalate (hf.symbol ","), List.flatMap_map, pickedOf]
    induction values with
    | nil => rfl
    | cons v values ih =>
      rw [List.flatMap_cons, ih]
      cases h : f (literalToken v) <;> simp [h]
  simp [picked, tokens, hcolumn, hf.keyword, hf.symbol, hvalues]

/-! ### Connectives -/

/-- A connective mentions what its operands do, also in parentheses. -/
theorem picked_operands (hf : PassesSyntax f) (es : List Expr) :
    (operandTokens es).flatMap (List.filterMap f) = es.flatMap (picked f) := by
  induction es with
  | nil => rfl
  | cons e es ih =>
    rw [operandTokens, List.flatMap_cons, List.flatMap_cons, ih, tokensInParentheses, picked]
    split_ifs <;> simp [hf.symbol]

theorem picked_and (hf : PassesSyntax f) (es : List Expr) :
    (Expr.and es).picked f = es.flatMap (picked f) := by
  rw [picked, tokens, filterMap_intercalate (hf.keyword (by decide)), picked_operands hf]

theorem picked_or (hf : PassesSyntax f) (es : List Expr) :
    (Expr.or es).picked f = es.flatMap (picked f) := by
  rw [picked, tokens, filterMap_intercalate (hf.keyword (by decide)), picked_operands hf]

theorem picked_all (hf : PassesSyntax f) (es : List Expr) :
    (Expr.all es).picked f = es.flatMap (picked f) := by
  match es with
  | [] => exact picked_and hf []
  | [e] => rw [Expr.all, List.flatMap_singleton]
  | e :: e' :: es => exact picked_and hf _

theorem picked_any (hf : PassesSyntax f) (es : List Expr) :
    (Expr.any es).picked f = es.flatMap (picked f) := by
  match es with
  | [] => exact picked_or hf []
  | [e] => rw [Expr.any, List.flatMap_singleton]
  | e :: e' :: es => exact picked_or hf _

/-- Negating a trigger mentions no more than the trigger. -/
theorem picked_untriggered (hf : PassesSyntax f) (e : Expr) :
    (Expr.not (.coalesce e false)).picked f = e.picked f := by
  simp [picked, tokens, tokensInParentheses, isCompound, literalToken, hf.keyword, hf.symbol]

theorem picked_isNulls (hf : PassesSyntax f) {target : List String}
    (htarget : ∀ column ∈ target, f (nameToken column) = none) (negated : Bool) :
    (target.map fun column => Expr.isNull (.column column) negated).flatMap (picked f) = [] := by
  rw [List.flatMap_map, List.flatMap_eq_nil_iff]
  exact fun column hcolumn => picked_isNull hf (htarget column hcolumn) negated

end Expr

end Sql

open Sql.Expr (picked)

/-! ### The values of a rule -/

/-- The values that a condition mentions. -/
def Condition.literals (c : Condition) : List Literal := c.values?.getD []

/-- The values that a kind mentions. -/
def RuleKind.literals : RuleKind → List Literal
  | .range bounds => (bounds.min.toList ++ bounds.max.toList).map Numeric.toLiteral
  | .inclusion values => values
  | .conditional r => r.when.flatMap Condition.literals
  | _ => []

variable {column : String}

/-- A range mentions its bounds. -/
theorem Range.picked_expr (hf : PassesSyntax f) (hcolumn : f (nameToken column) = none)
    (range : Range) : (range.expr column).picked f = pickedOf f (RuleKind.range range).literals := by
  have hbound : ∀ (bound : Option Numeric) (op : Comparison),
      (bound.map fun n => Expr.compare (.column column) op (numberExpr n)).toList.flatMap
        (picked f) = pickedOf f (bound.toList.map Numeric.toLiteral) := by
    intro bound op
    cases bound with
    | none => rfl
    | some n => simpa [numberExpr] using Expr.picked_compare hf hcolumn op n.toLiteral
  rw [Range.expr, Expr.picked_all hf, List.flatMap_append, hbound, hbound, RuleKind.literals,
    List.map_append, pickedOf, pickedOf, pickedOf, List.filterMap_append]

/-- **A condition mentions its values.** -/
theorem Condition.picked_expr (hf : PassesSyntax f) {c : Condition}
    (hcolumn : f (nameToken c.column) = none) : c.expr.picked f = pickedOf f c.literals := by
  cases c with
  | compare column op v => exact Expr.picked_compare hf hcolumn op v
  | isIn column vs => exact Expr.picked_inList hf hcolumn vs
  | isNull column => exact Expr.picked_isNull hf hcolumn false
  | isNotNull column => exact Expr.picked_isNull hf hcolumn true

/-- A conditional rule mentions the values of its trigger, and tests its target for blank and
null at most. -/
theorem Requirement.picked_expr (hf : PassesSyntax f) {r : Requirement} {target : List String}
    (htarget : ∀ column ∈ target, f (nameToken column) = none)
    (hwhen : ∀ c ∈ r.when, f (nameToken c.column) = none) :
    (r.expr target).picked f = pickedOf f (RuleKind.conditional r).literals := by
  have htrigger : (r.when.map Condition.expr).flatMap (picked f) =
      pickedOf f (RuleKind.conditional r).literals := by
    rw [List.flatMap_map, pickedOf, RuleKind.literals, List.filterMap_flatMap]
    exact List.flatMap_congr fun c hc => Condition.picked_expr hf (hwhen c hc)
  have hrequired : (target.flatMap (requiredExprs r.rejectBlank)).flatMap (picked f) = [] := by
    have hblank : f (literalToken blankText) = none := hf.blank
    rw [List.flatMap_assoc, List.flatMap_eq_nil_iff]
    intro column hcolumn
    rw [requiredExprs, List.flatMap_cons, Expr.picked_isNull hf (htarget column hcolumn)]
    split_ifs
    · simp [Expr.picked_compare hf (htarget column hcolumn), pickedOf, hblank]
    · rfl
  simp [Requirement.expr, Expr.picked_or hf, Expr.picked_untriggered hf, Expr.picked_all hf,
    htrigger, hrequired]

/-! ### The predicate of a rule -/

variable {spec : RuleSpec} {dialect : Dialect} {e : Expr}

/-- What a kind asks of a column mentions its values, and perhaps numbers and texts of its
own if it has no values. -/
theorem RuleKind.picked_columnExpr {kind : RuleKind} (hf : PassesSyntax f)
    (hown : kind.literals = [] → ∀ body, kind.columnExpr dialect column = .ok (some body) →
      body.picked f = [])
    (hcolumn : f (nameToken column) = none)
    (h : kind.columnExpr dialect column = .ok (some e)) :
    e.picked f = pickedOf f kind.literals := by
  cases kind with
  | range bounds =>
    cases h
    exact Range.picked_expr hf hcolumn bounds
  | inclusion values =>
    cases h
    exact Expr.picked_inList hf hcolumn values
  | conditional r => cases h
  | parity | presence | length | format => exact hown rfl e h

theorem RuleSpec.picked_columnExpr (hf : PassesSyntax f)
    (hown : spec.kind.literals = [] → ∀ body,
      spec.kind.columnExpr dialect column = .ok (some body) → body.picked f = [])
    (hcolumn : f (nameToken column) = none)
    (h : spec.columnExpr dialect column = .ok (some e)) :
    e.picked f = pickedOf f spec.kind.literals := by
  obtain ⟨found, hfound, he⟩ := RuleSpec.columnExpr_eq_ok h
  obtain ⟨body, rfl, rfl⟩ := Option.map_eq_some_iff.1 he.symm
  have hbody := RuleKind.picked_columnExpr hf hown hcolumn hfound
  have hblank : f (literalToken blankText) = none := hf.blank
  split_ifs
  · simp [Expr.picked_any hf, Expr.picked_compare hf hcolumn, pickedOf, hbody, hblank]
  · exact hbody

variable [Pattern.SizeTest]

/-- Columns of a valid rule are passed over. -/
theorem RuleSpec.picked_column (hf : PassesSyntax f) (hvalid : spec.fault? = none)
    (hcolumn : column ∈ spec.columns) : f (nameToken column) = none := by
  obtain ⟨htarget, -, -, hkind⟩ := RuleSpec.fault?_eq_none_iff.1 hvalid
  rcases List.mem_append.1 hcolumn with hcolumn | hcolumn
  · obtain ⟨hne, hnul⟩ := (targetFault?_eq_none_iff.1 htarget).2.1 column hcolumn
    exact hf.name hne hnul
  · split at hcolumn
    · next requirement hk =>
      rw [hk, RuleKind.fault?] at hkind
      split_ifs at hkind
      obtain ⟨condition, hmem, rfl⟩ := List.mem_map.1 hcolumn
      have hcondition := (Requirement.fault?_eq_none_iff.1 hkind).2 condition hmem
      obtain ⟨hne, hnul⟩ := (Condition.of_fault?_eq_none hcondition).1
      exact hf.name hne hnul
    · cases hcolumn

/-- The columns for which the values of a rule are written down: those of the target, but the
trigger of a conditional rule is written once. -/
def RuleSpec.mentioning (spec : RuleSpec) : List String :=
  match spec.kind with
  | .conditional _ => spec.target.take 1
  | _ => spec.target

/-- Some column has the values written for it. -/
theorem RuleSpec.mentioning_ne_nil (hvalid : spec.fault? = none) : spec.mentioning ≠ [] := by
  have htarget : spec.target ≠ [] :=
    (targetFault?_eq_none_iff.1 (RuleSpec.fault?_eq_none_iff.1 hvalid).1).1
  unfold mentioning
  split
  · simpa using htarget
  · exact htarget

/-- **What is picked out of a predicate** is what is picked out of the values of its rule, once
for each column that mentions them. -/
theorem RuleSpec.picked_predicate (hf : PassesSyntax f) (hvalid : spec.fault? = none)
    (hown : spec.kind.literals = [] → ∀ column ∈ spec.target, ∀ body,
      spec.kind.columnExpr dialect column = .ok (some body) → body.picked f = [])
    (h : spec.predicate dialect = .ok e) :
    e.picked f = spec.mentioning.flatMap fun _ => pickedOf f spec.kind.literals := by
  have hcolumns : ∀ column ∈ spec.columns, f (nameToken column) = none :=
    fun _ => RuleSpec.picked_column hf hvalid
  have htarget : ∀ column ∈ spec.target, f (nameToken column) = none :=
    fun column hcolumn => hcolumns column (List.mem_append_left _ hcolumn)
  obtain ⟨r, hk, rfl⟩ | ⟨hk, -, rfl⟩ | ⟨hk, es, hes, rfl⟩ := RuleSpec.predicate_cases h hvalid
  · -- The trigger is written once, whatever the target is.
    have hwhen : ∀ c ∈ r.when, f (nameToken c.column) = none := fun c hc =>
      hcolumns _ (by
        rw [RuleSpec.columns, hk]
        exact List.mem_append_right _ (List.mem_map_of_mem hc))
    obtain ⟨column, columns, hcons⟩ := List.exists_cons_of_ne_nil
      (targetFault?_eq_none_iff.1 (RuleSpec.fault?_eq_none_iff.1 hvalid).1).1
    rw [Requirement.picked_expr hf htarget hwhen]
    simp [mentioning, hk, hcons]
  · rw [Expr.picked_all hf, notNulls, Expr.picked_isNulls hf htarget, hk]
    exact (List.flatMap_eq_nil_iff.2 fun _ _ => rfl).symm
  · have hmentioning : spec.mentioning = spec.target := by
      unfold mentioning
      split
      · next r hr => exact absurd hr (hk r)
      · rfl
    -- One body for each column, and nothing to pick in the tests for NULL around them.
    have hbodies : es.flatMap (picked f) =
        spec.target.flatMap fun _ => pickedOf f spec.kind.literals := by
      clear h hmentioning
      generalize spec.target = target at hes htarget hown
      induction hes with
      | nil => rfl
      | cons he _ ih =>
        rw [List.forall_mem_cons] at htarget
        rw [List.flatMap_cons, List.flatMap_cons, RuleSpec.picked_columnExpr hf
          (fun hnil => hown hnil _ List.mem_cons_self) htarget.1 he,
          ih htarget.2 fun hnil c hc => hown hnil c (List.mem_cons_of_mem _ hc)]
    rw [hmentioning]
    split_ifs
    · simp [Expr.picked_or hf, Expr.picked_all hf, isNulls, Expr.picked_isNulls hf htarget, hbodies]
    · simp [Expr.picked_all hf, notNulls, Expr.picked_isNulls hf htarget, hbodies]

end ColumnChecks
