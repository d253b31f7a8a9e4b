import ColumnChecks.Proofs.Pattern.Anchors
import ColumnChecks.Proofs.Pattern.Folding
import ColumnChecks.Proofs.Rule.Nodes
import ColumnChecks.Proofs.Sql.Kleene
import ColumnChecks.Rule.Builder

/-!
# What format rules match

The predicate of a format rule has one regular-expression match for each column
(`ColumnChecks.Rule.patternNodes_predicate`). **Where it can be evaluated, it says what
the rule asks of the pattern as it is written**: that it matches the whole text, or that
it matches nowhere in it (`ColumnChecks.Rule.evaluate_format`).

Evaluation compiles what stands in the predicate, and this is not what was compiled when
the rule was checked: case may be ignored now, and there may be anchors around the
pattern. **It never fails just if the engine allows the size of what stands there and, in a
rule that asks for whole texts, the pattern has room for the anchors**
(`ColumnChecks.Rule.evaluate_ne_invalidPattern_iff`). Ignoring case does no harm beyond that.
-/

namespace ColumnChecks

open Sql

/-! ### Failing on a pattern -/

namespace Sql.Expr

variable [Pattern.SizeTest]

/-- Among some matches is one whose pattern does not compile. -/
def FaultAmong (nodes : List Expr) (pattern : String) (error : Pattern.Error) : Prop :=
  ∃ operand negated caseInsensitive,
    .regexMatch operand pattern negated caseInsensitive ∈ nodes ∧
      Pattern.compile caseInsensitive pattern = .error error

variable {α β : Type} {row : Row} {nodes nodes' : List Expr}

theorem FaultAmong.mono {pattern : String} {error : Pattern.Error}
    (h : FaultAmong nodes pattern error) (hnodes : nodes ⊆ nodes') :
    FaultAmong nodes' pattern error := by
  obtain ⟨operand, negated, caseInsensitive, hmem, herror⟩ := h
  exact ⟨operand, negated, caseInsensitive, hnodes hmem, herror⟩

/-- **A computation fails on a pattern** only if it is one of some matches that do not
compile. -/
def Blames (nodes : List Expr) (x : Except EvalError α) : Prop :=
  ∀ pattern error, x = .error (.invalidPattern pattern error) → FaultAmong nodes pattern error

theorem Blames.ok (a : α) : Blames nodes (.ok a) := fun _ _ => nofun

theorem Blames.bind {x : Except EvalError α} {f : α → Except EvalError β} (h : Blames nodes x)
    (hf : ∀ a, Blames nodes (f a)) : Blames nodes (x >>= f) := by
  intro pattern error hbind
  rcases bind_eq_error hbind with hx | ⟨a, -, ha⟩
  · exact h pattern error hx
  · exact hf a pattern error ha

theorem Blames.mono {x : Except EvalError α} (h : Blames nodes x) (hnodes : nodes ⊆ nodes') :
    Blames nodes' x :=
  fun pattern error hx => (h pattern error hx).mono hnodes

theorem blames_compareValues (left right : Literal) : Blames nodes (compareValues left right) := by
  intro pattern error h
  unfold compareValues at h
  split at h <;> cases h

theorem blames_truthOf (v : Option Literal) : Blames nodes (truthOf v) := by
  intro pattern error h
  unfold truthOf at h
  split at h <;> cases h

theorem blames_lengthOf (v : Literal) : Blames nodes (lengthOf v) := by
  intro pattern error h
  cases v <;> cases h

theorem blames_remainderOf (v : Literal) (divisor : Int64) :
    Blames nodes (remainderOf v divisor) := by
  intro pattern error h
  unfold remainderOf at h
  split at h
  · split_ifs at h
    cases h
  · cases h
  · cases h

theorem blames_isAmong (v : Literal) (values : List Literal) :
    Blames nodes (isAmong v values) := by
  induction values with
  | nil => exact .ok _
  | cons value values ih =>
    refine (blames_compareValues v value).bind fun o => ?_
    split_ifs
    · exact .ok _
    · exact ih

/-- A search fails if the pattern does not compile. -/
theorem blames_matchesPattern {operand : Expr} {pattern text : String}
    {negated caseInsensitive : Bool}
    (hmem : .regexMatch operand pattern negated caseInsensitive ∈ nodes) :
    Blames nodes (matchesPattern pattern caseInsensitive text) := by
  intro pattern' error h
  unfold matchesPattern at h
  split at h
  · cases h
  next error' herror =>
  cases h
  exact ⟨operand, negated, caseInsensitive, hmem, herror⟩

mutual

/-- **Evaluation fails on a pattern** of the expression only. -/
theorem blames_value : ∀ e : Expr, Blames e.patternNodes (e.value row)
  | .column _ | .literal _ => .ok _
  | .compare left op right => by
    rw [Expr.value, patternNodes]
    refine ((blames_value left).mono (List.subset_append_left _ _)).bind fun l => ?_
    refine ((blames_value right).mono (List.subset_append_right _ _)).bind fun r => ?_
    split
    · exact (blames_compareValues _ _).bind fun _ => .ok _
    · exact .ok _
  | .modulo e divisor => by
    rw [Expr.value]
    split_ifs
    · -- A division by zero is not the fault of a pattern.
      exact fun _ _ => nofun
    refine (blames_value e).bind fun v => ?_
    split
    · exact .ok _
    · exact (blames_remainderOf _ _).bind fun _ => .ok _
  | .charLength e => by
    rw [Expr.value]
    refine (blames_value e).bind fun v => ?_
    split
    · exact .ok _
    · exact (blames_lengthOf _).bind fun _ => .ok _
  | .between e low high => by
    rw [Expr.value]
    refine (blames_value e).bind fun v => ?_
    split
    · exact .ok _
    · exact (blames_compareValues _ _).bind fun _ =>
        (blames_compareValues _ _).bind fun _ => .ok _
  | .inList e values => by
    rw [Expr.value]
    refine (blames_value e).bind fun v => ?_
    split
    · exact .ok _
    · exact (blames_isAmong _ _).bind fun _ => .ok _
  | .regexMatch e pattern negated caseInsensitive => by
    -- The one node that fails on a pattern, which is among those of the expression.
    rw [Expr.value, patternNodes]
    refine ((blames_value e).mono (List.subset_cons_self _ _)).bind fun v => ?_
    split
    · exact .ok _
    · exact (blames_matchesPattern List.mem_cons_self).bind fun _ => .ok _
    · exact fun _ _ => nofun
  | .isNull e negated => by
    rw [Expr.value]
    exact (blames_value e).bind fun _ => .ok _
  | .coalesce e fallback => by
    rw [Expr.value]
    exact (blames_value e).bind fun _ => (blames_truthOf _).bind fun _ => .ok _
  | .not e => by
    rw [Expr.value]
    exact (blames_value e).bind fun _ => (blames_truthOf _).bind fun _ => .ok _
  | .and es | .or es => by
    rw [Expr.value]
    exact (blames_connect es).bind fun _ => .ok _

theorem blames_connect {neutral : Bool} {sofar : Truth} : ∀ es : List Expr,
    Blames (operandNodes es) (Expr.connect row neutral sofar es)
  | [] => .ok _
  | e :: es => by
    rw [Expr.connect_cons, operandNodes]
    have hrest : ∀ sofar, Blames (e.patternNodes ++ operandNodes es)
        (Expr.connect row neutral sofar es) := fun sofar =>
      (blames_connect es).mono (List.subset_append_right _ _)
    have hfirst : Blames (e.patternNodes ++ operandNodes es) (e.evaluate row) :=
      ((blames_value e).mono (List.subset_append_left _ _)).bind blames_truthOf
    refine hfirst.bind fun t => ?_
    split
    · exact hrest none
    · split_ifs
      · exact hrest sofar
      · exact .ok _

end

theorem blames_evaluate (e : Expr) : Blames e.patternNodes (e.evaluate row) :=
  (blames_value e).bind blames_truthOf

end Sql.Expr

/-! ### What a match says -/

theorem anchored_eq (pattern : String) :
    anchored pattern = String.ofList (Pattern.between pattern.toList) := by
  rw [← String.toList_inj]
  simp [anchored, Pattern.between]

/-- **The expression of what a format rule compiles**: that of the pattern as it is written,
with the case of the rule, if there is room for anchors where whole texts are to match. -/
theorem Format.expression_nodePattern_iff {format : Format} {found : Pattern.Regex}
    (h : Pattern.expression false format.pattern = .ok found) (s : Pattern.Regex) :
    Pattern.expression format.caseInsensitive format.nodePattern = .ok s ↔
      (format.mode = .accepts → Pattern.RoomForAnchors format.pattern.toList) ∧
        ∃ r, Pattern.expression format.caseInsensitive format.pattern = .ok r ∧
          match format.mode with
          | .accepts => s = r.whole
          | .rejects => s = r := by
  unfold Format.nodePattern
  cases format.mode with
  | accepts =>
    rw [anchored_eq, Pattern.expression_between_iff h format.caseInsensitive s]
    simp only [forall_const]
  | rejects => simp only [reduceCtorEq, false_imp_iff, true_and, exists_eq_right']

section

variable [Pattern.SizeTest] {rule : Rule} {format : Format} {dialect : Dialect} {e : Expr}
  {column : String}

/-- The pattern of a valid format rule has an expression. -/
theorem exists_expression_of_format (hkind : rule.spec.kind = .format format) :
    ∃ found, Pattern.expression false format.pattern = .ok found := by
  have hvalid := (RuleSpec.fault?_eq_none_iff.1 rule.valid).2.2.2
  rw [hkind] at hvalid
  change patternFault? format.pattern = none at hvalid
  unfold patternFault? at hvalid
  split_ifs at hvalid
  split at hvalid
  · cases hvalid
  · next found hfound => exact ⟨found, (Pattern.compile_eq_ok_iff.1 hfound).1⟩

/-- The value of a match on a text. -/
theorem evaluate_regexMatch_text {row : Row} {text pattern : String}
    {negated caseInsensitive : Bool} (hrow : row column = some (.text text)) :
    (Expr.regexMatch (.column column) pattern negated caseInsensitive).evaluate row =
      match Pattern.compile caseInsensitive pattern with
      | .ok r => .ok (some (r.occursIn text.toList != negated))
      | .error error => .error (.invalidPattern pattern error) := by
  cases hc : Pattern.compile caseInsensitive pattern <;>
    simp [Expr.evaluate, Expr.value, hrow, matchesPattern, hc, truthOf, bind, Except.bind]

/-- **What the matches of a format rule say.** The predicate has one for each column; and
if it can be evaluated on a text, it is true just if the pattern of the rule, read with
the case of the rule, matches the whole text, or nowhere in it. -/
theorem Rule.evaluate_format (hkind : rule.spec.kind = .format format)
    (h : rule.predicate dialect = .ok e) :
    e.patternNodes = rule.spec.target.map format.node ∧
      ∀ column ∈ rule.spec.target, ∀ (row : Row) (text : String),
        row column = some (.text text) →
        (∀ pattern error,
          (format.node column).evaluate row ≠ .error (.invalidPattern pattern error)) →
        ∃ r holds, Pattern.expression format.caseInsensitive format.pattern = .ok r ∧
          (format.node column).evaluate row = .ok (some holds) ∧
          (holds = true ↔
            match format.mode with
            | .accepts => r.Spans text.toList 0 text.length
            | .rejects => ¬r.Occurs text.toList) := by
  refine ⟨Rule.patternNodes_predicate hkind h, fun column _ row text hrow hpattern => ?_⟩
  obtain ⟨found, hfound⟩ := exists_expression_of_format hkind
  rw [Format.node_eq, evaluate_regexMatch_text hrow] at hpattern ⊢
  cases hcompile : Pattern.compile format.caseInsensitive format.nodePattern with
  | error error =>
    rw [hcompile] at hpattern
    exact absurd rfl (hpattern _ _)
  | ok s =>
    obtain ⟨hexpression, -⟩ := Pattern.compile_eq_ok_iff.1 hcompile
    have hordered := Pattern.ordered_of_expression hexpression
    obtain ⟨-, r, hr, hs⟩ := (Format.expression_nodePattern_iff hfound s).1 hexpression
    refine ⟨r, _, hr, rfl, ?_⟩
    cases hmode : format.mode with
    | accepts =>
      rw [hmode] at hs
      obtain rfl := hs
      have hpositive : (FormatMode.accepts == .rejects) = false := rfl
      simp only
      rw [hpositive, Bool.bne_false, ← String.length_toList, ← r.occurs_whole_iff,
        ← Pattern.Regex.occursIn_iff hordered]
    | rejects =>
      rw [hmode] at hs
      obtain rfl := hs
      have hnegative : (FormatMode.rejects == .rejects) = true := rfl
      simp only
      rw [hnegative, ← Pattern.Regex.occursIn_iff hordered, Bool.bne_true, Bool.not_eq_true',
        Bool.not_eq_true]

end

/-- Grades are one of two words. -/
def wordGrade : Format := ⟨"good|bad", .accepts, false⟩

/-- A rule on grades. -/
def grades : Rule where
  spec := RuleSpec.of (.format wordGrade) ["grade"]
  valid := by decide +kernel

/-- The second of the words is matched as a whole, although the anchors of the predicate
stand at both ends of the choice. -/
theorem grades_match :
    ∃ e, grades.predicate .postgres = .ok e ∧ e.patternNodes = [wordGrade.node "grade"] ∧
      ∃ r holds, Pattern.expression false "good|bad" = .ok r ∧
        (wordGrade.node "grade").evaluate (fun _ => some (.text "bad")) = .ok (some holds) ∧
        (holds = true ↔ r.Spans "bad".toList 0 3) := by
  have hpredicate : grades.predicate .postgres = .ok _ := rfl
  have hvalue : (wordGrade.node "grade").evaluate (fun _ => some (.text "bad")) =
      .ok (some true) := by decide +kernel
  obtain ⟨hnodes, hall⟩ := Rule.evaluate_format (show grades.spec.kind = .format wordGrade from rfl)
    hpredicate
  refine ⟨_, hpredicate, hnodes, hall "grade" List.mem_cons_self _ "bad" rfl fun _ _ herror => ?_⟩
  rw [hvalue] at herror
  cases herror

/-! ### Patterns that fail on rows -/

section

variable [Pattern.SizeTest] {rule : Rule} {format : Format} {dialect : Dialect} {e : Expr}
  {column : String}

/-- A conjunction of one operand is evaluated like any other. -/
theorem evaluate_all {row : Row} (es : List Expr) :
    (Expr.all es).evaluate row = Expr.connect row true (some true) es := by
  match es with
  | [] => exact evaluate_and []
  | [e] =>
    rw [Expr.all, Expr.connect_cons]
    cases e.evaluate row with
    | error x => rfl
    | ok t => rcases t with _ | _ | _ <;> rfl
  | e :: e' :: es => exact evaluate_and _

/-- Columns that have a value do not decide. -/
theorem connect_notNulls {row : Row} {columns : List String}
    (h : ∀ column ∈ columns, row column ≠ none) (es : List Expr) :
    Expr.connect row true (some true) (notNulls columns ++ es) =
      Expr.connect row true (some true) es := by
  induction columns with
  | nil => rfl
  | cons column columns ih =>
    rw [List.forall_mem_cons] at h
    have hsome : (row column).isNone = false := Option.isNone_eq_false_iff.2
      (Option.isSome_iff_ne_none.2 h.1)
    rw [notNulls, List.map_cons, List.cons_append, Expr.connect_cons, evaluate_isNull_column, hsome]
    exact ih h.2

/-- **On a row of texts** the first thing that is evaluated is the match of a column. -/
theorem Rule.evaluate_of_compile_error (hkind : rule.spec.kind = .format format)
    (h : rule.predicate dialect = .ok e) {error : Pattern.Error}
    (herror : Pattern.compile format.caseInsensitive format.nodePattern = .error error)
    {row : Row} {text : String} (hrow : ∀ column, row column = some (.text text)) :
    e.evaluate row = .error (.invalidPattern format.nodePattern error) := by
  obtain ⟨es, hes, rfl⟩ := Rule.predicate_format hkind h
  have hnode : ∀ column,
      (format.node column).evaluate row = .error (.invalidPattern format.nodePattern error) := by
    intro column
    rw [Format.node_eq, evaluate_regexMatch_text (hrow column), herror]
  -- The columns are checked in their order, and the first of them fails.
  have hall : (Expr.all es).evaluate row = .error (.invalidPattern format.nodePattern error) := by
    have htarget : rule.spec.target ≠ [] :=
      (targetFault?_eq_none_iff.1 (RuleSpec.fault?_eq_none_iff.1 rule.valid).1).1
    obtain ⟨column, columns, hcolumns⟩ := List.exists_cons_of_ne_nil htarget
    rw [hcolumns] at hes
    obtain ⟨first, es, hbody, -, rfl⟩ := List.forall₂_cons_left_iff.1 hes
    have hfirst : first.evaluate row = .error (.invalidPattern format.nodePattern error) := by
      rw [RuleSpec.columnExpr_format hkind hbody]
      split_ifs
      · rw [Expr.any, evaluate_or, Expr.connect_cons, hnode]
        · rfl
        · intro operand hsingle
          cases hsingle
      · exact hnode column
    rw [evaluate_all, Expr.connect_cons, hfirst]
    rfl
  split_ifs
  · rw [evaluate_or, Expr.connect_cons, hall]
    rfl
  · rw [evaluate_all, connect_notNulls, Expr.connect_cons, hall]
    · rfl
    · exact fun column _ => by rw [hrow column]; exact Option.some_ne_none _

/-- **What a format rule compiles is in order** just if the engine allows its size and there
is room for anchors where whole texts are to match. -/
theorem Format.exists_compile_nodePattern_iff {found : Pattern.Regex}
    (h : Pattern.expression false format.pattern = .ok found) :
    (∃ s, Pattern.compile format.caseInsensitive format.nodePattern = .ok s) ↔
      Pattern.SizeTest.allows format.caseInsensitive format.nodePattern = true ∧
        (format.mode = .accepts → Pattern.RoomForAnchors format.pattern.toList) := by
  simp only [Pattern.compile_eq_ok_iff, Format.expression_nodePattern_iff h]
  constructor
  · rintro ⟨s, ⟨hroom, -⟩, hsize⟩
    exact ⟨hsize, hroom⟩
  · rintro ⟨hsize, hroom⟩
    -- Case does not matter for whether there is an expression at all.
    obtain ⟨r, hr⟩ := Pattern.exists_expression h format.caseInsensitive
    cases hmode : format.mode with
    | accepts => exact ⟨r.whole, ⟨fun _ => hroom hmode, r, hr, rfl⟩, hsize⟩
    | rejects => exact ⟨r, ⟨nofun, r, hr, rfl⟩, hsize⟩

/-- **When evaluation never fails on a pattern.** A rule that is not about a pattern
cannot fail. A format rule never fails on any row just if the engine allows the size of the
pattern in its predicate, and the pattern has room for anchors where whole texts are to
match: it does not end in a comment, and two levels more are not too deep. -/
theorem Rule.evaluate_ne_invalidPattern_iff (h : rule.predicate dialect = .ok e) :
    (∀ row pattern error, e.evaluate row ≠ .error (.invalidPattern pattern error)) ↔
      ∀ format, rule.spec.kind = .format format →
        Pattern.SizeTest.allows format.caseInsensitive format.nodePattern = true ∧
          (format.mode = .accepts → Pattern.RoomForAnchors format.pattern.toList) := by
  constructor
  · intro hnever format hkind
    obtain ⟨found, hfound⟩ := exists_expression_of_format hkind
    refine (Format.exists_compile_nodePattern_iff hfound).1 ?_
    cases hcompile : Pattern.compile format.caseInsensitive format.nodePattern with
    | error error =>
      -- Whether a pattern compiles does not depend on the text, so blank rows are enough.
      have hblank : ∀ column, (fun _ => some blankText : Row) column = some (.text "") :=
        fun _ => rfl
      exact absurd (Rule.evaluate_of_compile_error hkind h hcompile hblank) (hnever _ _ _)
    | ok s => exact ⟨s, rfl⟩
  · intro hall row pattern error herror
    obtain ⟨operand, negated, caseInsensitive, hmem, hfails⟩ :=
      e.blames_evaluate pattern error herror
    by_cases hformat : ∃ format, rule.spec.kind = .format format
    · obtain ⟨format, hkind⟩ := hformat
      obtain ⟨found, hfound⟩ := exists_expression_of_format hkind
      obtain ⟨s, hs⟩ := (Format.exists_compile_nodePattern_iff hfound).2 (hall format hkind)
      rw [Rule.patternNodes_predicate hkind h] at hmem
      obtain ⟨column, -, hnode⟩ := List.mem_map.1 hmem
      rw [Format.node_eq] at hnode
      cases hnode
      rw [hs] at hfails
      cases hfails
    · rw [Rule.patternNodes_eq_nil (not_exists.1 hformat) h] at hmem
      cases hmem

end

/-- The rule on grades never fails: there is room for anchors around its words, and the engine
allows the size. -/
theorem grades_never_fail : ∃ e, grades.predicate .postgres = .ok e ∧
    ∀ row pattern error, e.evaluate row ≠ .error (.invalidPattern pattern error) := by
  have hpredicate : grades.predicate .postgres = .ok _ := rfl
  have hfault : (Pattern.Tree.read ("good|bad".toList ++ [')'])).isOk = false := by decide +kernel
  have hdepth : (Pattern.Tree.read "good|bad".toList).map
      (Pattern.Tree.tooDeep? (Pattern.nestLimit - 2)) = .ok none := by decide +kernel
  have hroom : Pattern.RoomForAnchors "good|bad".toList := by
    constructor
    · rintro ⟨tree, hread⟩
      rw [hread] at hfault
      cases hfault
    · intro tree hread
      rw [hread] at hdepth
      exact Except.ok.inj hdepth
  refine ⟨_, hpredicate, (Rule.evaluate_ne_invalidPattern_iff hpredicate).2 fun format hkind => ?_⟩
  cases hkind
  exact ⟨by decide +kernel, fun _ => hroom⟩

/-- Behind a bracket that ends a range, flags may be set; here blanks are ignored from then
on, and the comment that follows takes the closing anchor. -/
example : Pattern.unshared? "[A-[:x:](?x)]#" = none ∧
    (Pattern.Tree.read "[A-[:x:](?x)]#)".toList).isOk = true := by
  decide +kernel

end ColumnChecks
