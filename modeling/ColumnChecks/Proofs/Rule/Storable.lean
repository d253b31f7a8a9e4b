import ColumnChecks.Proofs.Rule.Mentions

/-!
# Names and texts that can be stored

A database stores no text with a NUL character, and no name that is empty. What a statement is
made of can be stored if this holds of the names and texts among its tokens
(`ColumnChecks.Sql.Token.isStorable`).

The names of columns and the patterns of a valid rule have been looked at, its values have
not. So **what a predicate is made of can be stored** just if none of the values that its rule
mentions is a text with a NUL character (`ColumnChecks.RuleSpec.storable_predicate_iff`).
-/

namespace ColumnChecks

/-- Whether a text can be the name of something. -/
def isProperName (name : String) : Bool := !name.isEmpty && !hasNul name

theorem isProperName_iff {name : String} :
    isProperName name = true ↔ name ≠ "" ∧ hasNul name = false := by
  simp [isProperName]

@[simp] theorem hasNul_append (s t : String) : hasNul (s ++ t) = (hasNul s || hasNul t) := by
  simp [hasNul]

namespace Sql

/-- **Whether a token can be stored**: names are not empty, and neither names nor texts contain
a NUL character. -/
def Token.isStorable : Token → Bool
  | .word name | .quoted name => isProperName name
  | .text s => !hasNul s
  | .numeral _ | .symbol _ => true

@[simp] theorem isStorable_nameToken (name : String) :
    (nameToken name).isStorable = isProperName name := by
  unfold nameToken
  split_ifs <;> rfl

@[simp] theorem isStorable_symbol (s : String) : (Token.symbol s).isStorable = true := rfl

@[simp] theorem isStorable_numeral (s : String) : (Token.numeral s).isStorable = true := rfl

@[simp] theorem isStorable_text (s : String) : (Token.text s).isStorable = !hasNul s := rfl

/-- A token that cannot be stored. -/
def Token.blemish? (t : Token) : Option Token := if t.isStorable then none else some t

theorem Token.blemish?_eq_none_iff {t : Token} : t.blemish? = none ↔ t.isStorable = true := by
  simp [blemish?]

theorem passesSyntax_blemish? : PassesSyntax Token.blemish? where
  word hne hnul := Token.blemish?_eq_none_iff.2 (isProperName_iff.2 ⟨hne, hnul⟩)
  quoted hne hnul := Token.blemish?_eq_none_iff.2 (isProperName_iff.2 ⟨hne, hnul⟩)
  symbol _ := rfl
  blank := rfl

/-- Tokens can be stored if there are no blemishes among them. -/
theorem filterMap_blemish?_eq_nil_iff {ts : List Token} :
    ts.filterMap Token.blemish? = [] ↔ ts.all Token.isStorable = true := by
  simp [List.filterMap_eq_nil_iff, Token.blemish?_eq_none_iff]

/-- Of values, only texts have blemishes. -/
theorem pickedOf_blemish?_eq_nil_iff {values : List Literal} :
    pickedOf Token.blemish? values = [] ↔ ∀ s, Literal.text s ∈ values → hasNul s = false := by
  rw [pickedOf, List.filterMap_eq_nil_iff]
  constructor
  · intro h s hs
    simpa [literalToken] using Token.blemish?_eq_none_iff.1 (h _ hs)
  · intro h v hv
    rw [Token.blemish?_eq_none_iff]
    cases v with
    | boolean b => cases b <;> decide
    | integer i => rfl
    | decimal d => rfl
    | text s => simp [literalToken, h s hv]

end Sql

open Sql

variable {spec : RuleSpec} {dialect : Dialect} {column : String} {e : Expr}

variable [Pattern.SizeTest]

theorem hasNul_of_patternFault?_eq_none {pattern : String} (h : patternFault? pattern = none) :
    hasNul pattern = false := by
  unfold patternFault? at h
  split_ifs at h with hempty hnul
  exact Bool.eq_false_iff.2 hnul

/-- What a kind without values asks of a column has no blemishes. -/
theorem RuleKind.blemishes_columnExpr {kind : RuleKind} {target : List String} {allowNull : Bool}
    (hvalid : kind.fault? target allowNull = none)
    (hcolumn : (nameToken column).blemish? = none) (hvalues : kind.literals = [])
    (h : kind.columnExpr dialect column = .ok (some e)) : e.picked Token.blemish? = [] := by
  have hf := passesSyntax_blemish?
  have hname := Token.blemish?_eq_none_iff.1 hcolumn
  cases kind with
  | range bounds =>
    cases h
    rw [Range.picked_expr hf hcolumn, hvalues]
    rfl
  | inclusion values =>
    cases h
    rw [Expr.picked_inList hf hcolumn, show values = [] from hvalues]
    rfl
  | parity p =>
    cases h
    rw [Expr.picked, filterMap_blemish?_eq_nil_iff]
    simp [Parity.expr, Expr.tokens, hname, literalToken]
  | presence columnType =>
    cases columnType with
    | text =>
      cases h
      exact Expr.picked_compare hf hcolumn _ _
    | nonText => cases h
  | length bounds =>
    cases h
    rw [Expr.picked, filterMap_blemish?_eq_nil_iff]
    have hword : ∀ w ∈ ["char_length", "between", "and", "is", "not", "null"],
        (Token.word w).isStorable = true := by decide
    simp only [List.forall_mem_cons] at hword
    obtain ⟨min, max⟩ := bounds
    cases min <;> cases max <;> simp [Length.expr, Expr.tokens, literalToken, hname, hword]
  | format f =>
    obtain ⟨body, hbody, hfound⟩ := exists_of_bind_eq_ok h
    cases hfound
    have hnul := hasNul_of_patternFault?_eq_none hvalid
    have hanchored : hasNul (anchored f.pattern) = false := by
      have hends : hasNul "^(?:" = false ∧ hasNul ")$" = false := by decide
      simp [anchored, hends, hnul]
    rw [Format.expr_eq_ok hbody, Expr.picked, filterMap_blemish?_eq_nil_iff]
    cases f.mode <;> simp [Expr.tokens, hname, hnul, hanchored]
  | conditional r => cases h

/-- **What a predicate is made of can be stored** just if the texts that its rule mentions
can. -/
theorem RuleSpec.storable_predicate_iff (hvalid : spec.fault? = none)
    (h : spec.predicate dialect = .ok e) :
    e.tokens.all Token.isStorable = true ↔
      ∀ s, Literal.text s ∈ spec.kind.literals → hasNul s = false := by
  have hkind := (RuleSpec.fault?_eq_none_iff.1 hvalid).2.2.2
  have hpicked := RuleSpec.picked_predicate passesSyntax_blemish? hvalid
    (fun hvalues column hcolumn body hbody => RuleKind.blemishes_columnExpr hkind
      (RuleSpec.picked_column passesSyntax_blemish? hvalid (List.mem_append_left _ hcolumn))
      hvalues hbody) h
  rw [← filterMap_blemish?_eq_nil_iff, ← pickedOf_blemish?_eq_nil_iff, ← Expr.picked, hpicked,
    List.flatMap_eq_nil_iff]
  obtain ⟨column, columns, hcons⟩ := List.exists_cons_of_ne_nil (RuleSpec.mentioning_ne_nil hvalid)
  constructor
  · exact fun hall => hall column (hcons ▸ List.mem_cons_self)
  · exact fun hnil _ _ => hnil

end ColumnChecks
