import ColumnChecks.Proofs.Rule.Sameness

/-!
# The signs of zeros are written down

Rules that are the same differ in the signs of zeros at most, and these are written in the
texts of their predicates: `-0` is not `0`. So **rules that are the same are equal if their
predicates have one text** (`ColumnChecks.Rule.eq_of_sql_eq`).

Reading the text as a predicate would not show this, since `-0` and `0` are read as one
integer. It is the numerals among the tokens that are compared
(`ColumnChecks.RuleSpec.picked_predicate`).
-/

namespace ColumnChecks

open Sql

namespace Sql

/-- The numeral that a token is. -/
def Token.numeral? : Token → Option String
  | .numeral digits => some digits
  | _ => none

theorem passesSyntax_numeral? : PassesSyntax Token.numeral? where
  word _ _ := rfl
  quoted _ _ := rfl
  symbol _ := rfl
  blank := rfl

/-- A text that has tokens has these tokens. -/
theorem Lexes.lex_eq {conforming : Bool} {cs : List Char} {ts : List Token}
    (h : Lexes conforming cs ts) : lex conforming cs = some ts := by
  have hlex := h [] fun _ hc => nomatch hc
  rwa [List.append_nil, lex_nil, Option.map_some, List.append_nil] at hlex

end Sql

/-- The numeral of a value, if it is a number. -/
def Literal.numeral? (v : Literal) : Option String := (literalToken v).numeral?

/-- The numerals of values. -/
def numeralsOf (values : List Literal) : List String := values.filterMap Literal.numeral?

/-! ### Values from their numerals -/

theorem Decimal.write_plain_injective {x y : Decimal} (hx : x.isFinite = true)
    (hy : y.isFinite = true) (h : plain.write x = plain.write y) : x = y := by
  have hread := ofText?_plain hx
  rw [h, ofText?_plain hy] at hread
  exact (Option.some.inj hread).symm

/-- Values that only differ in the signs of zeros do not differ if their numerals do not. -/
theorem Literal.eq_of_numeral?_eq {v w : Literal} (hv : v.isFinite = true)
    (hw : w.isFinite = true) (hplain : v.plainZero = w.plainZero)
    (h : v.numeral? = w.numeral?) : v = w := by
  cases v with
  | decimal x =>
    cases w with
    | decimal y => rw [Decimal.write_plain_injective hv hw (Option.some.inj h)]
    | boolean | integer | text => cases hplain
  | boolean | integer | text =>
    cases w with
    | decimal y => cases hplain
    | boolean | integer | text => exact hplain

theorem Literal.isSome_numeral? (v : Literal) : v.numeral?.isSome = v.plainZero.numeral?.isSome := by
  cases v with
  | boolean b => rfl
  | integer i => rfl
  | decimal d => rfl
  | text s => rfl

/-- The same for lists: values without numerals have no signs. -/
theorem literals_eq_of_numerals_eq {vs ws : List Literal} (hvs : ∀ v ∈ vs, v.isFinite = true)
    (hws : ∀ w ∈ ws, w.isFinite = true)
    (hplain : vs.map Literal.plainZero = ws.map Literal.plainZero)
    (h : numeralsOf vs = numeralsOf ws) : vs = ws := by
  induction vs generalizing ws with
  | nil => exact (List.map_eq_nil_iff.1 hplain.symm).symm
  | cons v vs ih =>
    cases ws with
    | nil => cases hplain
    | cons w ws =>
      obtain ⟨hhead, htail⟩ := List.cons.inj hplain
      rw [List.forall_mem_cons] at hvs hws
      have hsome : v.numeral?.isSome = w.numeral?.isSome := by
        rw [Literal.isSome_numeral?, hhead, ← Literal.isSome_numeral?]
      have hsplit : v.numeral? = w.numeral? ∧ numeralsOf vs = numeralsOf ws := by
        rw [numeralsOf, numeralsOf, List.filterMap_cons, List.filterMap_cons] at h
        cases hv : v.numeral? with
        | none =>
          cases hw : w.numeral? with
          | none => exact ⟨rfl, by simpa [numeralsOf, hv, hw] using h⟩
          | some m => simp [hv, hw] at hsome
        | some n =>
          cases hw : w.numeral? with
          | none => simp [hv, hw] at hsome
          | some m => simpa [numeralsOf, hv, hw] using h
      rw [Literal.eq_of_numeral?_eq hvs.1 hws.1 hhead hsplit.1, ih hvs.2 hws.2 htail hsplit.2]

/-! ### Rules from their numerals -/

theorem Numeric.toLiteral_injective : Function.Injective toLiteral := by
  intro m n h
  cases m <;> cases n <;> cases h <;> rfl

theorem Numeric.toLiteral_plainZero (n : Numeric) : n.plainZero.toLiteral = n.toLiteral.plainZero := by
  cases n <;> rfl

theorem Condition.literals_plainZeros (c : Condition) :
    c.plainZeros.literals = c.literals.map Literal.plainZero := by
  cases c <;> rfl

/-- The values of a kind with plain zeros are its values with plain zeros. -/
theorem RuleKind.literals_plainZeros (kind : RuleKind) :
    kind.plainZeros.literals = kind.literals.map Literal.plainZero := by
  cases kind with
  | range bounds =>
    have hbound : ∀ b : Option Numeric, (b.map Numeric.plainZero).toList.map Numeric.toLiteral =
        (b.toList.map Numeric.toLiteral).map Literal.plainZero := by
      intro b
      cases b <;> simp [Numeric.toLiteral_plainZero]
    simp only [plainZeros, literals, List.map_append, hbound]
  | conditional r =>
    simp only [plainZeros, literals, List.map_flatMap, List.flatMap_map,
      Condition.literals_plainZeros]
  | inclusion | parity | presence | length | format => rfl

theorem Condition.eq_of_literals_eq {c d : Condition} (hplain : c.plainZeros = d.plainZeros)
    (h : c.literals = d.literals) : c = d := by
  cases c <;> cases d <;> simp_all [plainZeros, literals, values?]

theorem conditions_eq_of_literals_eq {cs ds : List Condition}
    (hplain : cs.map Condition.plainZeros = ds.map Condition.plainZeros)
    (h : cs.flatMap Condition.literals = ds.flatMap Condition.literals) : cs = ds := by
  induction cs generalizing ds with
  | nil => exact (List.map_eq_nil_iff.1 hplain.symm).symm
  | cons c cs ih =>
    cases ds with
    | nil => cases hplain
    | cons d ds =>
      obtain ⟨hhead, htail⟩ := List.cons.inj hplain
      -- Where the values of a condition end is the same in both lists.
      have hlength : c.literals.length = d.literals.length := by
        have hmap := congrArg Condition.literals hhead
        rw [Condition.literals_plainZeros, Condition.literals_plainZeros] at hmap
        simpa using congrArg List.length hmap
      obtain ⟨hc, hcs⟩ := List.append_inj h hlength
      rw [Condition.eq_of_literals_eq hhead hc, ih htail hcs]

/-- A kind is known by its values and by what else is written in it. -/
theorem RuleKind.eq_of_literals_eq {kind other : RuleKind}
    (hplain : kind.plainZeros = other.plainZeros) (h : kind.literals = other.literals) :
    kind = other := by
  cases kind <;> cases other
  case range.range r s =>
    obtain ⟨min, max, minInclusive, maxInclusive⟩ := r
    obtain ⟨min', max', minInclusive', maxInclusive'⟩ := s
    cases min <;> cases min' <;> cases max <;> cases max' <;>
      simp_all [plainZeros, literals, Numeric.toLiteral_injective.eq_iff]
  case inclusion.inclusion vs ws => exact congrArg inclusion h
  case conditional.conditional r s =>
    obtain ⟨conditions, rejectBlank⟩ := r
    obtain ⟨conditions', rejectBlank'⟩ := s
    simp only [plainZeros, conditional.injEq, Requirement.mk.injEq] at hplain
    rw [conditions_eq_of_literals_eq hplain.1 h, hplain.2]
  all_goals simp_all [plainZeros]

/-- What is written once for each of some columns is known from the whole. -/
theorem eq_of_flatMap_const_eq {α β : Type} {columns : List α} (hne : columns ≠ [])
    {ns ms : List β} (h : (columns.flatMap fun _ => ns) = columns.flatMap fun _ => ms) :
    ns = ms := by
  have hlength := congrArg List.length h
  simp only [List.length_flatMap, List.map_const', List.sum_replicate_nat] at hlength
  obtain ⟨column, columns, rfl⟩ := List.exists_cons_of_ne_nil hne
  have hlength : ns.length = ms.length := Nat.eq_of_mul_eq_mul_left (Nat.succ_pos _) hlength
  exact (List.append_inj h hlength).1

/-! ### Rules from their texts -/

theorem RuleSpec.mentioning_plainZeros (spec : RuleSpec) :
    spec.plainZeros.mentioning = spec.mentioning := by
  obtain ⟨target, kind, allowNull, allowBlank, label, validate⟩ := spec
  cases kind <;> rfl

variable [Pattern.SizeTest]

/-- **Rules that are the same are equal if their predicates have one text.** -/
theorem Rule.eq_of_sql_eq {rule other : Rule} {dialect : Dialect} {compiled compiled' : CompiledRule}
    (hsame : rule.same other = true) (h : rule.compile dialect = .ok compiled)
    (h' : other.compile dialect = .ok compiled') (hsql : compiled.sql = compiled'.sql) :
    rule = other := by
  obtain ⟨e, he, hcompiled⟩ := exists_of_bind_eq_ok h
  cases hcompiled
  obtain ⟨e', he', hcompiled'⟩ := exists_of_bind_eq_ok h'
  cases hcompiled'
  have hspec := Rule.same_iff.1 hsame
  obtain ⟨-, -, -, hkind⟩ := Rule.parts_of_same hsame
  have hliterals : rule.spec.kind.literals.map Literal.plainZero =
      other.spec.kind.literals.map Literal.plainZero := by
    rw [← RuleKind.literals_plainZeros, hkind, RuleKind.literals_plainZeros]
  -- The tokens, not what is read from them: `-0` and `0` are read as one integer.
  have htokens : e.tokens = e'.tokens := by
    have hlex : lex true e.sql.toList = some e.tokens :=
      (Expr.lexes_sql (RuleSpec.readable_predicate rule.valid he)).lex_eq
    have hlex' : lex true e'.sql.toList = some e'.tokens :=
      (Expr.lexes_sql (RuleSpec.readable_predicate other.valid he')).lex_eq
    have hsql : e.sql = e'.sql := hsql
    rw [hsql, hlex'] at hlex
    exact (Option.some.inj hlex).symm
  have hnumerals : numeralsOf rule.spec.kind.literals = numeralsOf other.spec.kind.literals := by
    by_cases hvalues : rule.spec.kind.literals = []
    · rw [hvalues, List.map_nil] at hliterals
      rw [hvalues, List.map_eq_nil_iff.1 hliterals.symm]
    · have hvalues' : other.spec.kind.literals ≠ [] := fun hnil => hvalues (by
        rw [hnil, List.map_nil] at hliterals
        exact List.map_eq_nil_iff.1 hliterals)
      have hpicked := RuleSpec.picked_predicate passesSyntax_numeral? rule.valid
        (fun hnil => absurd hnil hvalues) he
      have hpicked' := RuleSpec.picked_predicate passesSyntax_numeral? other.valid
        (fun hnil => absurd hnil hvalues') he'
      rw [Expr.picked, htokens, ← Expr.picked, hpicked', ← RuleSpec.mentioning_plainZeros, ← hspec,
        RuleSpec.mentioning_plainZeros] at hpicked
      exact (eq_of_flatMap_const_eq (RuleSpec.mentioning_ne_nil rule.valid) hpicked).symm
  have heq : rule.spec.kind = other.spec.kind := RuleKind.eq_of_literals_eq hkind
    (literals_eq_of_numerals_eq (RuleKind.isFinite_literals rule.kind_finite)
      (RuleKind.isFinite_literals other.kind_finite) hliterals hnumerals)
  -- Apart from the kind, a rule and its form with plain zeros have the same parts.
  refine Rule.ext_spec ?_
  calc rule.spec = { rule.spec.plainZeros with kind := rule.spec.kind } := rfl
    _ = { other.spec.plainZeros with kind := other.spec.kind } := by rw [hspec, heq]
    _ = other.spec := rfl

end ColumnChecks
