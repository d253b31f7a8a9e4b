import ColumnChecks.Proofs.Sql.Grammar
import ColumnChecks.Proofs.Sql.Spelling

/-!
# Predicates are read back

Reading the text of a readable expression gives the expression
(`ColumnChecks.Sql.read?_sql`). Only the type of a number is lost: the text of an
integral decimal is the numeral of an integer and is read as one, and so the
expression comes back in its canonical form (`ColumnChecks.Sql.Expr.canonical`).

**The invariant** is about all levels at once. At every level that is not tighter
than the expression itself, the reader of the level takes exactly the tokens of the
expression, provided that what follows does not continue an expression at that level
(`ColumnChecks.Sql.Ends`). Tokens that bind an operand to what follows it have the
level of the operator, so that the condition for an operand is that its operator
binds less tightly.
-/

namespace ColumnChecks

/-! ### Numbers without types -/

/-- A number as its numeral is read. -/
def Numeric.canonical : Numeric → Numeric
  | .integer i => .integer i
  | .decimal d =>
    match integerOfText? (Decimal.plain.write d) with
    | some i => .integer i
    | none => .decimal d

/-- A value as its text is read. -/
def Literal.canonical : Literal → Literal
  | .decimal d => (Numeric.decimal d).canonical.toLiteral
  | v => v

namespace Sql

/-- A finite number is written so that it reads as its canonical form: an integer, if it is one. -/
theorem numberOfText?_text {n : Numeric} (hfin : n.isFinite = true) :
    numberOfText? n.text = some n.canonical := by
  cases n with
  | integer i =>
    rw [Numeric.text, numberOfText?, integerOfText?_toString]
    rfl
  | decimal d =>
    rw [Numeric.text, numberOfText?, Numeric.canonical, Decimal.ofText?_plain hfin]
    cases integerOfText? (Decimal.plain.write d) <;> rfl

namespace Expr

mutual

/-- **An expression up to the types of its numbers.** -/
def canonical : Expr → Expr
  | .column name => .column name
  | .literal v => .literal v.canonical
  | .compare left op right => .compare (canonical left) op (canonical right)
  | .modulo e divisor => .modulo (canonical e) divisor
  | .charLength e => .charLength (canonical e)
  | .between e low high => .between (canonical e) low.canonical high.canonical
  | .inList e values => .inList (canonical e) (values.map Literal.canonical)
  | .regexMatch e pattern negated caseInsensitive =>
    .regexMatch (canonical e) pattern negated caseInsensitive
  | .isNull e negated => .isNull (canonical e) negated
  | .coalesce e fallback => .coalesce (canonical e) fallback
  | .not e => .not (canonical e)
  | .and es => .and (canonicals es)
  | .or es => .or (canonicals es)

/-- Several expressions up to the types of their numbers. -/
def canonicals : List Expr → List Expr
  | [] => []
  | e :: es => canonical e :: canonicals es

end

end Expr

/-! ### What ends an expression -/

/-- The level at which a token continues an expression before it. -/
def Token.binding? : Token → Option Nat
  | .word w =>
    if w = "or" then some 0
    else if w = "and" then some 1
    else if w = "is" then some 3
    else if w = "between" ∨ w = "in" then some 5
    else none
  | .symbol op =>
    if op = "(" then some 7
    else if op = "%" then some 6
    else if (matchFlags? op).isSome then some 5
    else if (comparisonOfSql? op).isSome then some 4
    else none
  | _ => none

/-- **Tokens that do not continue an expression** at a level, nor at a tighter
one. -/
def Ends (k : Nat) (rest : List Token) : Prop :=
  ∀ t ∈ rest.head?, ∀ l ∈ t.binding?, l < k

/-- What ends an expression at a level also ends one at a tighter level. -/
theorem Ends.mono {k l : Nat} {rest : List Token} (h : Ends k rest) (hkl : k ≤ l) : Ends l rest :=
  fun t ht m hm => (h t ht m hm).trans_le hkl

/-- The end of the text ends every expression. -/
theorem ends_nil (k : Nat) : Ends k [] := fun _ h => nomatch h

/-- An operator that binds more loosely ends an expression. -/
theorem ends_cons {k l : Nat} {t : Token} (h : t.binding? = some l) (hl : l < k)
    (rest : List Token) : Ends k (t :: rest) := by
  intro u hu m hm
  cases hu
  rw [h] at hm
  cases hm
  exact hl

/-- A token that is no operator ends every expression. -/
theorem ends_cons_of_none {k : Nat} {t : Token} (h : t.binding? = none) (rest : List Token) :
    Ends k (t :: rest) := by
  intro u hu m hm
  cases hu
  rw [h] at hm
  cases hm

/-- Behind an expression that has ended stands none of the operators that would go on with it. -/
theorem Ends.ne {k l : Nat} {t : Token} {rest : List Token} (h : Ends k (t :: rest)) {u : Token}
    (hu : u.binding? = some l) (hkl : k ≤ l) : t ≠ u := by
  rintro rfl
  exact absurd (h _ rfl l hu) (Nat.not_lt.2 hkl)

/-- The token that continues an expression at a level does not stand there. -/
theorem Ends.expect_eq_none {k l : Nat} {rest : List Token} (h : Ends k rest) {u : Token}
    (hu : u.binding? = some l) (hkl : k ≤ l) : expect u rest = none := by
  cases rest with
  | nil => rfl
  | cons t rest => rw [expect, if_neg (h.ne hu hkl)]

theorem expect_self (t : Token) (rest : List Token) : expect t (t :: rest) = some ((), rest) := by
  rw [expect, if_pos rfl]

/-- A comparison is told by its symbol. -/
theorem comparisonOfSql?_sql (op : Comparison) : comparisonOfSql? op.sql = some op := by
  cases op <;> decide

/-- The operator of a match tells whether the match is negated, and whether case matters. -/
theorem matchFlags?_matchOperator (negated caseInsensitive : Bool) :
    matchFlags? (matchOperator negated caseInsensitive) = some (negated, caseInsensitive) := by
  cases negated <;> cases caseInsensitive <;> decide

/-- Comparisons bind at level four. -/
theorem binding?_comparison (op : Comparison) : (Token.symbol op.sql).binding? = some 4 := by
  cases op <;> decide

/-- Matches bind at level five, tighter than comparisons. -/
theorem binding?_matchOperator (negated caseInsensitive : Bool) :
    (Token.symbol (matchOperator negated caseInsensitive)).binding? = some 5 := by
  cases negated <;> cases caseInsensitive <;> decide

/-! ### Operands at the end -/

variable {primary operand : Reader Expr} {e : Expr} {ts rest : List Token}

/-- No remainder is taken of an operand that has ended. -/
theorem readDivisors_of_ends (h : Ends 6 rest) : readDivisors e rest = some (e, rest) := by
  unfold readDivisors
  split
  · rw [if_neg]
    rintro rfl
    exact absurd rfl (h.ne (u := .symbol "%") rfl le_rfl)
  · rfl

/-- An operand that has ended is not tested any further. -/
theorem readTest_of_ends (h : Ends 5 rest) : readTest e rest = some (e, rest) := by
  unfold readTest
  split
  · rw [if_neg, if_neg]
    · rintro rfl
      exact absurd rfl (h.ne (u := .word "in") rfl le_rfl)
    · rintro rfl
      exact absurd rfl (h.ne (u := .word "between") rfl le_rfl)
  · next op pattern more =>
    split
    · next negated caseInsensitive hflags =>
      have hop : op = matchOperator negated caseInsensitive := by
        unfold matchFlags? at hflags
        split_ifs at hflags with h1 h2 h3 h4 <;> cases hflags
        · exact h1
        · exact h2
        · exact h3
        · exact h4
      rw [hop] at h
      exact absurd rfl (h.ne (binding?_matchOperator _ _) le_rfl)
    · rfl
  · rfl

/-- An operand that has ended is not compared, so that it is read as it stands. -/
theorem readComparison_of_ends (hread : operand ts = some (e, rest)) (h : Ends 4 rest) :
    readComparison operand ts = some (e, rest) := by
  rw [readComparison, hread, Option.bind_eq_bind, Option.bind_some]
  simp only
  split
  · next op more =>
    split
    · next found hfound =>
      have hop : op = found.sql := by
        unfold comparisonOfSql? at hfound
        split_ifs at hfound with h1 h2 h3 h4 h5 h6 <;> cases hfound
        · exact h1
        · exact h2
        · exact h3
        · exact h4
        · exact h5
        · exact h6
      rw [hop] at h
      exact absurd rfl (h.ne (binding?_comparison _) le_rfl)
    · rfl
  · rfl

/-- The same for the tests for null. -/
theorem readNullTest_of_ends (hread : operand ts = some (e, rest)) (h : Ends 3 rest) :
    readNullTest operand ts = some (e, rest) := by
  rw [readNullTest, hread, Option.bind_eq_bind, Option.bind_some]
  simp only [h.expect_eq_none (u := .word "is") rfl le_rfl]

/-- What does not begin with `not` is no negation. -/
theorem readNegation_of_ne (hread : operand ts = some (e, rest))
    (hts : ts.head? ≠ some (.word "not")) : readNegation operand ts = some (e, rest) := by
  cases ts with
  | nil => exact hread
  | cons t ts =>
    rw [readNegation, if_neg]
    · exact hread
    · rintro rfl
      exact hts rfl

/-- A chain without a further word has one operand. -/
theorem readChain_of_ends {word : String} {fuel : Nat} (hread : operand ts = some (e, rest))
    (h : expect (.word word) rest = none) :
    readChain word operand (fuel + 1) ts = some ([e], rest) := by
  rw [readChain, hread, Option.bind_eq_bind, Option.bind_some]
  simp only [h]

/-! ### The first token -/

/-- Tokens that an expression of a level may start with: there are some, and only a
negation or something looser starts with `NOT`. -/
def Opens (l : Nat) (ts : List Token) : Prop :=
  ts ≠ [] ∧ (2 < l → ts.head? ≠ some (.word "not"))

/-- Every token but `not` may stand first, at any level. -/
theorem opens_cons {t : Token} (ht : t ≠ .word "not") (l : Nat) (ts : List Token) :
    Opens l (t :: ts) :=
  ⟨List.cons_ne_nil _ _, fun _ h => ht (Option.some.inj h)⟩

/-- What stands first decides, whatever is put behind it. -/
theorem Opens.append {k l : Nat} (h : Opens l ts) (hkl : 2 < k → 2 < l) (more : List Token) :
    Opens k (ts ++ more) := by
  obtain ⟨hts, hnot⟩ := h
  obtain ⟨t, ts', rfl⟩ := List.exists_cons_of_ne_nil hts
  exact ⟨List.cons_ne_nil _ _, fun hk => hnot (hkl hk)⟩

/-- `not` is a reserved word, and so no column is written like it. -/
theorem nameToken_ne_not (name : String) : nameToken name ≠ .word "not" := by
  unfold nameToken
  split_ifs with hbare
  · intro h
    cases h
    revert hbare
    decide
  · exact nofun

theorem literalToken_ne_not (v : Literal) : literalToken v ≠ .word "not" := by
  cases v with
  | boolean b => cases b <;> decide
  | integer i => exact nofun
  | decimal d => exact nofun
  | text s => exact nofun

namespace Expr

/-- An operand of a connective has tokens to begin with, in parentheses or without them. -/
theorem opens_tokensInParentheses {e : Expr} (h : Opens e.level e.tokens) :
    Opens 2 (e.tokensInParentheses e.tokens) := by
  unfold tokensInParentheses
  split_ifs
  · exact opens_cons (by decide) _ _
  · exact ⟨h.1, fun h => absurd h (by decide)⟩

/-- **An expression begins** in a way that its level allows. -/
theorem opens_tokens : ∀ {e : Expr}, e.Readable → Opens e.level e.tokens
  | .column name, _ => opens_cons (nameToken_ne_not name) _ _
  | .literal v, _ => opens_cons (literalToken_ne_not v) _ _
  | .compare left op right, h =>
    (opens_tokens h.1.1).append (fun _ => lt_of_lt_of_le (by decide) h.1.2) _
  | .modulo e divisor, h =>
    (opens_tokens h.1).append (fun _ => lt_of_lt_of_le (by decide) h.2) _
  | .charLength e, _ => opens_cons (by decide) _ _
  | .between e low high, h =>
    (opens_tokens h.1.1).append (fun _ => lt_of_lt_of_le (by decide) h.1.2) _
  | .inList e values, h =>
    (opens_tokens h.1.1).append (fun _ => lt_of_lt_of_le (by decide) h.1.2) _
  | .regexMatch e pattern negated caseInsensitive, h =>
    (opens_tokens h.1).append (fun _ => lt_of_lt_of_le (by decide) h.2) _
  | .isNull e negated, h =>
    (opens_tokens h.1).append (fun _ => lt_of_lt_of_le (by decide) h.2) _
  | .coalesce e fallback, _ => opens_cons (by decide) _ _
  | .not e, _ => ⟨List.cons_ne_nil _ _, fun h => absurd h (lt_irrefl 2)⟩
  | .and (e :: f :: es), h => by
    rw [tokens, operandTokens, operandTokens, List.intercalate_cons_cons, List.append_assoc]
    exact (opens_tokensInParentheses (opens_tokens h.2.1)).append
      (fun h => absurd h (by decide : ¬ 2 < 1)) _
  | .or (e :: f :: es), h => by
    rw [tokens, operandTokens, operandTokens, List.intercalate_cons_cons, List.append_assoc]
    exact (opens_tokensInParentheses (opens_tokens h.2.1)).append
      (fun h => absurd h (by decide : ¬ 2 < 0)) _
  | .and [_], h | .or [_], h => absurd h.1 (by simp)
  | .and [], h | .or [], h => absurd h.1 (by simp)

end Expr

/-! ### From a level to a looser one -/

/-- At the tightest level there is nothing but what stands for itself. -/
theorem readLevel_seven : readLevel primary 7 = primary := by
  unfold readLevel
  rfl

/-- **A reader of a looser level reads what a tighter one does**, if nothing follows
that would continue it. -/
theorem readLevel_of_le {k l : Nat} (hkl : k ≤ l) (hl : l ≤ 7)
    (hread : readLevel primary l ts = some (e, rest)) (h : Ends k rest) (hts : Opens l ts) :
    readLevel primary k ts = some (e, rest) := by
  -- From level to level: each reader starts with the next tighter one and then meets no sign
  -- of its own.
  induction hkl using Nat.decreasingInduction with
  | self => exact hread
  | of_succ k hk ih =>
    have hnext := ih (h.mono (Nat.le_succ k))
    obtain ⟨t, more, rfl⟩ := List.exists_cons_of_ne_nil hts.1
    match k with
    | 0 =>
      rw [readLevel, readDisjunction, List.length_cons, readChain_of_ends hnext
        (h.expect_eq_none (u := .word "or") rfl le_rfl)]
      rfl
    | 1 =>
      rw [readLevel, readConjunction, List.length_cons, readChain_of_ends hnext
        (h.expect_eq_none (u := .word "and") rfl le_rfl)]
      rfl
    | 2 =>
      rw [readLevel]
      exact readNegation_of_ne hnext (hts.2 hk)
    | 3 =>
      rw [readLevel]
      exact readNullTest_of_ends hnext h
    | 4 =>
      rw [readLevel]
      exact readComparison_of_ends hnext h
    | 5 =>
      rw [readLevel, readTested, hnext, Option.bind_eq_bind, Option.bind_some]
      exact readTest_of_ends h
    | 6 =>
      rw [readLevel_seven] at hnext
      rw [readLevel, readRemainder, hnext, Option.bind_eq_bind, Option.bind_some]
      exact readDivisors_of_ends h
    | k + 7 => omega

/-! ### One level at a time

What each construct is read as, given how its operands are. -/

/-- **Tokens are read as an expression** at a level and at all looser ones, whatever
follows that does not continue them. -/
def ReadsAs (primary : Reader Expr) (l : Nat) (ts : List Token) (e : Expr) : Prop :=
  ∀ k ≤ l, ∀ rest, Ends k rest → readLevel primary k (ts ++ rest) = some (e, rest)

namespace ReadsAs

variable {l m : Nat} {us : List Token} {f : Expr}

/-- It is enough to read at the level of the expression itself. -/
theorem of_own (hl : l ≤ 7) (hts : Opens l ts)
    (h : ∀ rest, Ends l rest → readLevel primary l (ts ++ rest) = some (e, rest)) :
    ReadsAs primary l ts e := fun _ hk rest hrest =>
  readLevel_of_le hk hl (h rest (hrest.mono hk)) hrest (hts.append id rest)

/-- `not` in front of an operand negates it. -/
theorem negation (h : ReadsAs primary m ts e) (hm : 2 ≤ m) :
    ReadsAs primary 2 (.word "not" :: ts) (.not e) := by
  refine of_own (by decide) ⟨List.cons_ne_nil _ _, fun h => absurd h (lt_irrefl 2)⟩
    fun rest hrest => ?_
  have hoperand := h 2 hm rest hrest
  rw [readLevel] at hoperand ⊢
  rw [List.cons_append, readNegation, if_pos rfl, hoperand]
  rfl

/-- `is null` and `is not null` behind an operand test it. -/
theorem nullTest (h : ReadsAs primary m ts e) (hm : 4 ≤ m) (hts : Opens m ts) (negated : Bool) :
    ReadsAs primary 3
      (ts ++ if negated then [.word "is", .word "not", .word "null"]
        else [.word "is", .word "null"])
      (.isNull e negated) := by
  refine of_own (by decide) (hts.append (fun _ => lt_of_lt_of_le (by decide) hm) _)
    fun rest hrest => ?_
  rw [readLevel, List.append_assoc, readNullTest]
  cases negated with
  | true =>
    rw [if_pos rfl, List.cons_append, h 4 hm _ (ends_cons (t := .word "is") rfl (by decide) _)]
    rfl
  | false =>
    rw [if_neg Bool.false_ne_true, List.cons_append,
      h 4 hm _ (ends_cons (t := .word "is") rfl (by decide) _)]
    rfl

/-- Two operands around a comparison symbol are compared. -/
theorem comparison (hleft : ReadsAs primary l ts e) (hl : 5 ≤ l) (hts : Opens l ts)
    (hright : ReadsAs primary m us f) (hm : 5 ≤ m) (op : Comparison) :
    ReadsAs primary 4 (ts ++ .symbol op.sql :: us) (.compare e op f) := by
  refine of_own (by decide) (hts.append (fun _ => lt_of_lt_of_le (by decide) hl) _)
    fun rest hrest => ?_
  rw [readLevel, List.append_assoc, List.cons_append, readComparison,
    hleft 5 hl _ (ends_cons (binding?_comparison op) (by decide) _), Option.bind_eq_bind,
    Option.bind_some]
  simp only [comparisonOfSql?_sql]
  rw [hright 5 hm rest (hrest.mono (by decide))]
  rfl

/-- The bounds of `between` are read as numbers, not as operands, so that its `and` joins
nothing. -/
theorem between (h : ReadsAs primary m ts e) (hm : 6 ≤ m) (hts : Opens m ts) {low high : Numeric}
    (hlow : low.isFinite = true) (hhigh : high.isFinite = true) :
    ReadsAs primary 5
      (ts ++ [.word "between", .numeral low.text, .word "and", .numeral high.text])
      (.between e low.canonical high.canonical) := by
  refine of_own (by decide) (hts.append (fun _ => lt_of_lt_of_le (by decide) hm) _)
    fun rest hrest => ?_
  rw [readLevel, List.append_assoc, List.cons_append, readTested,
    h 6 hm _ (ends_cons (t := .word "between") rfl (by decide) _), Option.bind_eq_bind,
    Option.bind_some]
  simp only [List.cons_append, List.nil_append, readTest, if_true, readNumber,
    numberOfText?_text hlow, numberOfText?_text hhigh, Option.map_some, Option.bind_eq_bind,
    Option.bind_some, expect_self]

/-- A match operator and a text behind an operand match it. -/
theorem regexMatch (h : ReadsAs primary m ts e) (hm : 6 ≤ m) (hts : Opens m ts) (pattern : String)
    (negated caseInsensitive : Bool) :
    ReadsAs primary 5 (ts ++ [.symbol (matchOperator negated caseInsensitive), .text pattern])
      (.regexMatch e pattern negated caseInsensitive) := by
  refine of_own (by decide) (hts.append (fun _ => lt_of_lt_of_le (by decide) hm) _)
    fun rest hrest => ?_
  rw [readLevel, List.append_assoc, List.cons_append, readTested,
    h 6 hm _ (ends_cons (binding?_matchOperator negated caseInsensitive) (by decide) _),
    Option.bind_eq_bind, Option.bind_some]
  simp only [List.cons_append, List.nil_append, readTest, matchFlags?_matchOperator]

/-- `%` and an integer behind an operand take its remainder. -/
theorem remainder (h : ReadsAs primary m ts e) (hm : 7 ≤ m) (hts : Opens m ts) (divisor : Int64) :
    ReadsAs primary 6 (ts ++ [.symbol "%", .numeral (toString divisor.toInt)])
      (.modulo e divisor) := by
  refine of_own (by decide) (hts.append (fun _ => lt_of_lt_of_le (by decide) hm) _)
    fun rest hrest => ?_
  have hoperand := h 7 hm _ (ends_cons (t := .symbol "%") rfl (by decide)
    (.numeral (toString divisor.toInt) :: rest))
  rw [readLevel_seven] at hoperand
  rw [readLevel, List.append_assoc, readRemainder, List.cons_append, List.cons_append,
    List.nil_append, hoperand, Option.bind_eq_bind, Option.bind_some]
  simp only
  rw [readDivisors, if_pos rfl, integerOfText?_toString]
  exact readDivisors_of_ends hrest

end ReadsAs

/-! ### Lists -/

/-- A finite value is read from its token, in canonical form. -/
theorem readLiteral_literalToken {v : Literal} (hfin : v.isFinite = true) (rest : List Token) :
    readLiteral (literalToken v :: rest) = some (v.canonical, rest) := by
  cases v with
  | boolean b => cases b <;> rfl
  | integer i =>
    rw [literalToken, readLiteral]
    have : numberOfText? (toString i.toInt) = some (.integer i) :=
      numberOfText?_text (n := .integer i) rfl
    rw [this]
    rfl
  | decimal d =>
    rw [literalToken, readLiteral]
    have : numberOfText? (Decimal.plain.write d) = some (Numeric.decimal d).canonical :=
      numberOfText?_text (n := .decimal d) hfin
    rw [this]
    rfl
  | text s => rfl

/-- Values with commas between them. -/
theorem readLiterals_intercalate {values : List Literal} (hne : values ≠ [])
    (hfin : ∀ v ∈ values, v.isFinite = true) {fuel : Nat} (hfuel : values.length ≤ fuel)
    (h : expect (.symbol ",") rest = none) :
    readLiterals fuel
        ([Token.symbol ","].intercalate (values.map fun v => [literalToken v]) ++ rest) =
      some (values.map Literal.canonical, rest) := by
  induction values generalizing fuel with
  | nil => exact absurd rfl hne
  | cons v values ih =>
    obtain ⟨hv, hvalues⟩ := List.forall_mem_cons.1 hfin
    obtain ⟨fuel, rfl⟩ := Nat.exists_eq_add_of_lt (Nat.lt_of_lt_of_le (Nat.succ_pos _) hfuel)
    rw [Nat.zero_add] at hfuel ⊢
    cases values with
    | nil =>
      rw [readLiterals, List.map_cons, List.map_nil, List.intercalate_singleton,
        List.singleton_append, readLiteral_literalToken hv, Option.bind_eq_bind, Option.bind_some]
      simp only [h]
      rfl
    | cons w values =>
      have hnext := ih (List.cons_ne_nil _ _) hvalues (Nat.le_of_succ_le_succ hfuel)
      rw [List.map_cons] at hnext
      rw [readLiterals, List.map_cons, List.map_cons, List.intercalate_cons_cons,
        List.singleton_append, List.append_assoc, List.cons_append, List.cons_append,
        readLiteral_literalToken hv, Option.bind_eq_bind, Option.bind_some]
      simp only [List.nil_append, expect_self]
      rw [hnext]
      rfl

/-- A list has at least as many tokens as items, none of them empty, which is fuel enough. -/
theorem length_le_intercalate {α : Type} {sep : List α} {tss : List (List α)}
    (h : ∀ ts ∈ tss, ts ≠ []) : tss.length ≤ (sep.intercalate tss).length := by
  induction tss with
  | nil => exact Nat.zero_le _
  | cons ts tss ih =>
    obtain ⟨hts, htss⟩ := List.forall_mem_cons.1 h
    have hpos := List.length_pos_iff.2 hts
    have := ih htss
    cases tss with
    | nil =>
      rw [List.intercalate_singleton]
      exact hpos
    | cons us tss =>
      rw [List.intercalate_cons_cons, List.length_append, List.length_append, List.length_cons]
      omega

/-- `in` and a list of values behind an operand ask whether it is among them. -/
theorem ReadsAs.membership {m : Nat} (h : ReadsAs primary m ts e) (hm : 6 ≤ m) (hts : Opens m ts)
    {values : List Literal} (hne : values ≠ []) (hfin : ∀ v ∈ values, v.isFinite = true) :
    ReadsAs primary 5
      (ts ++ .word "in" :: .symbol "(" ::
        ([Token.symbol ","].intercalate (values.map fun v => [literalToken v]) ++ [.symbol ")"]))
      (.inList e (values.map Literal.canonical)) := by
  refine of_own (by decide) (hts.append (fun _ => lt_of_lt_of_le (by decide) hm) _)
    fun rest hrest => ?_
  rw [readLevel, List.append_assoc, readTested, List.cons_append,
    h 6 hm _ (ends_cons (t := .word "in") rfl (by decide) _), Option.bind_eq_bind,
    Option.bind_some, List.cons_append, List.append_assoc, List.singleton_append]
  simp only
  rw [readTest, if_neg (by decide), if_pos rfl, expect_self, Option.bind_eq_bind, Option.bind_some]
  simp only
  have hlength : (values.map fun v => [literalToken v]).length ≤
      ([Token.symbol ","].intercalate (values.map fun v => [literalToken v])).length :=
    length_le_intercalate (by simp)
  rw [List.length_map] at hlength
  rw [readLiterals_intercalate hne hfin _ rfl, Option.bind_eq_bind, Option.bind_some]
  · simp only [expect_self]
    rfl
  · rw [List.length_append]
    omega

/-- Operands with a word between them. -/
theorem readChain_intercalate {word : String} {tss : List (List Token)} {es : List Expr} {k l : Nat}
    (hword : (Token.word word).binding? = some l) (hl : l < k)
    (h : List.Forall₂ (fun ts e => ∀ rest, Ends k rest → operand (ts ++ rest) = some (e, rest))
      tss es)
    (hne : es ≠ []) {fuel : Nat} (hfuel : es.length ≤ fuel) (hrest : Ends l rest) :
    readChain word operand fuel ([Token.word word].intercalate tss ++ rest) = some (es, rest) := by
  induction h generalizing fuel with
  | nil => exact absurd rfl hne
  | @cons ts e tss es hts htss ih =>
    obtain ⟨fuel, rfl⟩ := Nat.exists_eq_add_of_lt (Nat.lt_of_lt_of_le (Nat.succ_pos _) hfuel)
    rw [Nat.zero_add] at hfuel ⊢
    cases htss with
    | nil =>
      rw [List.intercalate_singleton]
      exact readChain_of_ends (hts rest (hrest.mono hl.le)) (hrest.expect_eq_none hword le_rfl)
    | @cons us f tss es hus htss =>
      have hnext := ih (List.cons_ne_nil _ _) (Nat.le_of_succ_le_succ hfuel)
      rw [readChain, List.intercalate_cons_cons, List.append_assoc, List.append_assoc,
        List.singleton_append, hts _ (ends_cons hword hl _), Option.bind_eq_bind,
        Option.bind_some]
      simp only [expect_self]
      rw [hnext]
      rfl

/-! ### What stands for itself -/

section Primary

variable {whole : Reader Expr} {e : Expr} {ts : List Token}

/-- A reader of whole expressions reads these tokens as an expression. -/
def ReadsWhole (whole : Reader Expr) (ts : List Token) (e : Expr) : Prop :=
  ∀ rest, Ends 0 rest → whole (ts ++ rest) = some (e, rest)

/-- A word is no call unless a parenthesis stands behind it. -/
theorem opensCall_eq_false {t : Token} {name : String} {rest : List Token} (h : Ends 7 rest) :
    opensCall name (t :: rest) = false := by
  have hhead : rest.head? ≠ some (.symbol "(") := fun hhead =>
    absurd (h _ hhead 7 rfl) (lt_irrefl 7)
  simp [opensCall, hhead]

/-- A token that is neither a parenthesis nor followed by one. -/
theorem readPrimary_of_ends {t : Token} {rest : List Token} (ht : t ≠ .symbol "(")
    (h : Ends 7 rest) :
    readPrimary whole (t :: rest) = readAtom (t :: rest) := by
  rw [readPrimary, if_neg (by simp [opensCall_eq_false h]), if_neg (by simp [opensCall_eq_false h]),
    List.head?_cons, if_neg (fun h => ht (Option.some.inj h))]

/-- A name that needs no quotes is neither a reserved word nor that of a function. -/
theorem not_mem_of_isBare {name : String} (h : isBare name = true) :
    name ∉ reservedWords ∧ name ∉ functionWords := by
  unfold isBare at h
  split at h
  · cases h
  · simp only [Bool.and_eq_true, Bool.not_eq_true', List.contains_eq_mem,
      decide_eq_false_iff_not] at h
    exact ⟨h.1.2, h.2⟩

/-- **A column is read from its name**, quoted or not. -/
theorem readsAs_column (name : String) :
    ReadsAs (readPrimary whole) 7 [nameToken name] (.column name) := by
  refine .of_own le_rfl (opens_cons (nameToken_ne_not name) _ _) fun rest hrest => ?_
  rw [readLevel_seven, List.singleton_append, nameToken]
  split_ifs with hbare
  · obtain ⟨hreserved, hfunction⟩ := not_mem_of_isBare hbare
    have hword : Token.word name ≠ .symbol "(" := by rintro ⟨⟩
    have htrue : name ≠ "true" := by
      rintro rfl
      exact hreserved (by decide)
    have hfalse : name ≠ "false" := by
      rintro rfl
      exact hreserved (by decide)
    rw [readPrimary_of_ends hword hrest, readAtom, readLiteral, if_neg htrue, if_neg hfalse]
    simp only
    rw [readName, if_neg (not_or.2 ⟨hreserved, hfunction⟩)]
  · have hquoted : Token.quoted name ≠ .symbol "(" := by rintro ⟨⟩
    rw [readPrimary_of_ends hquoted hrest]
    rfl

/-- A finite value stands for itself. -/
theorem readsAs_literal {v : Literal} (hfin : v.isFinite = true) :
    ReadsAs (readPrimary whole) 7 [literalToken v] (.literal v.canonical) := by
  refine .of_own le_rfl (opens_cons (literalToken_ne_not v) _ _) fun rest hrest => ?_
  have hv : literalToken v ≠ .symbol "(" := by
    cases v with
    | boolean b => cases b <;> decide
    | integer i => exact nofun
    | decimal d => exact nofun
    | text s => exact nofun
  rw [readLevel_seven, List.singleton_append, readPrimary_of_ends hv hrest,
    readAtom, readLiteral_literalToken hfin]

/-- The length of an expression is read as a call. -/
theorem readsAs_charLength (h : ReadsWhole whole ts e) :
    ReadsAs (readPrimary whole) 7 (.word "char_length" :: .symbol "(" :: (ts ++ [.symbol ")"]))
      (.charLength e) := by
  refine .of_own le_rfl (opens_cons (by decide) _ _) fun rest _ => ?_
  rw [readLevel_seven, List.cons_append, List.cons_append, List.append_assoc,
    List.singleton_append, readPrimary, if_pos (by simp [opensCall]), List.drop_succ_cons,
    List.drop_succ_cons, List.drop_zero, h _ (ends_cons_of_none rfl _), Option.bind_eq_bind,
    Option.bind_some]
  rfl

/-- So is an expression with a fallback. -/
theorem readsAs_coalesce (h : ReadsWhole whole ts e) (fallback : Bool) :
    ReadsAs (readPrimary whole) 7
      (.word "coalesce" :: .symbol "(" ::
        (ts ++ [.symbol ",", literalToken (.boolean fallback), .symbol ")"]))
      (.coalesce e fallback) := by
  refine .of_own le_rfl (opens_cons (by decide) _ _) fun rest _ => ?_
  rw [readLevel_seven, List.cons_append, List.cons_append, List.append_assoc, readPrimary,
    if_neg (by simp [opensCall]), if_pos (by simp [opensCall]), List.drop_succ_cons,
    List.drop_succ_cons, List.drop_zero, List.cons_append, h _ (ends_cons_of_none rfl _),
    Option.bind_eq_bind, Option.bind_some]
  cases fallback <;> rfl

/-- Parentheses make an operand of any expression. -/
theorem readsAs_parenthesized (h : ReadsWhole whole ts e) :
    ReadsAs (readPrimary whole) 7 (.symbol "(" :: (ts ++ [.symbol ")"])) e := by
  refine .of_own le_rfl (opens_cons (by decide) _ _) fun rest _ => ?_
  rw [readLevel_seven, List.cons_append, List.append_assoc, List.singleton_append, readPrimary,
    if_neg (by simp [opensCall]), if_neg (by simp [opensCall]), List.head?_cons, if_pos rfl,
    List.tail_cons,
    h _ (ends_cons_of_none rfl _), Option.bind_eq_bind, Option.bind_some]
  rfl

end Primary

/-! ### Whole expressions -/

namespace Expr

/-- **An expression is read back** from its tokens, at least as deep nesting as there
are tokens being enough. -/
def ReadBack (ts : List Token) (l : Nat) (e : Expr) : Prop :=
  ∀ depth, ts.length ≤ depth → ReadsAs (readPrimary (readWithin depth)) l ts e

/-- What is read back is read whole, if the depth is beyond its number of tokens. -/
theorem ReadBack.readsWhole {ts : List Token} {l : Nat} {e : Expr} (h : ReadBack ts l e)
    {depth : Nat} (hdepth : ts.length < depth) : ReadsWhole (readWithin depth) ts e := by
  obtain ⟨depth, rfl⟩ := Nat.exists_eq_add_of_lt (Nat.zero_lt_of_lt hdepth)
  rw [Nat.zero_add] at hdepth ⊢
  intro rest hrest
  rw [readWithin]
  exact h depth (Nat.le_of_lt_succ hdepth) 0 (Nat.zero_le l) rest hrest

/-- An operand is read back from its tokens, in parentheses where it needs them. -/
theorem ReadBack.inParentheses {e f : Expr} (h : ReadBack e.tokens e.level f) :
    ReadBack (e.tokensInParentheses e.tokens) 2 f := by
  intro depth hdepth
  unfold tokensInParentheses at hdepth ⊢
  split_ifs at hdepth ⊢ with hcompound
  · rw [List.length_cons, List.length_append, List.length_singleton] at hdepth
    exact fun k hk => readsAs_parenthesized (h.readsWhole (by omega)) k (hk.trans (by decide))
  · rw [isCompound_iff, Nat.not_lt] at hcompound
    exact fun k hk => h depth hdepth k (hk.trans hcompound)

/-- So does each of several operands. -/
theorem opens_operandTokens {es : List Expr} (h : AllReadable es) :
    ∀ ts ∈ operandTokens es, Opens 2 ts := by
  induction es with
  | nil => exact nofun
  | cons e es ih =>
    rw [operandTokens, List.forall_mem_cons]
    exact ⟨opens_tokensInParentheses (opens_tokens h.1), ih h.2⟩

theorem length_operandTokens (es : List Expr) : (operandTokens es).length = es.length := by
  induction es with
  | nil => rfl
  | cons e es ih => rw [operandTokens, List.length_cons, List.length_cons, ih]

theorem length_canonicals (es : List Expr) : (canonicals es).length = es.length := by
  induction es with
  | nil => rfl
  | cons e es ih => rw [canonicals, List.length_cons, List.length_cons, ih]

/-- A part of a list has no more tokens than the list. -/
theorem length_le_of_mem_intercalate {α : Type} {sep ts : List α} {tss : List (List α)}
    (h : ts ∈ tss) : ts.length ≤ (sep.intercalate tss).length := by
  induction tss with
  | nil => cases h
  | cons us tss ih =>
    cases tss with
    | nil =>
      rw [List.mem_singleton] at h
      rw [h, List.intercalate_singleton]
    | cons vs tss =>
      rw [List.intercalate_cons_cons, List.length_append, List.length_append]
      rcases List.mem_cons.1 h with rfl | h
      · omega
      · have := ih h
        omega

/-- Operands that are read back are read as a chain. -/
theorem readChain_operands {word : String} {es : List Expr} {depth k l : Nat}
    (hword : (Token.word word).binding? = some l) (hl : l < k) (hk : k ≤ 2)
    (hreadable : AllReadable es) (hlength : 2 ≤ es.length)
    (h : List.Forall₂ (ReadsAs (readPrimary (readWithin depth)) 2) (operandTokens es)
      (canonicals es)) {rest : List Token} (hrest : Ends l rest) :
    readChain word (readLevel (readPrimary (readWithin depth)) k)
        ([Token.word word].intercalate (operandTokens es) ++ rest).length
        ([Token.word word].intercalate (operandTokens es) ++ rest) =
      some (canonicals es, rest) := by
  have hne : canonicals es ≠ [] := by
    rw [← List.length_pos_iff, length_canonicals]
    omega
  have htokens : (operandTokens es).length ≤
      ([Token.word word].intercalate (operandTokens es)).length :=
    length_le_intercalate fun ts hts => (opens_operandTokens hreadable ts hts).1
  refine readChain_intercalate hword hl (h.imp fun ts e hts => hts k hk) hne ?_ hrest
  rw [length_canonicals, ← length_operandTokens, List.length_append]
  omega

/-- Two operands or more are joined by a conjunction of their own. -/
theorem all_canonicals {es : List Expr} (h : 2 ≤ es.length) :
    Expr.all (canonicals es) = .and (canonicals es) := by
  match es with
  | [] | [_] => simp at h
  | _ :: _ :: _ => rfl

/-- And by a disjunction. -/
theorem any_canonicals {es : List Expr} (h : 2 ≤ es.length) :
    Expr.any (canonicals es) = .or (canonicals es) := by
  match es with
  | [] | [_] => simp at h
  | _ :: _ :: _ => rfl

mutual

/-- **The tokens of an expression are read as the expression**, in its canonical
form. -/
theorem readBack_tokens : ∀ {e : Expr}, e.Readable → ReadBack e.tokens e.level e.canonical
  | .column name, _ => fun _ _ => readsAs_column name
  | .literal v, h => fun _ _ => readsAs_literal h
  | .compare left op right, h => fun depth hdepth => by
    rw [tokens, List.length_append, List.length_cons] at hdepth
    exact .comparison (readBack_tokens h.1.1 depth (by omega)) h.1.2 (opens_tokens h.1.1)
      (readBack_tokens h.2.1 depth (by omega)) h.2.2 op
  | .modulo e divisor, h => fun depth hdepth => by
    rw [tokens, List.length_append] at hdepth
    exact .remainder (readBack_tokens h.1 depth (by omega)) h.2 (opens_tokens h.1) divisor
  | .charLength e, h => fun depth hdepth => by
    rw [tokens, List.length_cons, List.length_cons, List.length_append] at hdepth
    exact readsAs_charLength ((readBack_tokens (e := e) h).readsWhole (by omega))
  | .between e low high, h => fun depth hdepth => by
    rw [tokens, List.length_append] at hdepth
    exact .between (readBack_tokens h.1.1 depth (by omega)) h.1.2 (opens_tokens h.1.1) h.2.1 h.2.2
  | .inList e values, h => fun depth hdepth => by
    rw [tokens, List.length_append] at hdepth
    exact .membership (readBack_tokens h.1.1 depth (by omega)) h.1.2 (opens_tokens h.1.1) h.2.1
      h.2.2
  | .regexMatch e pattern negated caseInsensitive, h => fun depth hdepth => by
    rw [tokens, List.length_append] at hdepth
    exact .regexMatch (readBack_tokens h.1 depth (by omega)) h.2 (opens_tokens h.1) pattern negated
      caseInsensitive
  | .isNull e negated, h => fun depth hdepth => by
    rw [tokens, List.length_append] at hdepth
    exact .nullTest (readBack_tokens h.1 depth (by omega)) h.2 (opens_tokens h.1) negated
  | .coalesce e fallback, h => fun depth hdepth => by
    rw [tokens, List.length_cons, List.length_cons, List.length_append] at hdepth
    exact readsAs_coalesce ((readBack_tokens (e := e) h).readsWhole (by omega)) fallback
  | .not e, h => fun depth hdepth => by
    rw [tokens, List.length_cons] at hdepth
    exact .negation ((readBack_tokens (e := e) h).inParentheses depth (by omega)) le_rfl
  | .and es, h => fun depth hdepth => by
    -- An operand is a part of the tokens, so that the depth is enough for each of them.
    refine .of_own (by simp [level]) (opens_tokens h) fun rest hrest => ?_
    have hoperands := readBack_operandTokens h.2 fun ts hts =>
      (length_le_of_mem_intercalate hts).trans hdepth
    rw [level, readLevel, tokens, readConjunction,
      readChain_operands (l := 1) rfl (by decide) le_rfl h.2 h.1 hoperands hrest, canonical,
      Option.bind_eq_bind, Option.bind_some, ← all_canonicals h.1]
  | .or es, h => fun depth hdepth => by
    refine .of_own (by simp [level]) (opens_tokens h) fun rest hrest => ?_
    have hoperands := readBack_operandTokens h.2 fun ts hts =>
      (length_le_of_mem_intercalate hts).trans hdepth
    rw [level, readLevel, tokens, readDisjunction,
      readChain_operands (l := 0) rfl (by decide) (by decide) h.2 h.1 hoperands hrest, canonical,
      Option.bind_eq_bind, Option.bind_some, ← any_canonicals h.1]

/-- All operands of a connective are read back, each from its own tokens. -/
theorem readBack_operandTokens : ∀ {es : List Expr} {depth : Nat}, AllReadable es →
    (∀ ts ∈ operandTokens es, ts.length ≤ depth) →
    List.Forall₂ (ReadsAs (readPrimary (readWithin depth)) 2) (operandTokens es) (canonicals es)
  | [], _, _, _ => .nil
  | e :: es, depth, h, hdepth => by
    rw [operandTokens, List.forall_mem_cons] at hdepth
    exact .cons ((readBack_tokens h.1).inParentheses depth hdepth.1)
      (readBack_operandTokens h.2 hdepth.2)

end

end Expr

/-- **A predicate is read back from its text**, whatever its names and values
are. -/
theorem read?_sql {conforming : Bool} {e : Expr} (h : e.Readable) :
    read? conforming e.sql = some e.canonical := by
  have hlex : lex conforming e.sql.toList = some e.tokens := by
    have htokens : Lexes conforming e.sql.toList e.tokens := Expr.lexes_sql h
    simpa [lex_nil] using htokens [] fun _ hc => nomatch hc
  have hread := (Expr.readBack_tokens h).readsWhole (Nat.lt_succ_self _) [] (ends_nil 0)
  rw [List.append_nil] at hread
  rw [read?, hlex, Option.bind_eq_bind, Option.bind_some, hread]
  rfl

/-- Two predicates with one text differ in the types of numbers at most. -/
theorem canonical_eq_of_sql_eq {e f : Expr} (he : e.Readable) (hf : f.Readable)
    (h : e.sql = f.sql) : e.canonical = f.canonical := by
  have hread : read? true e.sql = some e.canonical := read?_sql he
  rw [h, read?_sql hf] at hread
  exact (Option.some.inj hread).symm

end Sql

end ColumnChecks
