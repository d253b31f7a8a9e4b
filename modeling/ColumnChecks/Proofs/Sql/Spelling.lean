import ColumnChecks.Proofs.Sql.Lexing

/-!
# The tokens of a predicate

The text of a predicate is read as the tokens that one would write down for it
(`ColumnChecks.Sql.Expr.tokens`), whatever names and values stand in it
(`ColumnChecks.Sql.Expr.lexes_sql`). From here on nothing is about characters any
more.

Not every expression has a text that makes sense. An expression is readable
(`ColumnChecks.Sql.Expr.Readable`) if its names are not empty, its numbers finite and
its connectives not degenerate, and if every operand binds more tightly than what
it is an operand of, so that it needs no parentheses where it has none. How tightly
an expression binds is its level.
-/

namespace ColumnChecks

namespace Sql

/-! ### What an expression is written with -/

/-- The token of a value. -/
def literalToken : Literal → Token
  | .boolean true => .word "true"
  | .boolean false => .word "false"
  | .integer i => .numeral (toString i.toInt)
  | .decimal d => .numeral (Decimal.plain.write d)
  | .text s => .text s

namespace Expr

/-- The tokens of an operand, given its own tokens. -/
def tokensInParentheses (e : Expr) (ts : List Token) : List Token :=
  if e.isCompound then .symbol "(" :: (ts ++ [.symbol ")"]) else ts

mutual

/-- The tokens of an expression. -/
def tokens : Expr → List Token
  | .column name => [nameToken name]
  | .literal v => [literalToken v]
  | .compare left op right => tokens left ++ .symbol op.sql :: tokens right
  | .modulo e divisor => tokens e ++ [.symbol "%", .numeral (toString divisor.toInt)]
  | .charLength e => .word "char_length" :: .symbol "(" :: (tokens e ++ [.symbol ")"])
  | .between e low high =>
    tokens e ++ [.word "between", .numeral low.text, .word "and", .numeral high.text]
  | .inList e values =>
    tokens e ++ .word "in" :: .symbol "(" ::
      ([Token.symbol ","].intercalate (values.map fun v => [literalToken v]) ++ [.symbol ")"])
  | .regexMatch e pattern negated caseInsensitive =>
    tokens e ++ [.symbol (matchOperator negated caseInsensitive), .text pattern]
  | .isNull e negated =>
    tokens e ++
      if negated then [.word "is", .word "not", .word "null"] else [.word "is", .word "null"]
  | .coalesce e fallback =>
    .word "coalesce" :: .symbol "(" ::
      (tokens e ++ [.symbol ",", literalToken (.boolean fallback), .symbol ")"])
  | .not e => .word "not" :: tokensInParentheses e (tokens e)
  | .and es => [Token.word "and"].intercalate (operandTokens es)
  | .or es => [Token.word "or"].intercalate (operandTokens es)

/-- The tokens of the operands of a connective. -/
def operandTokens : List Expr → List (List Token)
  | [] => []
  | e :: es => tokensInParentheses e (tokens e) :: operandTokens es

end

/-! ### What can be read -/

/-- **How tightly an expression binds.** From the loosest on: disjunction,
conjunction, negation, `IS NULL`, comparison, `BETWEEN` with `IN` and matching, the
remainder, and what stands for itself. -/
def level : Expr → Nat
  | .or _ => 0
  | .and _ => 1
  | .not _ => 2
  | .isNull _ _ => 3
  | .compare _ _ _ => 4
  | .between _ _ _ | .inList _ _ | .regexMatch _ _ _ _ => 5
  | .modulo _ _ => 6
  | .column _ | .literal _ | .charLength _ | .coalesce _ _ => 7

mutual

/-- **An expression can be read back**: its parts make sense, and operands without
parentheses bind tightly enough. -/
def Readable : Expr → Prop
  | .column name => name ≠ ""
  | .literal v => v.isFinite = true
  | .compare left _ right =>
    (Readable left ∧ 5 ≤ left.level) ∧ Readable right ∧ 5 ≤ right.level
  | .modulo e _ => Readable e ∧ 7 ≤ e.level
  | .charLength e => Readable e
  | .between e low high =>
    (Readable e ∧ 6 ≤ e.level) ∧ low.isFinite = true ∧ high.isFinite = true
  | .inList e values =>
    (Readable e ∧ 6 ≤ e.level) ∧ values ≠ [] ∧ ∀ v ∈ values, v.isFinite = true
  | .regexMatch e _ _ _ => Readable e ∧ 6 ≤ e.level
  | .isNull e _ => Readable e ∧ 4 ≤ e.level
  | .coalesce e _ => Readable e
  | .not e => Readable e
  | .and es => 2 ≤ es.length ∧ AllReadable es
  | .or es => 2 ≤ es.length ∧ AllReadable es

/-- All operands can be read back. -/
def AllReadable : List Expr → Prop
  | [] => True
  | e :: es => Readable e ∧ AllReadable es

end

theorem allReadable_iff {es : List Expr} : AllReadable es ↔ ∀ e ∈ es, e.Readable := by
  induction es with
  | nil => simp [AllReadable]
  | cons e es ih => simp [AllReadable, ih]

/-- The compound expressions are those that bind more loosely than a negation. -/
theorem isCompound_iff {e : Expr} : e.isCompound = true ↔ e.level < 2 := by
  cases e <;> simp [isCompound, level]

end Expr

/-! ### Texts with tokens -/

variable {conforming : Bool}

/-- The characters that end every token before them. -/
def isSeparator (c : Char) : Bool := c == ' ' || c == ',' || c == ')' || c == '('

/-- A text that cannot go on with what stands before it. -/
def Separated (cs : List Char) : Prop := ∀ c ∈ cs.head?, isSeparator c = true

/-- A run of characters stops where the next token is set apart from it. -/
theorem Separated.stopsAt {rest : List Char} (h : Separated rest) {p : Char → Bool}
    (hp : p ' ' = false ∧ p ',' = false ∧ p ')' = false ∧ p '(' = false) : StopsAt p rest := by
  intro c hc
  have := h c hc
  simp only [isSeparator, Bool.or_eq_true, beq_iff_eq] at this
  rcases this with ((rfl | rfl) | rfl) | rfl
  · exact hp.1
  · exact hp.2.1
  · exact hp.2.2.1
  · exact hp.2.2.2

theorem Separated.head?_ne {rest : List Char} (h : Separated rest) {c : Char}
    (hc : isSeparator c = false) : rest.head? ≠ some c := by
  intro hhead
  have := h c hhead
  rw [hc] at this
  cases this

/-- No token starts with a blank. -/
theorem not_isSpace_of_token? {c : Char} {cs : List Char} {found : Token × List Char}
    (h : token? conforming (c :: cs) = some found) : isSpace c = false := by
  rw [Bool.eq_false_iff]
  intro hspace
  have hother : c ≠ '"' ∧ c ≠ '\'' ∧ c ≠ 'E' ∧ c ≠ 'e' ∧ isWordStart c = false ∧
      c.isDigit = false ∧ c ≠ '-' ∧ (c ≠ '(' ∧ c ≠ ')' ∧ c ≠ ',') ∧ isOperatorChar c = false := by
    simp only [isSpace, Bool.or_eq_true, beq_iff_eq] at hspace
    rcases hspace with (((rfl | rfl) | rfl) | rfl) | rfl <;> decide
  obtain ⟨h1, h2, h3, h4, h5, h6, h7, ⟨h8, h9, h10⟩, h11⟩ := hother
  rw [token?, if_neg h1, if_neg h2, if_neg (fun h => h.1.elim h3 h4), if_neg (by simp [h5]),
    if_neg (by simp [h6]), if_neg (fun h => h7 h.1),
    if_neg (fun h => h.elim h8 fun h => h.elim h9 h10), if_neg (by simp [h11])] at h
  cases h

/-- **A text has tokens**, whatever stands behind it. -/
def Lexes (conforming : Bool) (cs : List Char) (ts : List Token) : Prop :=
  ∀ rest, Separated rest →
    lex conforming (cs ++ rest) = (lex conforming rest).map (ts ++ ·)

namespace Lexes

variable {cs ds : List Char} {ts us : List Token}

/-- A token has this text if it is read from it with anything behind that is set apart. -/
theorem of_token {t : Token}
    (h : ∀ rest, Separated rest → token? conforming (cs ++ rest) = some (t, rest)) :
    Lexes conforming cs [t] := by
  intro rest hrest
  cases cs with
  | nil =>
    have hnil := h [] fun c hc => nomatch hc
    cases hnil
  | cons c cs =>
    have htoken := h rest hrest
    rw [List.cons_append] at htoken ⊢
    rw [lex_of_token (fun d hd => ?_) htoken]
    · rfl
    · cases hd
      exact not_isSpace_of_token? htoken

/-- **Texts behind each other** have the tokens of both if the second is set apart from the
first. -/
theorem append (h : Lexes conforming cs ts) (h' : Lexes conforming ds us) (hds : ds ≠ [])
    (hseparated : Separated ds) : Lexes conforming (cs ++ ds) (ts ++ us) := by
  intro rest hrest
  have hds' : Separated (ds ++ rest) := by
    cases ds with
    | nil => exact absurd rfl hds
    | cons d ds => exact hseparated
  rw [List.append_assoc, h _ hds', h' rest hrest, Option.map_map]
  congr 1
  funext more
  exact (List.append_assoc _ _ _).symm

/-- Blanks between tokens are nothing. -/
theorem space (h : Lexes conforming cs ts) : Lexes conforming (' ' :: cs) ts := by
  intro rest hrest
  rw [List.cons_append, lex_space rfl]
  exact h rest hrest

/-- A space sets them apart. -/
theorem append_space (h : Lexes conforming cs ts) (h' : Lexes conforming ds us) :
    Lexes conforming (cs ++ ' ' :: ds) (ts ++ us) :=
  h.append h'.space (List.cons_ne_nil _ _) fun _ hc => by
    cases hc
    rfl

/-- A parenthesis or a comma in front of more. -/
theorem symbol_cons {c : Char} (hc : c = '(' ∨ c = ')' ∨ c = ',') (h : Lexes conforming cs ts) :
    Lexes conforming (c :: cs) (.symbol (String.ofList [c]) :: ts) := by
  intro rest hrest
  rw [List.cons_append, lex_of_token (fun d hd => ?_) (token?_parenthesis hc _), h rest hrest,
    Option.map_map]
  · rfl
  · cases hd
    rcases hc with rfl | rfl | rfl <;> rfl

theorem nil : Lexes conforming [] [] := by
  intro rest _
  rw [List.nil_append]
  cases lex conforming rest <;> rfl

/-- Parentheses need no space. -/
theorem parenthesized (h : Lexes conforming cs ts) :
    Lexes conforming ('(' :: (cs ++ [')'])) (.symbol "(" :: (ts ++ [.symbol ")"])) := by
  refine symbol_cons (Or.inl rfl) (h.append (symbol_cons (Or.inr (Or.inl rfl)) nil) ?_ ?_)
  · exact List.cons_ne_nil _ _
  · intro c hc
    cases hc
    rfl

/-- Texts joined by something that has tokens of its own. -/
theorem intercalate {sep : List Char} {sepTokens : List Token} (hne : sep ≠ [])
    (hseparated : Separated sep)
    (hsep : ∀ cs ts, Lexes conforming cs ts → Lexes conforming (sep ++ cs) (sepTokens ++ ts))
    {css : List (List Char)} {tss : List (List Token)}
    (h : List.Forall₂ (Lexes conforming) css tss) :
    Lexes conforming (sep.intercalate css) (sepTokens.intercalate tss) := by
  induction h with
  | nil => exact nil
  | @cons cs ts css tss hcs hcss ih =>
    cases hcss with
    | nil =>
      rw [List.intercalate_singleton, List.intercalate_singleton]
      exact hcs
    | cons hcs' hcss =>
      rw [List.intercalate_cons_cons, List.intercalate_cons_cons, List.append_assoc,
        List.append_assoc]
      refine hcs.append (hsep _ _ ih) ?_ ?_
      · exact List.append_ne_nil_of_left_ne_nil hne _
      · intro c hc
        cases sep with
        | nil => exact absurd rfl hne
        | cons d sep => exact hseparated c hc

end Lexes

/-! ### The pieces -/

/-- **A name** is one token, quoted or not. -/
theorem lexes_name {name : String} (hname : name ≠ "") :
    Lexes conforming (quoteIdentifier name).toList [nameToken name] :=
  .of_token fun _ hrest => token?_quoteIdentifier hname
    (hrest.stopsAt (by decide)) (fun _ => hrest.head?_ne (by decide)) (hrest.head?_ne (by decide))

/-- **A text** is one token, whatever is in it. -/
theorem lexes_text (text : String) : Lexes conforming (quoteText text).toList [.text text] :=
  .of_token fun _ hrest => token?_quoteText text (hrest.head?_ne (by decide))

/-- **A numeral** is one token. -/
theorem lexes_numeral {n : Decimal.Numeral} {text : String} (h : n.Writes text) :
    Lexes conforming text.toList [.numeral text] := by
  refine .of_token fun rest hrest => ?_
  rw [h, token?_numeral n (hrest.stopsAt (by decide)) (hrest.head?_ne (by decide)), ← h,
    String.ofList_toList]

theorem lexes_integer (i : Int) : Lexes conforming (toString i).toList [.numeral (toString i)] :=
  lexes_numeral (Decimal.Numeral.ofInt_writes i)

/-- A finite decimal is written without an exponent. -/
theorem lexes_decimal {d : Decimal} (hfin : d.isFinite = true) :
    Lexes conforming (Decimal.plain.write d).toList [.numeral (Decimal.plain.write d)] := by
  obtain ⟨n, hn, -⟩ := Decimal.exists_numeral_plain hfin
  exact lexes_numeral hn

theorem lexes_number {n : Numeric} (hfin : n.isFinite = true) :
    Lexes conforming n.text.toList [.numeral n.text] := by
  cases n with
  | integer i => exact lexes_integer i.toInt
  | decimal d => exact lexes_decimal hfin

/-- A keyword. -/
theorem lexes_word (c : Char) (cs : List Char) (word : String)
    (h : (c :: cs).all isWordStart = true) (hword : (c :: cs).map Char.toLower = word.toList) :
    Lexes conforming (c :: cs) [.word word] := by
  obtain ⟨hc, hcs⟩ := List.forall_mem_cons.1 (List.all_eq_true.1 h)
  rw [← String.ofList_toList (s := word), ← hword]
  refine .of_token fun rest hrest => token?_word hc
    (fun d hd => isWordRest_of_isWordStart (hcs d hd)) (hrest.stopsAt (by decide)) fun _ => ?_
  cases cs with
  | nil => exact hrest.head?_ne (by decide)
  | cons d cs =>
    intro hquote
    exact (ne_of_isWordStart (hcs d List.mem_cons_self)).2 (Option.some_inj.1 hquote)

/-- Characters of operators that stand together are one operator. -/
theorem lexes_operator (c : Char) (cs : List Char) (h : (c :: cs).all isOperatorChar = true) :
    Lexes conforming (c :: cs) [.symbol (String.ofList (c :: cs))] :=
  .of_token fun _ hrest => token?_operator (List.all_eq_true.1 h) (hrest.stopsAt (by decide))

theorem lexes_percent : Lexes conforming ['%'] [.symbol "%"] :=
  lexes_operator '%' [] (by decide)

theorem lexes_comparison (op : Comparison) :
    Lexes conforming op.sql.toList [.symbol op.sql] := by
  cases op
  · exact lexes_operator '=' [] (by decide)
  · exact lexes_operator '<' ['>'] (by decide)
  · exact lexes_operator '<' [] (by decide)
  · exact lexes_operator '<' ['='] (by decide)
  · exact lexes_operator '>' [] (by decide)
  · exact lexes_operator '>' ['='] (by decide)

/-- The operators of a match have up to three characters. -/
theorem lexes_matchOperator (negated caseInsensitive : Bool) :
    Lexes conforming (matchOperator negated caseInsensitive).toList
      [.symbol (matchOperator negated caseInsensitive)] := by
  cases negated <;> cases caseInsensitive
  · exact lexes_operator '~' [] (by decide)
  · exact lexes_operator '~' ['*'] (by decide)
  · exact lexes_operator '!' ['~'] (by decide)
  · exact lexes_operator '!' ['~', '*'] (by decide)

/-- **A finite value** is one token. -/
theorem lexes_literal {v : Literal} (hfin : v.isFinite = true) :
    Lexes conforming (literalSql v).toList [literalToken v] := by
  cases v with
  | boolean b =>
    cases b with
    | false => exact lexes_word 'F' ['A', 'L', 'S', 'E'] "false" (by decide) rfl
    | true => exact lexes_word 'T' ['R', 'U', 'E'] "true" (by decide) rfl
  | integer i => exact lexes_integer i.toInt
  | decimal d => exact lexes_decimal hfin
  | text s => exact lexes_text s

/-- Values in a list have commas between them. -/
theorem lexes_literals {values : List Literal} (hfin : ∀ v ∈ values, v.isFinite = true) :
    Lexes conforming ([',', ' '].intercalate ((values.map literalSql).map String.toList))
      ([Token.symbol ","].intercalate (values.map fun v => [literalToken v])) := by
  refine .intercalate (List.cons_ne_nil _ _) (fun c hc => ?_) (fun cs ts h => ?_) ?_
  · cases hc
    rfl
  · exact .symbol_cons (Or.inr (Or.inr rfl)) h.space
  · rw [List.map_map, List.forall₂_map_left_iff, List.forall₂_map_right_iff, List.forall₂_same]
    exact fun v hv => lexes_literal (hfin v hv)

theorem separated_comma {cs : List Char} : Separated (',' :: cs) := fun c hc => by
  cases hc
  rfl

/-! ### The keywords -/

theorem lexes_and : Lexes conforming ['A', 'N', 'D'] [.word "and"] :=
  lexes_word _ _ "and" (by decide) rfl

theorem lexes_or : Lexes conforming ['O', 'R'] [.word "or"] :=
  lexes_word _ _ "or" (by decide) rfl

theorem lexes_not : Lexes conforming ['N', 'O', 'T'] [.word "not"] :=
  lexes_word _ _ "not" (by decide) rfl

theorem lexes_is : Lexes conforming ['I', 'S'] [.word "is"] :=
  lexes_word _ _ "is" (by decide) rfl

theorem lexes_null : Lexes conforming ['N', 'U', 'L', 'L'] [.word "null"] :=
  lexes_word _ _ "null" (by decide) rfl

theorem lexes_in : Lexes conforming ['I', 'N'] [.word "in"] :=
  lexes_word _ _ "in" (by decide) rfl

theorem lexes_between : Lexes conforming ['B', 'E', 'T', 'W', 'E', 'E', 'N'] [.word "between"] :=
  lexes_word _ _ "between" (by decide) rfl

theorem lexes_coalesce :
    Lexes conforming ['C', 'O', 'A', 'L', 'E', 'S', 'C', 'E'] [.word "coalesce"] :=
  lexes_word _ _ "coalesce" (by decide) rfl

theorem lexes_char_length :
    Lexes conforming ['c', 'h', 'a', 'r', '_', 'l', 'e', 'n', 'g', 't', 'h']
      [.word "char_length"] :=
  lexes_word _ _ "char_length" (by decide) rfl

/-! ### Whole predicates -/

namespace Expr

/-- Connectives join their operands with a word between blanks. -/
theorem lexes_connective {c : Char} {cs : List Char} {word : String}
    (hword : Lexes conforming (c :: cs) [.word word]) {texts : List String}
    {tss : List (List Token)}
    (h : List.Forall₂ (Lexes conforming) (texts.map String.toList) tss) :
    Lexes conforming ((' ' :: (c :: cs) ++ [' ']).intercalate (texts.map String.toList))
      ([Token.word word].intercalate tss) := by
  refine .intercalate (List.cons_ne_nil _ _) (fun d hd => ?_) (fun ds ts hds => ?_) h
  · cases hd
    rfl
  · have := (hword.append_space hds).space
    simpa using this

/-- A word with an argument in parentheses. -/
theorem lexes_call {cs inner : List Char} {word : String} {ts : List Token}
    (hword : Lexes conforming cs [.word word]) (h : Lexes conforming inner ts) :
    Lexes conforming (cs ++ '(' :: (inner ++ [')']))
      (.word word :: .symbol "(" :: (ts ++ [.symbol ")"])) := by
  refine hword.append h.parenthesized (List.cons_ne_nil _ _) fun d hd => ?_
  cases hd
  rfl

/-- An operand of a connective has its tokens, and parentheses where it needs them. -/
theorem lexes_inParentheses {e : Expr} (h : Lexes conforming e.sql.toList e.tokens) :
    Lexes conforming (e.inParentheses e.sql).toList (e.tokensInParentheses e.tokens) := by
  unfold inParentheses tokensInParentheses
  split_ifs
  · simpa using h.parenthesized
  · exact h

mutual

/-- **The text of a predicate is read as its tokens.** -/
theorem lexes_sql : ∀ {e : Expr}, e.Readable → Lexes conforming e.sql.toList e.tokens
  | .column name, h => lexes_name h
  | .literal v, h => lexes_literal h
  | .compare left op right, h => by
    have hleft := lexes_sql h.1.1
    have hright := lexes_sql h.2.1
    have := hleft.append_space ((lexes_comparison op).append_space hright)
    simpa [sql, tokens] using this
  | .modulo e divisor, h => by
    have := (lexes_sql h.1).append_space
      (lexes_percent.append_space (lexes_integer divisor.toInt))
    simpa [sql, tokens] using this
  | .charLength e, h => by
    have := lexes_call lexes_char_length (lexes_sql (e := e) h)
    simpa [sql, tokens] using this
  | .between e low high, h => by
    have := (lexes_sql h.1.1).append_space (lexes_between.append_space
      ((lexes_number h.2.1).append_space (lexes_and.append_space (lexes_number h.2.2))))
    simpa [sql, tokens] using this
  | .inList e values, h => by
    have := (lexes_sql h.1.1).append_space
      (lexes_in.append_space (lexes_literals h.2.2).parenthesized)
    simpa [sql, tokens] using this
  | .regexMatch e pattern negated caseInsensitive, h => by
    have := (lexes_sql h.1).append_space
      ((lexes_matchOperator negated caseInsensitive).append_space (lexes_text pattern))
    simpa [sql, tokens] using this
  | .isNull e negated, h => by
    cases negated with
    | false =>
      have := (lexes_sql h.1).append_space (lexes_is.append_space lexes_null)
      simpa [sql, tokens] using this
    | true =>
      have := (lexes_sql h.1).append_space (lexes_is.append_space
        (lexes_not.append_space lexes_null))
      simpa [sql, tokens] using this
  | .coalesce e fallback, h => by
    have hfallback : Lexes conforming _ _ := lexes_literal (v := .boolean fallback) rfl
    have harguments := (lexes_sql (e := e) h).append
      (.symbol_cons (Or.inr (Or.inr rfl)) hfallback.space) (List.cons_ne_nil _ _) separated_comma
    have := lexes_call lexes_coalesce harguments
    cases fallback <;> simpa [sql, tokens, literalSql] using this
  | .not e, h => by
    have := lexes_not.append_space (lexes_inParentheses (lexes_sql (e := e) h))
    simpa [sql, tokens] using this
  | .and es, h => by
    have := lexes_connective lexes_and (lexes_operandTexts h.2)
    simpa [sql, tokens] using this
  | .or es, h => by
    have := lexes_connective lexes_or (lexes_operandTexts h.2)
    simpa [sql, tokens] using this

/-- All operands of a connective have their tokens. -/
theorem lexes_operandTexts : ∀ {es : List Expr}, AllReadable es →
    List.Forall₂ (Lexes conforming) ((operandTexts es).map String.toList) (operandTokens es)
  | [], _ => .nil
  | _ :: _, h => .cons (lexes_inParentheses (lexes_sql h.1)) (lexes_operandTexts h.2)

end

end Expr

end Sql

end ColumnChecks
