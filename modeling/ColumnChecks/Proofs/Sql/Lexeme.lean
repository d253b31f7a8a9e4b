import ColumnChecks.Proofs.Sql.Comments
import ColumnChecks.Proofs.Sql.Statements

/-!
# Names and texts before anything

In a predicate a name or a text is followed by a blank, a comma or a parenthesis. Here anything
may follow, and the reader is that of a whole server (`ColumnChecks.Sql.lexeme?`): a text goes on
behind a line end if another quote comes first there, blanks and comments passed over
(`ColumnChecks.Sql.continued?`), and some letters open constants of their own when a quote follows
(`ColumnChecks.Sql.opensConstant`), such as bits and national characters. Constants of these kinds
are not read any further.

So what follows matters more than it seems. A text is read as one token, before anything but a
quote, **just if it does not go on** (`ColumnChecks.Sql.lexeme?_quoteText_iff`). A name is, before
anything but a letter or a double quote, **just if it does not clash** with what follows
(`ColumnChecks.Sql.exists_lexeme?_iff`): the five names `b`, `e`, `n`, `x` and `u` are written bare
and are letters of that kind. `ColumnChecks.Sql.lexeme?_quoted` says both, and that a reference to a
table is read back as that table.
-/

namespace ColumnChecks

namespace Sql

variable {conforming : Bool}

/-! ### The reader -/

/-- Where a text goes on behind its closing quote: behind another quote, with nothing but blanks
and comments of a line before that, and a line end among them. -/
def continued? (lineEnd comment : Bool) : List Char → Option (List Char)
  | [] => none
  | c :: cs =>
    if comment then continued? (lineEnd || isLineEnd c) (!isLineEnd c) cs
    else if isSpace c then continued? (lineEnd || isLineEnd c) false cs
    else if c = '-' ∧ cs.head? = some '-' then continued? lineEnd true cs
    else if c = '\'' ∧ lineEnd then some cs
    else none

/-- The further pieces of a text, no more than so many, and what stands behind them. -/
def furtherPieces (escapes : Bool) : Nat → List Char → Option (List Char × List Char)
  | 0, cs => some ([], cs)
  | pieces + 1, cs =>
    match continued? false false cs with
    | none => some ([], cs)
    | some behind => (readMarked '\'' escapes behind).bind fun (s, rest) =>
      (furtherPieces escapes pieces rest).map fun (more, rest) => (s ++ more, rest)

/-- Whether a text starts with a constant of another kind: bits, hexadecimal digits or national
characters, or a name or text with escapes of Unicode characters. -/
def opensConstant : List Char → Bool
  | c :: '\'' :: _ => ['B', 'b', 'N', 'n', 'X', 'x'].contains c
  | c :: '&' :: d :: _ => (c == 'U' || c == 'u') && (d == '\'' || d == '"')
  | _ => false

/-- **The name, text or other token** that a text starts with, and the rest. -/
def lexeme? (conforming : Bool) (cs : List Char) : Option (Token × List Char) :=
  if opensConstant cs then none
  else
    (token? conforming cs).bind fun
      | (.text s, rest) =>
        let escapes := !conforming || cs.head? != some '\''
        (furtherPieces escapes rest.length rest).map fun (more, rest) =>
          (.text (s ++ String.ofList more), rest)
      | found => some found

/-- The name that a token is as an identifier. Reserved words are none. -/
def Token.identifier? : Token → Option String
  | .word spelled =>
    if reservedWords.contains spelled || functionWords.contains spelled then none
    else some spelled
  | .quoted name => some name
  | _ => none

/-- The name that a text starts with, and the rest. -/
def identifier? (conforming : Bool) (cs : List Char) : Option (String × List Char) :=
  (lexeme? conforming cs).bind fun (t, rest) => t.identifier?.map fun name => (name, rest)

/-- The reference to a table that a text starts with, and the rest. -/
def tableRef? (conforming : Bool) (cs : List Char) : Option (TableRef × List Char) :=
  (identifier? conforming cs).bind fun (first, rest) =>
    match rest with
    | '.' :: rest =>
      (identifier? conforming rest).map fun (second, rest) => (⟨some first, second⟩, rest)
    | _ => some (⟨none, first⟩, rest)

/-- **A name clashes with what follows** if the two open a constant: one of the letters `b`, `e`,
`n` and `x` before a quote, and `u` before an ampersand and a quote of either kind. -/
def Clashes (name : String) (rest : List Char) : Prop :=
  name ∈ ["b", "e", "n", "x"] ∧ rest.head? = some '\'' ∨
    name = "u" ∧ (['&', '\''] <+: rest ∨ ['&', '"'] <+: rest)

/-! ### Texts -/

theorem length_continued? {lineEnd comment : Bool} {cs rest : List Char}
    (h : continued? lineEnd comment cs = some rest) : rest.length < cs.length := by
  induction cs generalizing lineEnd comment with
  | nil => cases h
  | cons c cs ih =>
    rw [continued?] at h
    split_ifs at h
    · exact (ih h).trans (Nat.lt_succ_self _)
    · exact (ih h).trans (Nat.lt_succ_self _)
    · exact (ih h).trans (Nat.lt_succ_self _)
    · cases h
      exact Nat.lt_succ_self _

theorem length_furtherPieces {escapes : Bool} {pieces : Nat} {cs s rest : List Char}
    (h : furtherPieces escapes pieces cs = some (s, rest)) : rest.length ≤ cs.length := by
  induction pieces generalizing cs s rest with
  | zero =>
    cases h
    exact le_rfl
  | succ pieces ih =>
    rw [furtherPieces] at h
    split at h
    · cases h
      exact le_rfl
    · next behind hbehind =>
      obtain ⟨⟨s', rest'⟩, hread, hmore⟩ := Option.bind_eq_some_iff.1 h
      obtain ⟨⟨more, rest''⟩, hfurther, hpair⟩ := Option.map_eq_some_iff.1 hmore
      cases hpair
      calc rest.length ≤ rest'.length := ih hfurther
        _ ≤ behind.length := (length_readMarked hread).le
        _ ≤ cs.length := (length_continued? hbehind).le

/-- What stands behind a text is left alone just if the text does not go on there. -/
theorem furtherPieces_eq_iff {escapes : Bool} {cs : List Char} :
    furtherPieces escapes cs.length cs = some ([], cs) ↔ continued? false false cs = none := by
  cases cs with
  | nil => exact ⟨fun _ => rfl, fun _ => rfl⟩
  | cons c cs =>
    rw [List.length_cons, furtherPieces]
    constructor
    · intro h
      split at h
      · next hnone => exact hnone
      · next behind hbehind =>
        obtain ⟨⟨s', rest'⟩, hread, hmore⟩ := Option.bind_eq_some_iff.1 h
        obtain ⟨⟨more, rest''⟩, hfurther, hpair⟩ := Option.map_eq_some_iff.1 hmore
        obtain rfl : rest'' = c :: cs := congrArg Prod.snd hpair
        have hlength := length_furtherPieces hfurther
        have hread := length_readMarked hread
        have hbehind := length_continued? hbehind
        omega
    · intro h
      rw [h]

/-- **What opens a constant** is one of some letters and a quote. -/
theorem opensConstant_cons_iff {c : Char} {cs : List Char} :
    opensConstant (c :: cs) = true ↔
      c ∈ ['B', 'b', 'N', 'n', 'X', 'x'] ∧ cs.head? = some '\'' ∨
        (c = 'U' ∨ c = 'u') ∧ (['&', '\''] <+: cs ∨ ['&', '"'] <+: cs) := by
  rcases cs with _ | ⟨d, _ | ⟨e, cs⟩⟩
  · simp [opensConstant]
  · by_cases hd : d = '\''
    · simp [opensConstant, hd]
    · simp [opensConstant, hd]
  · by_cases hd : d = '\''
    · simp [opensConstant, hd]
    · by_cases hand : d = '&'
      · simp [opensConstant, hand, @eq_comm _ '\'' e, @eq_comm _ '"' e]
      · simp [opensConstant, hd, hand, Ne.symm hand]

theorem opensConstant_quoteText (text : String) (rest : List Char) :
    opensConstant ((quoteText text).toList ++ rest) = false := by
  simp only [quoteText]
  split_ifs with hback
  · rw [String.toList_ofList]
    exact Bool.eq_false_iff.2 fun h => by simp [opensConstant_cons_iff] at h
  · rw [String.toList_ofList, doubled_eq]
    exact Bool.eq_false_iff.2 fun h => by simp [opensConstant_cons_iff] at h

/-- **A text is read as one token**, before anything but a quote, just if it does not go on. -/
theorem lexeme?_quoteText_iff (text : String) {rest : List Char} (hrest : rest.head? ≠ some '\'') :
    lexeme? conforming ((quoteText text).toList ++ rest) = some (.text text, rest) ↔
      continued? false false rest = none := by
  rw [lexeme?, opensConstant_quoteText, if_neg Bool.false_ne_true, token?_quoteText text hrest,
    Option.bind_some]
  simp only [Option.map_eq_some_iff, Prod.mk.injEq, Token.text.injEq, Prod.exists]
  rw [← furtherPieces_eq_iff]
  constructor
  · rintro ⟨more, rest', hfurther, htext, rfl⟩
    obtain rfl : more = [] := by
      have hlist := congrArg String.toList htext
      rw [String.toList_append, String.toList_ofList] at hlist
      exact List.append_right_eq_self.1 hlist
    exact hfurther
  · intro hfurther
    exact ⟨[], rest, hfurther, String.append_empty, rfl⟩

/-! ### Names -/

theorem identifier?_nameToken (name : String) : (nameToken name).identifier? = some name := by
  rw [nameToken]
  split_ifs with hbare
  · unfold isBare at hbare
    split at hbare
    · cases hbare
    · simp only [Bool.and_eq_true, Bool.not_eq_true'] at hbare
      rw [Token.identifier?, hbare.1.2, hbare.2]
      rfl
  · rfl

/-- What is not of the kind that names are made of stands behind a name. -/
theorem eq_nil_of_head?_append {cs rest : List Char} (hcs : ∀ c ∈ cs, isBareRest c = true) {c : Char}
    (hc : isBareRest c = false) (h : (cs ++ rest).head? = some c) : cs = [] := by
  cases cs with
  | nil => rfl
  | cons d cs => exact absurd (Option.some_inj.1 h) (ne_of_kind (hcs d List.mem_cons_self) hc)

/-- **A name that opens a constant** clashes with what follows. -/
theorem clashes_of_opensConstant {name : String} {rest : List Char}
    (h : opensConstant ((quoteIdentifier name).toList ++ rest) = true) :
    Clashes name rest := by
  rw [quoteIdentifier] at h
  split_ifs at h with hbare
  · unfold isBare at hbare
    cases hname : name.toList with
    | nil =>
      rw [hname] at hbare
      cases hbare
    | cons c cs =>
      rw [hname] at h hbare
      simp only [Bool.and_eq_true, List.all_eq_true] at hbare
      obtain ⟨⟨⟨hstart, hall⟩, -⟩, -⟩ := hbare
      have hspelled : ∀ {d : Char}, cs = [] → c = d → name = String.ofList [d] := by
        rintro d rfl rfl
        rw [← hname, String.ofList_toList]
      rw [List.cons_append, opensConstant_cons_iff] at h
      rcases h with ⟨hletter, hquote⟩ | ⟨hletter, hquote⟩
      · have hnil : cs = [] := eq_nil_of_head?_append hall (by decide) hquote
        rw [hnil, List.nil_append] at hquote
        simp only [List.mem_cons, List.not_mem_nil, or_false] at hletter
        -- The capital letters start no bare name.
        rcases hletter with rfl | hb | rfl | hn | rfl | hx
        · cases hstart
        · rw [hspelled hnil hb]
          exact Or.inl ⟨by decide, hquote⟩
        · cases hstart
        · rw [hspelled hnil hn]
          exact Or.inl ⟨by decide, hquote⟩
        · cases hstart
        · rw [hspelled hnil hx]
          exact Or.inl ⟨by decide, hquote⟩
      · have hand : (cs ++ rest).head? = some '&' := by
          rcases hquote with ⟨more, hmore⟩ | ⟨more, hmore⟩
          · rw [← hmore]
            rfl
          · rw [← hmore]
            rfl
        have hnil : cs = [] := eq_nil_of_head?_append hall (by decide) hand
        rw [hnil, List.nil_append] at hquote
        rcases hletter with rfl | hu
        · cases hstart
        · rw [hspelled hnil hu]
          exact Or.inr ⟨rfl, hquote⟩
  · rw [String.toList_ofList, doubled_eq, List.cons_append, opensConstant_cons_iff] at h
    simp at h

/-- A name is no constant, nor is it a token of another kind, unless it clashes. -/
theorem lexeme?_quoteIdentifier {name : String} {rest : List Char} (hname : name ≠ "")
    (hrest : StopsAt isWordRest rest) (hmark : rest.head? ≠ some '"') (h : ¬ Clashes name rest) :
    lexeme? conforming ((quoteIdentifier name).toList ++ rest) = some (nameToken name, rest) := by
  have hopens : ¬ opensConstant ((quoteIdentifier name).toList ++ rest) = true := fun hopens =>
    h (clashes_of_opensConstant hopens)
  have hquote : name = "e" → rest.head? ≠ some '\'' := by
    rintro rfl hhead
    exact h (Or.inl ⟨by decide, hhead⟩)
  rw [lexeme?, if_neg hopens, token?_quoteIdentifier hname hrest hquote hmark, Option.bind_some,
    nameToken]
  split_ifs <;> rfl

/-- Behind an `e` a quote opens a text. -/
theorem exists_text_of_escape {cs rest : List Char} {t : Token}
    (h : lexeme? conforming ('e' :: '\'' :: cs) = some (t, rest)) : ∃ s, t = .text s := by
  have htoken : token? conforming ('e' :: '\'' :: cs) =
      (readMarked '\'' true cs).map fun (s, rest) => (.text (String.ofList s), rest) := rfl
  rw [lexeme?] at h
  split_ifs at h
  obtain ⟨⟨found, rest'⟩, hfound, hpieces⟩ := Option.bind_eq_some_iff.1 h
  rw [htoken] at hfound
  obtain ⟨⟨s, rest''⟩, -, hpair⟩ := Option.map_eq_some_iff.1 hfound
  cases hpair
  obtain ⟨⟨more, rest'''⟩, -, hpair⟩ := Option.map_eq_some_iff.1 hpieces
  cases hpair
  exact ⟨_, rfl⟩

/-- **A name is read as one identifier**, before anything but a letter or a double quote, just if
it does not clash with what follows. -/
theorem exists_lexeme?_iff {name : String} {rest : List Char} (hname : name ≠ "")
    (hrest : StopsAt isWordRest rest) (hmark : rest.head? ≠ some '"') :
    (∃ t, lexeme? conforming ((quoteIdentifier name).toList ++ rest) = some (t, rest) ∧
      t.identifier? = some name) ↔ ¬ Clashes name rest := by
  constructor
  · rintro ⟨t, hread, hidentifier⟩ hclash
    have hother : opensConstant ((quoteIdentifier name).toList ++ rest) = false := by
      rw [Bool.eq_false_iff]
      intro hopens
      rw [lexeme?, if_pos hopens] at hread
      cases hread
    rcases hclash with ⟨hletter, hquote⟩ | ⟨rfl, hquote⟩
    · have hopens : ∀ {c : Char}, c ∈ ['B', 'b', 'N', 'n', 'X', 'x'] →
          opensConstant (c :: rest) = true := fun hc =>
        opensConstant_cons_iff.2 (Or.inl ⟨hc, hquote⟩)
      simp only [List.mem_cons, List.not_mem_nil, or_false] at hletter
      rcases hletter with rfl | rfl | rfl | rfl
      · exact absurd (hopens (c := 'b') (by decide)) (Bool.eq_false_iff.1 hother)
      · obtain ⟨cs, rfl⟩ : ∃ cs, rest = '\'' :: cs := List.head?_eq_some_iff.1 hquote
        obtain ⟨s, rfl⟩ := exists_text_of_escape hread
        cases hidentifier
      · exact absurd (hopens (c := 'n') (by decide)) (Bool.eq_false_iff.1 hother)
      · exact absurd (hopens (c := 'x') (by decide)) (Bool.eq_false_iff.1 hother)
    · have hopens : opensConstant ((quoteIdentifier "u").toList ++ rest) = true :=
        opensConstant_cons_iff.2 (Or.inr ⟨Or.inr rfl, hquote⟩)
      rw [hother] at hopens
      cases hopens
  · intro h
    exact ⟨nameToken name, lexeme?_quoteIdentifier hname hrest hmark h, identifier?_nameToken name⟩

/-! ### References to tables -/

theorem identifier?_quoteIdentifier {name : String} {rest : List Char} (hname : name ≠ "")
    (hrest : StopsAt isWordRest rest) (hmark : rest.head? ≠ some '"') (h : ¬ Clashes name rest) :
    identifier? conforming ((quoteIdentifier name).toList ++ rest) = some (name, rest) := by
  rw [identifier?, lexeme?_quoteIdentifier hname hrest hmark h, Option.bind_some]
  show (nameToken name).identifier?.map _ = _
  rw [identifier?_nameToken, Option.map_some]

/-- **A reference to a table is read back.** -/
theorem tableRef?_sql {table : TableRef} {rest : List Char} (hname : table.name ≠ "")
    (hschema : table.schema ≠ some "") (hrest : StopsAt isWordRest rest)
    (hmark : rest.head? ≠ some '"') (hpoint : rest.head? ≠ some '.')
    (h : ¬ Clashes table.name rest) :
    tableRef? conforming (table.sql.toList ++ rest) = some (table, rest) := by
  obtain ⟨schema, name⟩ := table
  cases schema with
  | none =>
    rw [tableRef?, TableRef.sql, identifier?_quoteIdentifier hname hrest hmark h, Option.bind_some]
    simp only
    split
    · exact absurd rfl hpoint
    · rfl
  | some schema =>
    -- Behind the schema there is a point, with which no name clashes.
    have hclash : ¬ Clashes schema ('.' :: ((quoteIdentifier name).toList ++ rest)) := by
      rintro (⟨-, hquote⟩ | ⟨-, hand | hand⟩)
      · cases hquote
      · rw [List.cons_prefix_cons] at hand
        exact absurd hand.1 (by decide)
      · rw [List.cons_prefix_cons] at hand
        exact absurd hand.1 (by decide)
    have hfirst : identifier? conforming ((quoteIdentifier schema).toList ++
        '.' :: ((quoteIdentifier name).toList ++ rest)) = _ :=
      identifier?_quoteIdentifier (fun hempty => hschema (congrArg some hempty))
        (fun c hc => by cases hc; rfl) (by simp) hclash
    rw [tableRef?, TableRef.sql, String.toList_append, String.toList_append, List.append_assoc,
      List.append_assoc]
    show Option.bind (identifier? conforming ((quoteIdentifier schema).toList ++
      '.' :: ((quoteIdentifier name).toList ++ rest))) _ = _
    rw [hfirst, Option.bind_some]
    simp only
    rw [identifier?_quoteIdentifier hname hrest hmark h, Option.map_some]

theorem nameToken_injective : Function.Injective nameToken := by
  intro a b h
  have hname := congrArg Token.identifier? h
  rw [identifier?_nameToken, identifier?_nameToken] at hname
  exact Option.some_inj.1 hname

/-- **Tables that are referred to alike are the same**, also if a name is empty. -/
theorem TableRef.sql_injective : Function.Injective TableRef.sql := by
  intro a b h
  have htokens : ∀ table : TableRef,
      statementTokens true (table.sql.toList ++ [' ']) = some (tableTokens table) := by
    intro table
    have hreads : Reads true (table.sql.toList ++ [' ']) _ [' '] := reads_table table rfl
    exact (hreads.trans (.of_space rfl [])).statementTokens_eq.trans
      (congrArg some (List.append_nil _))
  have heq := (htokens a).symm.trans ((congrArg (fun sql : String =>
    statementTokens true (sql.toList ++ [' '])) h).trans (htokens b))
  obtain ⟨schema, name⟩ := a
  obtain ⟨schema', name'⟩ := b
  cases schema <;> cases schema' <;>
    simp_all [tableTokens, nameToken_injective.eq_iff]

/-! ### All of it -/

/-- **What is quoted is read back**, under either setting, whatever follows, apart from what would
belong to it. A text that no quote follows is read as one token just if it does not go on behind a
line end; a name that neither a letter nor a double quote follows is read as one identifier just if
it does not clash with what follows; so a reference to a table is read back as that table, and no
other table has the same. -/
theorem lexeme?_quoted (conforming : Bool) (rest : List Char) :
    (rest.head? ≠ some '\'' → ∀ text,
      lexeme? conforming ((quoteText text).toList ++ rest) = some (.text text, rest) ↔
        continued? false false rest = none) ∧
    (StopsAt isWordRest rest → rest.head? ≠ some '"' → ∀ name, name ≠ "" →
      ((∃ t, lexeme? conforming ((quoteIdentifier name).toList ++ rest) = some (t, rest) ∧
        t.identifier? = some name) ↔ ¬ Clashes name rest)) ∧
    (StopsAt isWordRest rest → rest.head? ≠ some '"' → rest.head? ≠ some '.' →
      ∀ table : TableRef, table.name ≠ "" → table.schema ≠ some "" → ¬ Clashes table.name rest →
        tableRef? conforming (table.sql.toList ++ rest) = some (table, rest)) ∧
    Function.Injective TableRef.sql :=
  ⟨fun hrest text => lexeme?_quoteText_iff text hrest,
    fun hrest hmark _ hname => exists_lexeme?_iff hname hrest hmark,
    fun hrest hmark hpoint _ hname hschema h => tableRef?_sql hname hschema hrest hmark hpoint h,
    TableRef.sql_injective⟩

/-- A reference to a table before a blank, and a text with both kinds of marks before a
parenthesis. -/
theorem shelves_lexeme? :
    tableRef? false ((TableRef.mk (some "app") "Shelf \"A\"").sql.toList ++ " ADD".toList) =
      some (⟨some "app", "Shelf \"A\""⟩, " ADD".toList) ∧
    lexeme? false ((quoteText "it's a \\").toList ++ ")".toList) =
      some (.text "it's a \\", ")".toList) := by
  have hstop : StopsAt isWordRest " ADD".toList := fun c hc => by
    cases hc
    rfl
  have hclash : ¬ Clashes "Shelf \"A\"" " ADD".toList := by
    rintro (⟨-, hquote⟩ | ⟨hname, -⟩)
    · cases hquote
    · exact absurd hname (by decide)
  exact ⟨(lexeme?_quoted false " ADD".toList).2.2.1 hstop (by decide) (by decide) _ (by decide)
    (by decide) hclash, ((lexeme?_quoted false ")".toList).1 (by decide) _).2 rfl⟩

/-- **What follows can take a quoted name or text away.** The name `e` before a quote opens a text,
and a text goes on behind a line end. -/
theorem not_lexeme?_quoted :
    lexeme? true ((quoteIdentifier "e").toList ++ "'a'".toList) = some (.text "a", []) ∧
    lexeme? true ((quoteText "a").toList ++ "\n'b'".toList) = some (.text "ab", []) ∧
    (¬ ∀ name rest, name ≠ "" → StopsAt isWordRest rest → rest.head? ≠ some '"' →
      ∃ t, lexeme? true ((quoteIdentifier name).toList ++ rest) = some (t, rest) ∧
        t.identifier? = some name) ∧
    ¬ ∀ text (rest : List Char), rest.head? ≠ some '\'' →
      lexeme? true ((quoteText text).toList ++ rest) = some (.text text, rest) := by
  have hname : lexeme? true ((quoteIdentifier "e").toList ++ "'a'".toList) =
      some (.text "a", []) := rfl
  have htext : lexeme? true ((quoteText "a").toList ++ "\n'b'".toList) =
      some (.text "ab", []) := rfl
  refine ⟨hname, htext, fun hall => ?_, fun hall => ?_⟩
  · obtain ⟨t, hread, -⟩ := hall "e" "'a'".toList (by decide)
      (fun c hc => by cases hc; rfl) (by decide)
    rw [hname] at hread
    cases hread
  · have hread := hall "a" "\n'b'".toList (by decide)
    rw [htext] at hread
    exact absurd hread (by decide)

end Sql

end ColumnChecks
