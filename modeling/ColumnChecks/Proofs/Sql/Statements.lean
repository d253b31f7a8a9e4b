import ColumnChecks.Proofs.Sql.Spelling

/-!
# Tokens of statements

Predicates stand in statements, which have signs that predicates do not have (`;`, `.`
and `:`) and may mention a name that is empty. Their tokens are read in the same way,
one after the other (`ColumnChecks.Sql.statementTokens`).

A statement is put together from pieces, so its tokens are found piece by piece:
`ColumnChecks.Sql.Reads` says that reading a text comes down to reading the rest of it,
behind some tokens, and two of these go together. Names, texts and references to tables
are pieces. So is a fixed text that ends in a **break**, a blank or a sign that no token
goes past (`ColumnChecks.Sql.stopsBefore_statementToken?`): what follows a break has no
influence on the tokens before it, and a piece can be read by itself
(`ColumnChecks.Sql.reads_fixed`). For the same reason a predicate has in a statement the
tokens that it has alone (`ColumnChecks.Sql.Lexes.reads`).
-/

namespace ColumnChecks

namespace Sql

variable {conforming : Bool} {sep : Char}

theorem takeWhile_append_separator {p : Char → Bool} (hsep : p sep = false) (cs more : List Char) :
    (cs ++ sep :: more).takeWhile p = cs.takeWhile p := by
  induction cs with
  | nil => rw [List.nil_append, List.takeWhile_cons_of_neg (by simp [hsep]), List.takeWhile_nil]
  | cons c cs ih => rw [List.cons_append, List.takeWhile_cons, List.takeWhile_cons, ih]

theorem dropWhile_append_separator {p : Char → Bool} (hsep : p sep = false) (cs more : List Char) :
    (cs ++ sep :: more).dropWhile p = cs.dropWhile p ++ sep :: more := by
  induction cs with
  | nil => rw [List.nil_append, List.dropWhile_cons_of_neg (by simp [hsep]), List.dropWhile_nil,
      List.nil_append]
  | cons c cs ih =>
    rw [List.cons_append, List.dropWhile_cons, List.dropWhile_cons, ih]
    split_ifs <;> rfl

/-- A reader stops before the separator and does not look behind it. -/
def StopsBefore {α : Type} (sep : Char) (read : List Char → Option (α × List Char))
    (cs : List Char) : Prop :=
  ∀ a rest, read (cs ++ [sep]) = some (a, rest) →
    ∃ before, rest = before ++ [sep] ∧
      ∀ more, read (cs ++ sep :: more) = some (a, before ++ sep :: more)

theorem stopsBefore_readMarked {mark : Char} (hmark : sep ≠ mark) (hback : sep ≠ '\\')
    (escapes : Bool) : ∀ cs, StopsBefore sep (readMarked mark escapes) cs
  | [], s, rest, h => by
    rw [List.nil_append, readMarked, if_neg hmark] at h
    cases h
  | [c], s, rest, h => by
    rw [List.singleton_append, readMarked] at h
    split_ifs at h with hc hescape hd
    · cases h
      refine ⟨[], rfl, fun more => ?_⟩
      rw [List.singleton_append, readMarked, if_pos hc, if_neg hmark]
      rfl
    · exact absurd hd (not_or.2 ⟨hback, hmark⟩)
    · rw [readMarked, if_neg hmark] at h
      cases h
  | c :: d :: cs, s, rest, h => by
    rw [List.cons_append, List.cons_append, readMarked] at h
    split_ifs at h with hc hd hescape hd
    · obtain ⟨⟨s', rest'⟩, hread, hpair⟩ := Option.map_eq_some_iff.1 h
      cases hpair
      obtain ⟨before, rfl, hmore⟩ := stopsBefore_readMarked hmark hback escapes cs _ _ hread
      refine ⟨before, rfl, fun more => ?_⟩
      rw [List.cons_append, List.cons_append, readMarked, if_pos hc, if_pos hd, hmore]
      rfl
    · cases h
      refine ⟨d :: cs, rfl, fun more => ?_⟩
      rw [List.cons_append, List.cons_append, readMarked, if_pos hc, if_neg hd]
    · obtain ⟨⟨s', rest'⟩, hread, hpair⟩ := Option.map_eq_some_iff.1 h
      cases hpair
      obtain ⟨before, rfl, hmore⟩ := stopsBefore_readMarked hmark hback escapes cs _ _ hread
      refine ⟨before, rfl, fun more => ?_⟩
      rw [List.cons_append, List.cons_append, readMarked, if_neg hc, if_pos hescape, if_pos hd,
        hmore]
      rfl
    · obtain ⟨⟨s', rest'⟩, hread, hpair⟩ := Option.map_eq_some_iff.1 h
      cases hpair
      obtain ⟨before, rfl, hmore⟩ := stopsBefore_readMarked hmark hback escapes (d :: cs) _ _ hread
      refine ⟨before, rfl, fun more => ?_⟩
      have := hmore more
      rw [List.cons_append] at this
      rw [List.cons_append, List.cons_append, readMarked, if_neg hc, if_neg hescape, this]
      rfl

/-- The characters that end every token before them. -/
def isBreak (c : Char) : Bool := isSeparator c || c == ';'

/-- What is of a kind that no break is of ends before one. -/
theorem not_of_isBreak {p : Char → Bool} (hsep : isBreak sep = true)
    (hp : p ' ' = false ∧ p ',' = false ∧ p ')' = false ∧ p '(' = false ∧ p ';' = false) :
    p sep = false := by
  obtain ⟨hspace, hcomma, hclose, hopen, hend⟩ := hp
  rcases Bool.or_eq_true_iff.1 hsep with hsep | hsep
  · have hseparated : Separated [sep] := fun _ hc => Option.some_inj.1 hc ▸ hsep
    exact hseparated.stopsAt ⟨hspace, hcomma, hclose, hopen⟩ sep rfl
  · rw [beq_iff_eq.1 hsep, hend]

theorem stopsBefore_readNumeral (hsep : isBreak sep = true) (cs : List Char) :
    StopsBefore sep readNumeral cs := by
  have hdigit : Char.isDigit sep = false := not_of_isBreak hsep (by decide)
  have hstart : isWordStart sep = false := not_of_isBreak hsep (by decide)
  have hpoint : sep ≠ '.' := ne_of_kind hsep (by decide)
  intro s rest h
  simp only [readNumeral, takeWhile_append_separator hdigit, dropWhile_append_separator hdigit]
    at h ⊢
  rcases hrest : cs.dropWhile Char.isDigit with _ | ⟨d, ds⟩
  · -- The digits go up to the separator.
    rw [hrest, List.nil_append] at h
    simp only [List.nil_append]
    split at h
    · next heq => exact absurd (List.cons.inj heq).1 hpoint
    · simp only [List.head?_cons, Option.any_some, hstart, Bool.false_eq_true, if_false] at h
      cases h
      refine ⟨[], rfl, fun more => ?_⟩
      split
      · next heq => exact absurd (List.cons.inj heq).1 hpoint
      · simp [hstart]
  · rw [hrest, List.cons_append] at h
    simp only [List.cons_append]
    by_cases hd : d = '.'
    · -- A point, and the digits behind it go up to the separator or end before it.
      subst hd
      simp only [takeWhile_append_separator hdigit, dropWhile_append_separator hdigit] at h ⊢
      split_ifs at h with hword
      cases h
      refine ⟨_, rfl, fun more => ?_⟩
      have hhead : (ds.dropWhile Char.isDigit ++ sep :: more).head? =
          (ds.dropWhile Char.isDigit ++ [sep]).head? := by
        cases ds.dropWhile Char.isDigit <;> rfl
      rw [hhead, if_neg hword]
    · split at h
      · next heq => exact absurd (List.cons.inj heq).1 hd
      · split_ifs at h with hword
        cases h
        refine ⟨d :: ds, rfl, fun more => ?_⟩
        split
        · next heq => exact absurd (List.cons.inj heq).1 hd
        · exact if_neg hword

theorem StopsBefore.map {α β : Type} {read : List Char → Option (α × List Char)} (f : α → β)
    {cs : List Char} (h : StopsBefore sep read cs) :
    StopsBefore sep (fun cs => (read cs).map fun x => (f x.1, x.2)) cs := by
  intro b rest hb
  obtain ⟨⟨a, rest'⟩, hread, hpair⟩ := Option.map_eq_some_iff.1 hb
  cases hpair
  obtain ⟨before, rfl, hmore⟩ := h a _ hread
  refine ⟨before, rfl, fun more => ?_⟩
  simp only [hmore, Option.map_some]

/-- **No token goes past a separator**, and what is behind one makes no difference. -/
theorem stopsBefore_token? (hsep : isBreak sep = true) (c : Char) (cs : List Char) :
    StopsBefore sep (fun cs => token? conforming (c :: cs)) cs := by
  have hname : sep ≠ '"' := ne_of_kind hsep (by decide)
  have htext : sep ≠ '\'' := ne_of_kind hsep (by decide)
  have hback : sep ≠ '\\' := ne_of_kind hsep (by decide)
  have hhead : ∀ more : List Char, (cs ++ sep :: more).head? = (cs ++ [sep]).head? := fun more => by
    cases cs <;> rfl
  intro t rest h
  simp only [token?] at h ⊢
  simp only [hhead]
  split_ifs at h ⊢ with hquote hsingle hescape hword hdigit hminus hsymbol hoperator
  · obtain ⟨⟨s, rest'⟩, hread, hfound⟩ := Option.bind_eq_some_iff.1 h
    obtain ⟨before, rfl, hmore⟩ := stopsBefore_readMarked hname hback false cs s rest' hread
    simp only at hfound
    split_ifs at hfound with hempty
    cases hfound
    refine ⟨before, rfl, fun more => ?_⟩
    rw [hmore, Option.bind_some]
    exact if_neg hempty
  · exact (stopsBefore_readMarked htext hback _ cs).map (fun s => .text (String.ofList s)) t rest h
  · cases cs with
    | nil => exact absurd (Option.some_inj.1 hescape.2) htext
    | cons d cs =>
      exact (stopsBefore_readMarked htext hback _ cs).map (fun s => .text (String.ofList s))
        t rest h
  · have hrest : isWordRest sep = false := not_of_isBreak hsep (by decide)
    simp only [takeWhile_append_separator hrest, dropWhile_append_separator hrest] at h ⊢
    cases h
    exact ⟨_, rfl, fun more => rfl⟩
  · obtain ⟨⟨s, rest'⟩, hread, hpair⟩ := Option.map_eq_some_iff.1 h
    cases hpair
    obtain ⟨before, rfl, hmore⟩ := stopsBefore_readNumeral hsep (c :: cs) s _ hread
    refine ⟨before, rfl, fun more => ?_⟩
    rw [← List.cons_append, hmore]
    rfl
  · exact (stopsBefore_readNumeral hsep cs).map (fun s => .numeral (String.ofList ('-' :: s)))
      t rest h
  · cases h
    exact ⟨cs, rfl, fun more => rfl⟩
  · have hrest : isOperatorChar sep = false := not_of_isBreak hsep (by decide)
    simp only [takeWhile_append_separator hrest, dropWhile_append_separator hrest] at h ⊢
    cases h
    exact ⟨_, rfl, fun more => rfl⟩

/-! ### Tokens of statements -/

/-- The signs of statements that predicates do not have. -/
def isStatementSign (c : Char) : Bool := c == ';' || c == '.' || c == ':'

/-- The token that a statement starts with, and the rest. -/
def statementToken? (conforming : Bool) : List Char → Option (Token × List Char)
  | [] => none
  | c :: cs =>
    if isStatementSign c then some (.symbol (String.ofList [c]), cs)
    else if c = '"' then
      (readMarked '"' false cs).map fun x => (.quoted (String.ofList x.1), x.2)
    else token? conforming (c :: cs)

/-- The tokens of a text of statements, if there are not more characters than
that. -/
def statementTokensWithin (conforming : Bool) : Nat → List Char → Option (List Token)
  | _, [] => some []
  | 0, _ :: _ => none
  | fuel + 1, c :: cs =>
    if isSpace c then statementTokensWithin conforming fuel cs
    else (statementToken? conforming (c :: cs)).bind fun (t, rest) =>
      (statementTokensWithin conforming fuel rest).map (t :: ·)

/-- **The tokens of a text of statements.** -/
def statementTokens (conforming : Bool) (cs : List Char) : Option (List Token) :=
  statementTokensWithin conforming cs.length cs

/-- A token of a predicate is a token of a statement. -/
theorem statementToken?_of_token? {cs rest : List Char} {t : Token}
    (h : token? conforming cs = some (t, rest)) :
    statementToken? conforming cs = some (t, rest) := by
  cases cs with
  | nil => cases h
  | cons c cs =>
    rw [statementToken?]
    split_ifs with hsign hname
    · have hno : token? conforming (c :: cs) = none := by
        simp only [isStatementSign, Bool.or_eq_true, beq_iff_eq] at hsign
        rcases hsign with (rfl | rfl) | rfl <;> rfl
      rw [hno] at h
      cases h
    · rw [token?, if_pos hname] at h
      obtain ⟨⟨s, rest'⟩, hread, hfound⟩ := Option.bind_eq_some_iff.1 h
      simp only at hfound
      split_ifs at hfound
      cases hfound
      rw [hread]
      rfl
    · exact h

theorem length_statementToken? {cs rest : List Char} {t : Token}
    (h : statementToken? conforming cs = some (t, rest)) : rest.length < cs.length := by
  cases cs with
  | nil => cases h
  | cons c cs =>
    rw [statementToken?] at h
    split_ifs at h with hsign hname
    · cases h
      exact Nat.lt_succ_self _
    · obtain ⟨⟨s, rest'⟩, hread, hpair⟩ := Option.map_eq_some_iff.1 h
      cases hpair
      exact (length_readMarked hread).trans (Nat.lt_succ_self _)
    · exact length_token? h

theorem statementTokensWithin_of_le {fuel fuel' : Nat} {cs : List Char}
    (h : cs.length ≤ fuel) (h' : cs.length ≤ fuel') :
    statementTokensWithin conforming fuel cs = statementTokensWithin conforming fuel' cs := by
  induction fuel generalizing fuel' cs with
  | zero =>
    obtain rfl : cs = [] := List.length_eq_zero_iff.1 (Nat.le_zero.1 h)
    cases fuel' <;> rfl
  | succ fuel ih =>
    cases cs with
    | nil => cases fuel' <;> rfl
    | cons c cs =>
      cases fuel' with
      | zero => cases h'
      | succ fuel' =>
        rw [List.length_cons, Nat.succ_le_succ_iff] at h h'
        rw [statementTokensWithin, statementTokensWithin]
        split_ifs
        · exact ih h h'
        · cases htoken : statementToken? conforming (c :: cs) with
          | none => rfl
          | some found =>
            obtain ⟨t, rest⟩ := found
            have hrest := length_statementToken? htoken
            rw [List.length_cons, Nat.lt_succ_iff] at hrest
            simp only [Option.bind_some]
            rw [ih (hrest.trans h) (hrest.trans h')]

/-! ### Reading on -/

/-- **Reading a text comes down to reading the rest of it**, behind some tokens. -/
def Reads (conforming : Bool) (cs : List Char) (ts : List Token) (rest : List Char) : Prop :=
  statementTokens conforming cs = (statementTokens conforming rest).map (ts ++ ·)

namespace Reads

variable {a b c : List Char} {ts us : List Token}

theorem refl (cs : List Char) : Reads conforming cs [] cs := by
  rw [Reads]
  cases statementTokens conforming cs <;> rfl

theorem trans (h : Reads conforming a ts b) (h' : Reads conforming b us c) :
    Reads conforming a (ts ++ us) c := by
  rw [Reads, h, h', Option.map_map]
  congr 1
  funext more
  exact (List.append_assoc _ _ _).symm

theorem of_space {d : Char} (hd : isSpace d = true) (cs : List Char) :
    Reads conforming (d :: cs) [] cs := by
  have hstep : statementTokens conforming (d :: cs) = statementTokens conforming cs := by
    rw [statementTokens, List.length_cons, statementTokensWithin, if_pos hd, statementTokens]
  rw [Reads, hstep]
  exact refl cs

theorem of_token {d : Char} {cs rest : List Char} {t : Token} (hd : isSpace d = false)
    (h : statementToken? conforming (d :: cs) = some (t, rest)) :
    Reads conforming (d :: cs) [t] rest := by
  have hrest := length_statementToken? h
  rw [List.length_cons, Nat.lt_succ_iff] at hrest
  rw [Reads, statementTokens, List.length_cons, statementTokensWithin, hd,
    if_neg Bool.false_ne_true, h, Option.bind_some, statementTokens]
  simp only
  rw [statementTokensWithin_of_le hrest le_rfl]
  rfl

/-- A token of a predicate. -/
theorem of_token? {cs rest : List Char} {t : Token}
    (h : token? conforming cs = some (t, rest)) : Reads conforming cs [t] rest := by
  cases cs with
  | nil => cases h
  | cons d cs => exact of_token (not_isSpace_of_token? h) (statementToken?_of_token? h)

theorem statementTokens_eq (h : Reads conforming a ts []) :
    statementTokens conforming a = some ts := by
  rw [h]
  exact congrArg some (List.append_nil ts)

end Reads

/-- The tokens that a separator is. -/
def separatorTokens (sep : Char) : List Token :=
  if isSpace sep then [] else [.symbol (String.ofList [sep])]

theorem stopsBefore_statementToken? (hsep : isBreak sep = true) (c : Char) (cs : List Char) :
    StopsBefore sep (fun cs => statementToken? conforming (c :: cs)) cs := by
  intro t rest h
  simp only [statementToken?] at h ⊢
  split_ifs at h ⊢ with hsign hname
  · cases h
    exact ⟨cs, rfl, fun more => rfl⟩
  · exact (stopsBefore_readMarked (ne_of_kind hsep (by decide)) (ne_of_kind hsep (by decide))
      false cs).map (fun s => .quoted (String.ofList s)) t rest h
  · exact stopsBefore_token? hsep c cs t rest h

/-- **A text that ends in a separator** has the same tokens whatever follows. -/
theorem exists_reads_of_separator (hsep : isBreak sep = true) {fuel : Nat} {cs : List Char}
    {us : List Token} (h : statementTokensWithin conforming fuel (cs ++ [sep]) = some us) :
    ∃ ts, us = ts ++ separatorTokens sep ∧
      ∀ more, Reads conforming (cs ++ sep :: more) ts (sep :: more) := by
  induction fuel generalizing cs us with
  | zero => cases cs <;> cases h
  | succ fuel ih =>
    cases cs with
    | nil =>
      refine ⟨[], ?_, fun more => .refl _⟩
      simp only [isBreak, isSeparator, Bool.or_eq_true, beq_iff_eq] at hsep
      rcases hsep with (((rfl | rfl) | rfl) | rfl) | rfl <;> cases fuel <;>
        exact (Option.some_inj.1 h).symm
    | cons c cs =>
      rw [List.cons_append, statementTokensWithin] at h
      split_ifs at h with hspace
      · obtain ⟨ts, hus, hmore⟩ := ih h
        exact ⟨ts, hus, fun more => (Reads.of_space hspace _).trans (hmore more)⟩
      · obtain ⟨⟨t, rest⟩, htoken, hrest⟩ := Option.bind_eq_some_iff.1 h
        obtain ⟨us', hus', rfl⟩ := Option.map_eq_some_iff.1 hrest
        obtain ⟨before, rfl, hbehind⟩ := stopsBefore_statementToken? hsep c cs t rest htoken
        obtain ⟨ts, rfl, hmore⟩ := ih hus'
        exact ⟨t :: ts, rfl, fun more =>
          (Reads.of_token (Bool.eq_false_iff.2 hspace) (hbehind more)).trans (hmore more)⟩

theorem statementTokensWithin_of_lexWithin {fuel : Nat} {cs : List Char} {ts : List Token}
    (h : lexWithin conforming fuel cs = some ts) :
    statementTokensWithin conforming fuel cs = some ts := by
  induction fuel generalizing cs ts with
  | zero => cases cs <;> exact h
  | succ fuel ih =>
    cases cs with
    | nil => exact h
    | cons c cs =>
      rw [lexWithin] at h
      rw [statementTokensWithin]
      split_ifs at h ⊢ with hspace
      · exact ih h
      · obtain ⟨⟨t, rest⟩, htoken, hrest⟩ := Option.bind_eq_some_iff.1 h
        obtain ⟨us, hus, rfl⟩ := Option.map_eq_some_iff.1 hrest
        rw [statementToken?_of_token? htoken, Option.bind_some]
        simp only
        rw [ih hus]
        rfl

/-- **A predicate in a statement** has the tokens that it has by itself. -/
theorem Lexes.reads {cs : List Char} {ts : List Token} (h : Lexes conforming cs ts)
    (more : List Char) : Reads conforming (cs ++ ')' :: more) ts (')' :: more) := by
  have hlex : lex conforming (cs ++ [')']) = some (ts ++ [.symbol ")"]) := by
    rw [h [')'] fun c hc => by cases hc; rfl]
    rfl
  obtain ⟨us, hus, hreads⟩ :=
    exists_reads_of_separator rfl (statementTokensWithin_of_lexWithin hlex)
  have heq : ts = us := List.append_cancel_right hus
  exact heq ▸ hreads more

/-! ### The pieces -/

/-- **A name is read as one token**, if it ends there. -/
theorem reads_name (name : String) {rest : List Char} (hrest : StopsAt isWordRest rest)
    (hquote : rest.head? ≠ some '\'') (hmark : rest.head? ≠ some '"') :
    Reads conforming ((quoteIdentifier name).toList ++ rest) [nameToken name] rest := by
  by_cases hname : name = ""
  · -- No token of a predicate is an empty name.
    subst hname
    have htext : (quoteIdentifier "").toList = ['"', '"'] := rfl
    have hread : readMarked '"' false ('"' :: rest) = some ([], rest) :=
      readMarked_escaped (by decide) false hmark []
    rw [htext, List.cons_append, List.singleton_append]
    refine .of_token rfl ?_
    rw [statementToken?, if_neg (by decide), if_pos rfl, hread]
    rfl
  · exact .of_token? (token?_quoteIdentifier hname hrest (fun _ => hquote) hmark)

/-- A name with a separator behind it. -/
theorem reads_name_separated (name : String) {rest : List Char}
    (hrest : rest.head?.any isSeparator = true) :
    Reads conforming ((quoteIdentifier name).toList ++ rest) [nameToken name] rest := by
  obtain ⟨c, hc, hsep⟩ := (Option.any_eq_true _ _).1 hrest
  have hseparated : Separated rest := fun d hd => by
    rw [hc] at hd
    exact Option.some_inj.1 hd ▸ hsep
  have hne : ∀ {d : Char}, isSeparator d = false → rest.head? ≠ some d := fun hd h => by
    rw [hc, Option.some_inj] at h
    subst h
    rw [hsep] at hd
    cases hd
  exact reads_name name (hseparated.stopsAt (by decide)) (hne rfl) (hne rfl)

theorem reads_text (text : String) {rest : List Char} (hrest : rest.head? ≠ some '\'') :
    Reads conforming ((quoteText text).toList ++ rest) [.text text] rest :=
  .of_token? (token?_quoteText text hrest)

theorem reads_sign {c : Char} (hc : isStatementSign c = true) (rest : List Char) :
    Reads conforming (c :: rest) [.symbol (String.ofList [c])] rest := by
  have hspace : isSpace c = false := by
    simp only [isStatementSign, Bool.or_eq_true, beq_iff_eq] at hc
    rcases hc with (rfl | rfl) | rfl <;> rfl
  refine .of_token hspace ?_
  rw [statementToken?, if_pos hc]

/-- The tokens of a reference to a table. -/
def tableTokens (table : TableRef) : List Token :=
  match table.schema with
  | some schema => [nameToken schema, .symbol ".", nameToken table.name]
  | none => [nameToken table.name]

/-- A reference to a table, with a blank behind it. -/
theorem reads_table (table : TableRef) {rest : List Char} (hrest : rest.head? = some ' ') :
    Reads conforming (table.sql.toList ++ rest) (tableTokens table) rest := by
  obtain ⟨schema, name⟩ := table
  have hname : Reads conforming ((quoteIdentifier name).toList ++ rest) [nameToken name] rest :=
    reads_name_separated name (by rw [hrest]; rfl)
  cases schema with
  | none => exact hname
  | some schema =>
    rw [TableRef.sql, String.toList_append, String.toList_append, List.append_assoc,
      List.append_assoc]
    have hschema : Reads conforming
        ((quoteIdentifier schema).toList ++ '.' :: ((quoteIdentifier name).toList ++ rest))
        [nameToken schema] _ :=
      reads_name schema (fun c hc => by cases hc; rfl) (by simp) (by simp)
    exact hschema.trans ((reads_sign rfl _).trans hname)

/-! ### Blocks -/

/-- A break is read by itself. -/
theorem reads_break (hsep : isBreak sep = true) (more : List Char) :
    Reads conforming (sep :: more) (separatorTokens sep) more := by
  simp only [isBreak, isSeparator, Bool.or_eq_true, beq_iff_eq] at hsep
  rcases hsep with (((rfl | rfl) | rfl) | rfl) | rfl
  · exact .of_space rfl more
  · exact .of_token rfl rfl
  · exact .of_token rfl rfl
  · exact .of_token rfl rfl
  · exact .of_token rfl rfl

/-- Fixed words, up to a break. -/
theorem reads_fixed {cs : List Char} {ts : List Token} (hlast : cs.getLast?.any isBreak = true)
    (h : statementTokens conforming cs = some ts) (more : List Char) :
    Reads conforming (cs ++ more) ts more := by
  obtain ⟨sep, hsep, hbreak⟩ := (Option.any_eq_true _ _).1 hlast
  obtain ⟨before, rfl⟩ := List.getLast?_eq_some_iff.1 hsep
  obtain ⟨us, rfl, hreads⟩ := exists_reads_of_separator hbreak h
  rw [List.append_assoc, List.singleton_append]
  exact (hreads more).trans (reads_break hbreak more)

/-- No token of a predicate is a semicolon. -/
theorem token?_ne_semicolon {cs rest : List Char} {t : Token}
    (h : token? conforming cs = some (t, rest)) : t ≠ .symbol ";" := by
  cases cs with
  | nil => cases h
  | cons c cs =>
    have hsymbol : ∀ more : List Char, c ≠ ';' →
        Token.symbol (String.ofList (c :: more)) ≠ .symbol ";" := fun more hc heq => by
      have hlist := congrArg String.toList (Token.symbol.inj heq)
      rw [String.toList_ofList] at hlist
      exact hc (List.cons.inj hlist).1
    rw [token?] at h
    split_ifs at h with _ _ _ _ _ _ hparenthesis hoperator
    · obtain ⟨⟨s, r⟩, -, hfound⟩ := Option.bind_eq_some_iff.1 h
      simp only at hfound
      split_ifs at hfound
      cases hfound
      rintro ⟨⟩
    · obtain ⟨⟨s, r⟩, -, hpair⟩ := Option.map_eq_some_iff.1 h
      cases hpair
      rintro ⟨⟩
    · obtain ⟨⟨s, r⟩, -, hpair⟩ := Option.map_eq_some_iff.1 h
      cases hpair
      rintro ⟨⟩
    · cases h
      rintro ⟨⟩
    · obtain ⟨⟨s, r⟩, -, hpair⟩ := Option.map_eq_some_iff.1 h
      cases hpair
      rintro ⟨⟩
    · obtain ⟨⟨s, r⟩, -, hpair⟩ := Option.map_eq_some_iff.1 h
      cases hpair
      rintro ⟨⟩
    · cases h
      refine hsymbol [] ?_
      rcases hparenthesis with rfl | rfl | rfl <;> decide
    · cases h
      exact hsymbol _ (ne_of_kind hoperator (by decide))

theorem ne_semicolon_of_lexWithin {fuel : Nat} {cs : List Char} {ts : List Token}
    (h : lexWithin conforming fuel cs = some ts) : ∀ t ∈ ts, t ≠ .symbol ";" := by
  induction fuel generalizing cs ts with
  | zero =>
    cases cs with
    | nil =>
      cases h
      exact fun _ => nofun
    | cons c cs => cases h
  | succ fuel ih =>
    cases cs with
    | nil =>
      cases h
      exact fun _ => nofun
    | cons c cs =>
      rw [lexWithin] at h
      split_ifs at h
      · exact ih h
      · obtain ⟨⟨t, rest⟩, htoken, hrest⟩ := Option.bind_eq_some_iff.1 h
        obtain ⟨us, hus, rfl⟩ := Option.map_eq_some_iff.1 hrest
        exact List.forall_mem_cons.2 ⟨token?_ne_semicolon htoken, ih hus⟩

theorem Lexes.ne_semicolon {cs : List Char} {ts : List Token} (h : Lexes conforming cs ts) :
    ∀ t ∈ ts, t ≠ .symbol ";" := by
  have hlex : lex conforming (cs ++ []) = some (ts ++ []) := h [] fun _ hc => by cases hc
  rw [List.append_nil ts] at hlex
  exact ne_semicolon_of_lexWithin hlex

/-! ### Clauses -/

/-- The tokens between semicolons. -/
def clauses (ts : List Token) : List (List Token) := ts.splitOn (.symbol ";")

theorem clauses_append {ts us : List Token} (h : ∀ t ∈ ts, t ≠ .symbol ";") :
    clauses (ts ++ .symbol ";" :: us) = ts :: clauses us := by
  have hts : ∀ t ∈ ts, (t == Token.symbol ";") = false := fun t ht =>
    beq_eq_false_iff_ne.2 (h t ht)
  have hsplit := List.splitOnP_append_cons (p := fun t => t == Token.symbol ";") ts us
    (beq_self_eq_true _)
  rwa [List.splitOnP_eq_singleton hts] at hsplit

end Sql

end ColumnChecks
