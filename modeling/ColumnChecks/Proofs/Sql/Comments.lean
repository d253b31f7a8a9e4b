import ColumnChecks.Proofs.Sql.Lexing

/-!
# What stands outside comments

A script is text with comments in it, and the server executes what is left without
them. Where comments start is not a matter of lines: two dashes inside a name, a
string or a dollar quote start none, and a comment goes on to the end of its line
whatever that line was meant to be.

So a script is read character by character, by a reader that knows at every moment
what it stands in (`ColumnChecks.Sql.Place`). What it finds outside comments is
`ColumnChecks.Sql.uncommented`. A comment goes with the line end that closes it.

A piece of text is *kept* when it starts and ends outside of everything, and hides
nothing (`ColumnChecks.Sql.Kept`). Kept pieces can be put together, so a script is
known to be kept from its pieces: names, words and dollar quotes.

Strings that are continued on another line are outside the fragment, as are those
that are written with `U&`.
-/

namespace ColumnChecks

namespace Sql

/-! ### The reader -/

/-- What a reader of SQL stands in. -/
inductive Place where
  | plain
  /-- In a keyword or a bare name, where a dollar sign is a letter. -/
  | word
  /-- In a comment that ends with its line. -/
  | line
  /-- In a comment between marks, with so many others around it. -/
  | block (depth : Nat)
  /-- Between double quotes. -/
  | name
  /-- Between single quotes. -/
  | text (escapes : Bool)
  /-- Between two copies of a dollar tag. -/
  | quoted (tag : List Char)
  /-- In a mark of which so many more characters follow, and what comes after it. -/
  | mark (shown : Bool) (more : Nat) (next : Place)
  deriving DecidableEq, Repr

/-- The characters that end a line, and a comment with it. -/
def isLineEnd (c : Char) : Bool := c == '\n' || c == '\r'

/-- The characters between the signs of a dollar tag. -/
def isTagChar (c : Char) : Bool := isWordStart c || c.isDigit

/-- The dollar tag that a text starts with. -/
def openingTag? : List Char → Option (List Char)
  | [] => none
  | c :: cs =>
    let name := cs.takeWhile isTagChar
    if c = '$' ∧ (cs.dropWhile isTagChar).head? = some '$' ∧ name.head?.all isWordStart then
      some ('$' :: (name ++ ['$']))
    else none

/-- Where a character leads from outside of everything, and whether it is shown. -/
def plainStep (conforming : Bool) (c : Char) (cs : List Char) : Bool × Place :=
  if c = '-' ∧ cs.head? = some '-' then (false, .line)
  else if c = '/' ∧ cs.head? = some '*' then (false, .mark false 0 (.block 0))
  else if c = '"' then (true, .name)
  else if c = '\'' then (true, .text (!conforming))
  else if (c = 'E' ∨ c = 'e') ∧ cs.head? = some '\'' then (true, .mark true 0 (.text true))
  else if isWordStart c then (true, .word)
  else match openingTag? (c :: cs) with
    | some tag => (true, .mark true (tag.length - 2) (.quoted tag))
    | none => (true, .plain)

/-- Where a character leads, and whether it is shown. The text behind it is only
looked at. -/
def Place.step (conforming : Bool) (c : Char) (cs : List Char) : Place → Bool × Place
  | .plain => plainStep conforming c cs
  | .word => if isWordRest c then (true, .word) else plainStep conforming c cs
  | .line => (false, if isLineEnd c then .plain else .line)
  | .block depth =>
    if c = '*' ∧ cs.head? = some '/' then
      (false, .mark false 0 (match depth with | 0 => .plain | depth + 1 => .block depth))
    else if c = '/' ∧ cs.head? = some '*' then (false, .mark false 0 (.block (depth + 1)))
    else (false, .block depth)
  -- A doubled mark closes the name and opens it again.
  | .name => (true, if c = '"' then .plain else .name)
  | .text escapes =>
    if c = '\'' ∧ cs.head? = some '\'' ∨ c = '\\' ∧ escapes then
      (true, .mark true 0 (.text escapes))
    else (true, if c = '\'' then .plain else .text escapes)
  | .quoted tag =>
    if tag.isPrefixOf (c :: cs) then (true, .mark true (tag.length - 2) .plain)
    else (true, .quoted tag)
  | .mark shown more next =>
    (shown, match more with | 0 => next | more + 1 => .mark shown more next)

/-- What is shown of a text, from a place on. -/
def shownFrom (conforming : Bool) : Place → List Char → List Char
  | _, [] => []
  | place, c :: cs =>
    let (shown, next) := place.step conforming c cs
    if shown then c :: shownFrom conforming next cs else shownFrom conforming next cs

/-- **What stands outside comments** in a text. -/
def uncommented (conforming : Bool) (cs : List Char) : List Char :=
  shownFrom conforming .plain cs

variable {conforming : Bool}

theorem shownFrom_cons_shown {place : Place} (next : Place) {c : Char} {cs : List Char}
    (h : place.step conforming c cs = (true, next)) :
    shownFrom conforming place (c :: cs) = c :: shownFrom conforming next cs := by
  rw [shownFrom, h]
  rfl

theorem shownFrom_cons_hidden {place : Place} (next : Place) {c : Char} {cs : List Char}
    (h : place.step conforming c cs = (false, next)) :
    shownFrom conforming place (c :: cs) = shownFrom conforming next cs := by
  rw [shownFrom, h]
  rfl

/-! ### Comments -/

/-- A text without a line end in it. -/
def IsLine (cs : List Char) : Prop := ∀ c ∈ cs, isLineEnd c = false

instance (cs : List Char) : Decidable (IsLine cs) :=
  List.decidableBAll _ cs

@[simp] theorem isLine_append {a b : List Char} : IsLine (a ++ b) ↔ IsLine a ∧ IsLine b :=
  List.forall_mem_append

@[simp] theorem isLine_cons {c : Char} {cs : List Char} :
    IsLine (c :: cs) ↔ isLineEnd c = false ∧ IsLine cs :=
  List.forall_mem_cons

/-- Characters of a kind that no line end is of are a line. -/
theorem isLine_of_kind {p : Char → Bool} {cs : List Char} (hfeed : p '\n' = false)
    (hreturn : p '\r' = false) (h : ∀ c ∈ cs, p c = true) : IsLine cs := by
  intro c hc
  rw [isLineEnd, Bool.or_eq_false_iff, beq_eq_false_iff_ne, beq_eq_false_iff_ne]
  exact ⟨ne_of_kind (h c hc) hfeed, ne_of_kind (h c hc) hreturn⟩

theorem shownFrom_line {line : List Char} (hline : IsLine line) (rest : List Char) :
    shownFrom conforming .line (line ++ '\n' :: rest) = uncommented conforming rest := by
  induction line with
  | nil => exact shownFrom_cons_hidden _ rfl
  | cons c line ih =>
    rw [isLine_cons] at hline
    rw [List.cons_append, ← ih hline.2]
    refine shownFrom_cons_hidden _ ?_
    rw [Place.step, hline.1]
    rfl

/-- **A comment that is one line** is left out. -/
theorem uncommented_comment {line : List Char} (hline : IsLine line) (rest : List Char) :
    uncommented conforming ('-' :: '-' :: (line ++ '\n' :: rest)) =
      uncommented conforming rest := by
  rw [uncommented, shownFrom_cons_hidden .line rfl,
    shownFrom_cons_hidden .line rfl]
  exact shownFrom_line hline rest

/-! ### Kept pieces -/

/-- A piece of text that starts and ends outside of everything, with no comment in
it, whatever follows. -/
def Kept (conforming : Bool) (cs : List Char) : Prop :=
  ∀ rest, uncommented conforming (cs ++ rest) = cs ++ uncommented conforming rest

theorem Kept.nil : Kept conforming [] := fun _ => rfl

theorem Kept.append {a b : List Char} (ha : Kept conforming a) (hb : Kept conforming b) :
    Kept conforming (a ++ b) := by
  intro rest
  rw [List.append_assoc, ha, hb, List.append_assoc]

theorem Kept.flatten {pieces : List (List Char)} (h : ∀ piece ∈ pieces, Kept conforming piece) :
    Kept conforming pieces.flatten := by
  induction pieces with
  | nil => exact .nil
  | cons piece pieces ih =>
    rw [List.forall_mem_cons] at h
    exact h.1.append (ih h.2)

theorem Kept.uncommented_eq {cs : List Char} (h : Kept conforming cs) :
    uncommented conforming cs = cs := by
  have := h []
  rwa [List.append_nil, show uncommented conforming [] = [] from rfl, List.append_nil] at this

/-! ### Words and separators -/

/-- The characters that separate words and start nothing. -/
def endsWord (c : Char) : Bool := c == ' ' || c == '\n' || c == '.' || c == ';'

theorem step_endsWord {c : Char} (hc : endsWord c = true) (conforming : Bool) (cs : List Char) :
    plainStep conforming c cs = (true, .plain) ∧ isWordRest c = false := by
  simp only [endsWord, Bool.or_eq_true, beq_iff_eq] at hc
  rcases hc with ((rfl | rfl) | rfl) | rfl
  · exact ⟨rfl, rfl⟩
  · exact ⟨rfl, rfl⟩
  · exact ⟨rfl, rfl⟩
  · exact ⟨rfl, rfl⟩

theorem kept_separator {c : Char} (hc : endsWord c = true) : Kept conforming [c] := by
  intro rest
  exact shownFrom_cons_shown _ (step_endsWord hc conforming rest).1

/-- The rest of a word, up to a separator. -/
theorem shownFrom_word {cs : List Char} (hcs : ∀ c ∈ cs, isWordRest c = true) {sep : Char}
    (hsep : endsWord sep = true) (rest : List Char) :
    shownFrom conforming .word (cs ++ sep :: rest) =
      cs ++ sep :: uncommented conforming rest := by
  induction cs with
  | nil =>
    obtain ⟨hstep, hword⟩ := step_endsWord hsep conforming rest
    refine shownFrom_cons_shown _ ?_
    rw [Place.step, hword, ← hstep]
    rfl
  | cons c cs ih =>
    rw [List.forall_mem_cons] at hcs
    rw [List.cons_append, List.cons_append, ← ih hcs.2]
    refine shownFrom_cons_shown _ ?_
    rw [Place.step, if_pos hcs.1]

theorem kept_word {c : Char} {cs : List Char} (hc : isWordStart c = true)
    (hcs : ∀ c ∈ cs, isWordRest c = true) {sep : Char} (hsep : endsWord sep = true) :
    Kept conforming (c :: (cs ++ [sep])) := by
  intro rest
  obtain ⟨hname, htext⟩ := ne_of_isWordStart hc
  have hdash : c ≠ '-' := ne_of_kind hc rfl
  have hslash : c ≠ '/' := ne_of_kind hc rfl
  -- Neither the word nor its separator has a quote that could make a string of an `E`.
  have hquote : (cs ++ sep :: rest).head? ≠ some '\'' := by
    intro h
    cases cs with
    | nil => exact ne_of_kind hsep rfl (Option.some_inj.1 h)
    | cons d cs => exact ne_of_kind (hcs d List.mem_cons_self) rfl (Option.some_inj.1 h)
  rw [List.cons_append, List.append_assoc, List.singleton_append, List.cons_append,
    List.append_assoc, List.singleton_append, ← shownFrom_word hcs hsep]
  refine shownFrom_cons_shown _ ?_
  rw [Place.step, plainStep, if_neg (fun h => hdash h.1), if_neg (fun h => hslash h.1),
    if_neg hname, if_neg htext, if_neg (fun h => hquote h.2), if_pos hc]

/-! ### Names -/

theorem shownFrom_name (cs rest : List Char) :
    shownFrom conforming .name (cs.flatMap (escapedChar '"' false) ++ '"' :: rest) =
      cs.flatMap (escapedChar '"' false) ++ '"' :: uncommented conforming rest := by
  induction cs with
  | nil => exact shownFrom_cons_shown _ rfl
  | cons c cs ih =>
    rw [List.flatMap_cons, List.append_assoc, List.append_assoc, ← ih]
    by_cases hc : c = '"'
    · subst hc
      rw [show escapedChar '"' false '"' = ['"', '"'] from rfl]
      simp only [List.cons_append, List.nil_append]
      rw [shownFrom_cons_shown .plain rfl, shownFrom_cons_shown .name rfl]
    · rw [show escapedChar '"' false c = [c] by rw [escapedChar, if_neg hc]; rfl]
      simp only [List.cons_append, List.nil_append]
      refine shownFrom_cons_shown _ ?_
      rw [Place.step, if_neg hc]

theorem kept_doubled (cs : List Char) : Kept conforming (doubled '"' cs) := by
  intro rest
  rw [doubled_eq, List.cons_append, List.append_assoc, List.singleton_append, List.cons_append,
    List.append_assoc, List.singleton_append, ← shownFrom_name]
  exact shownFrom_cons_shown _ rfl

/-- **A name is kept**, with the separator behind it, whatever the name is. -/
theorem kept_quoteIdentifier (name : String) {sep : Char} (hsep : endsWord sep = true) :
    Kept conforming ((quoteIdentifier name).toList ++ [sep]) := by
  unfold quoteIdentifier
  split_ifs with hbare
  · unfold isBare at hbare
    cases hcs : name.toList with
    | nil =>
      rw [hcs] at hbare
      cases hbare
    | cons c cs =>
      rw [hcs] at hbare
      simp only [Bool.and_eq_true, List.all_eq_true] at hbare
      obtain ⟨⟨⟨hstart, hall⟩, -⟩, -⟩ := hbare
      exact kept_word (isWordStart_of_isBareStart hstart)
        (fun d hd => isWordRest_of_isBareRest (hall d hd)) hsep
  · rw [String.toList_ofList]
    exact (kept_doubled _).append (kept_separator hsep)

/-- A reference to a table is kept, with the separator behind it. -/
theorem kept_tableRef (table : TableRef) {sep : Char} (hsep : endsWord sep = true) :
    Kept conforming (table.sql.toList ++ [sep]) := by
  obtain ⟨schema, name⟩ := table
  cases schema with
  | none => exact kept_quoteIdentifier name hsep
  | some schema =>
    have hschema : Kept conforming ((quoteIdentifier schema).toList ++ ['.']) :=
      kept_quoteIdentifier schema rfl
    have hparts := hschema.append (kept_quoteIdentifier name hsep)
    rw [TableRef.sql, String.toList_append, String.toList_append]
    rwa [← List.append_assoc] at hparts

/-! ### Dollar quotes -/

theorem shownFrom_mark (shown : List Char) (next : Place) (c : Char) (rest : List Char) :
    shownFrom conforming (.mark true shown.length next) (shown ++ c :: rest) =
      shown ++ c :: shownFrom conforming next rest := by
  induction shown with
  | nil => exact shownFrom_cons_shown _ rfl
  | cons d shown ih =>
    rw [List.cons_append, List.cons_append, ← ih]
    exact shownFrom_cons_shown _ rfl

/-- A dollar tag: two signs, and a name between them or nothing. -/
def IsTag (tag : List Char) : Prop :=
  ∃ name, tag = '$' :: (name ++ ['$']) ∧ (∀ c ∈ name, isTagChar c = true) ∧
    name.head?.all isWordStart = true

variable {tag : List Char}

theorem IsTag.openingTag?_append (h : IsTag tag) (rest : List Char) :
    openingTag? (tag ++ rest) = some tag := by
  obtain ⟨name, rfl, hname, hstart⟩ := h
  have hstop : StopsAt isTagChar ('$' :: rest) := fun c hc => by
    cases hc
    rfl
  rw [List.cons_append, List.append_assoc, List.singleton_append]
  simp only [openingTag?, hstop.takeWhile_eq hname, hstop.dropWhile_eq hname]
  rw [if_pos ⟨trivial, rfl, hstart⟩]

theorem IsTag.not_mem (h : IsTag tag) {c : Char} (hc : isTagChar c = false)
    (hdollar : c ≠ '$') : c ∉ tag := by
  obtain ⟨name, rfl, hname, -⟩ := h
  simp only [List.mem_cons, List.mem_append, List.not_mem_nil, or_false, not_or]
  exact ⟨hdollar, fun hmem => ne_of_kind (hname c hmem) hc rfl, hdollar⟩

/-- A tag is passed as one mark, from wherever its first sign leads into one. -/
theorem IsTag.shownFrom_append (h : IsTag tag) {place next : Place} {rest : List Char}
    (hstep : place.step conforming '$' (tag.tail ++ rest) =
      (true, .mark true (tag.length - 2) next)) :
    shownFrom conforming place (tag ++ rest) = tag ++ shownFrom conforming next rest := by
  obtain ⟨name, rfl, -, -⟩ := h
  have hlength : ('$' :: (name ++ ['$'])).length - 2 = name.length := by simp
  rw [hlength, List.tail_cons] at hstep
  rw [List.cons_append, shownFrom_cons_shown _ hstep, List.append_assoc, List.singleton_append,
    shownFrom_mark, List.cons_append, List.append_assoc, List.singleton_append]

theorem IsTag.cons_tail (h : IsTag tag) : '$' :: tag.tail = tag := by
  obtain ⟨name, rfl, -, -⟩ := h
  rfl

/-- No tag starts with a line end. -/
theorem IsTag.not_infix_cons {body : List Char} (h : IsTag tag) (hfree : ¬ tag <:+: body) :
    ¬ tag <:+: '\n' :: body := by
  rw [List.infix_cons_iff, not_or]
  refine ⟨fun hstart => ?_, hfree⟩
  rw [← h.cons_tail, List.cons_prefix_cons] at hstart
  exact absurd hstart.1 (by decide)

theorem IsTag.uncommented_opening (h : IsTag tag) (rest : List Char) :
    uncommented conforming (tag ++ rest) = tag ++ shownFrom conforming (.quoted tag) rest := by
  have hopening := h.openingTag?_append rest
  rw [← h.cons_tail, List.cons_append, h.cons_tail] at hopening
  refine h.shownFrom_append ?_
  rw [Place.step, plainStep, if_neg (by simp), if_neg (by simp), if_neg (by decide),
    if_neg (by decide), if_neg (by simp), if_neg (by decide), hopening]

theorem IsTag.shownFrom_closing (h : IsTag tag) (rest : List Char) :
    shownFrom conforming (.quoted tag) (tag ++ rest) = tag ++ uncommented conforming rest := by
  refine h.shownFrom_append ?_
  rw [Place.step, if_pos]
  rw [← List.cons_append, h.cons_tail, List.isPrefixOf_iff_prefix]
  exact List.prefix_append tag rest

/-- A tag that a text starts with stands before any character that it does not
have. -/
theorem prefix_of_prefix_append {cs rest : List Char} {c : Char} (hc : c ∉ tag)
    (h : tag <+: cs ++ c :: rest) : tag <+: cs := by
  have hcs : cs ++ [c] <+: cs ++ c :: rest := ⟨rest, by simp⟩
  rcases List.prefix_or_prefix_of_prefix h hcs with hshort | hlong
  · rcases List.prefix_concat_iff.1 hshort with rfl | hshort
    · exact absurd (by simp) hc
    · exact hshort
  · exact absurd (hlong.subset (by simp)) hc

/-- Inside a dollar quote everything is shown, up to the line end before the
closing tag, if the tag does not stand in it. -/
theorem shownFrom_quoted {body : List Char} (htag : '\n' ∉ tag) (hfree : ¬ tag <:+: body)
    (rest : List Char) :
    shownFrom conforming (.quoted tag) (body ++ '\n' :: rest) =
      body ++ '\n' :: shownFrom conforming (.quoted tag) rest := by
  -- The quote could only be closed too early, by a tag that begins in the body; it would
  -- end there as well, since it has no line end.
  induction body with
  | nil =>
    have hno : ¬ tag <+: [] ++ '\n' :: rest := fun h =>
      hfree (prefix_of_prefix_append htag h).isInfix
    rw [List.nil_append] at hno
    refine shownFrom_cons_shown _ ?_
    rw [Place.step, if_neg (by rwa [List.isPrefixOf_iff_prefix])]
  | cons c body ih =>
    rw [List.infix_cons_iff, not_or] at hfree
    have hno : ¬ tag <+: c :: (body ++ '\n' :: rest) := fun h =>
      hfree.1 (prefix_of_prefix_append htag h)
    rw [List.cons_append, List.cons_append, ← ih hfree.2]
    refine shownFrom_cons_shown _ ?_
    rw [Place.step, if_neg (by rwa [List.isPrefixOf_iff_prefix])]

/-- **A dollar quote is kept**, if its tag does not stand in what is quoted. -/
theorem kept_dollarQuote {body : List Char} (htag : IsTag tag) (hfree : ¬ tag <:+: body) :
    Kept conforming (tag ++ '\n' :: (body ++ '\n' :: tag)) := by
  have hline : '\n' ∉ tag := htag.not_mem rfl (by decide)
  have hfree' : ¬ tag <:+: '\n' :: body := htag.not_infix_cons hfree
  intro rest
  have hbody : shownFrom conforming (.quoted tag) ('\n' :: body ++ '\n' :: (tag ++ rest)) =
      '\n' :: body ++ '\n' :: (tag ++ uncommented conforming rest) := by
    rw [shownFrom_quoted hline hfree', htag.shownFrom_closing]
  have htext : ∀ rest, tag ++ '\n' :: (body ++ '\n' :: tag) ++ rest =
      tag ++ ('\n' :: body ++ '\n' :: (tag ++ rest)) := fun rest => by simp
  rw [htext, htext, htag.uncommented_opening, hbody]

end Sql

end ColumnChecks
