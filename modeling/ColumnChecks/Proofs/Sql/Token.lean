import Mathlib.Tactic.Common
import Mathlib.Data.List.TakeWhile
import ColumnChecks.Sql.Expr

/-!
# Tokens of SQL

A reader of SQL that knows nothing of how predicates are written. It covers the
fragment that predicates are written in: words, which are folded to lower case;
names between double quotes; strings between single quotes, and such with an `E`
in front, where a backslash escapes; numerals with a sign; and symbols.

Whether a backslash in a plain string escapes as well is up to a setting of the
server, `conforming`, and everything is said for both of its values. What is
outside the fragment has no tokens: comments, dollar quotes, escapes other than of
a backslash or a quote, numerals that run into words.

Tokens are read one at a time, the longest one that the text starts with, and what
follows a token decides only where it ends (`ColumnChecks.Sql.lex_of_token`).
-/

namespace ColumnChecks

namespace Sql

/-- A token. -/
inductive Token where
  /-- A keyword or an unquoted name, in lower case. -/
  | word (text : String)
  | quoted (name : String)
  | text (value : String)
  | numeral (text : String)
  | symbol (text : String)
  deriving DecidableEq, Repr

/-! ### One token -/

def isSpace (c : Char) : Bool := c == ' ' || c == '\t' || c == '\n' || c == '\r' || c == '\x0c'

/-- Whether a word may start with a character. -/
def isWordStart (c : Char) : Bool := c.isAlpha || c == '_' || decide (128 ≤ c.toNat)

/-- Whether a word may go on with a character. -/
def isWordRest (c : Char) : Bool := isWordStart c || c.isDigit || c == '$'

/-- The characters of operators. -/
def isOperatorChar (c : Char) : Bool :=
  c == '<' || c == '>' || c == '=' || c == '~' || c == '!' || c == '*' || c == '%'

/-- What stands before a closing mark, and what behind it. A mark that is doubled
does not close. -/
def readMarked (mark : Char) (escapes : Bool) : List Char → Option (List Char × List Char)
  | [] => none
  | [c] => if c = mark then some ([], []) else none
  | c :: d :: rest =>
    if c = mark then
      if d = mark then (readMarked mark escapes rest).map fun (s, rest) => (mark :: s, rest)
      else some ([], d :: rest)
    else if escapes && c == '\\' then
      if d = '\\' ∨ d = mark then
        (readMarked mark escapes rest).map fun (s, rest) => (d :: s, rest)
      else none
    else (readMarked mark escapes (d :: rest)).map fun (s, rest) => (c :: s, rest)

/-- The digits that a text starts with, with a point and more digits if there is a
point; and the rest, which must not start with a word. -/
def readNumeral (cs : List Char) : Option (List Char × List Char) :=
  let whole := cs.takeWhile Char.isDigit
  let found := match cs.dropWhile Char.isDigit with
    | '.' :: rest => (whole ++ '.' :: rest.takeWhile Char.isDigit, rest.dropWhile Char.isDigit)
    | rest => (whole, rest)
  if found.2.head?.any isWordStart then none else some found

/-- The token that a text starts with, and the rest. -/
def token? (conforming : Bool) : List Char → Option (Token × List Char)
  | [] => none
  | c :: cs =>
    if c = '"' then
      (readMarked '"' false cs).bind fun (s, rest) =>
        if s = [] then none else some (.quoted (String.ofList s), rest)
    else if c = '\'' then
      (readMarked '\'' (!conforming) cs).map fun (s, rest) => (.text (String.ofList s), rest)
    else if (c = 'E' ∨ c = 'e') ∧ cs.head? = some '\'' then
      (readMarked '\'' true cs.tail).map fun (s, rest) => (.text (String.ofList s), rest)
    else if isWordStart c then
      some (.word (String.ofList ((c :: cs.takeWhile isWordRest).map Char.toLower)),
        cs.dropWhile isWordRest)
    else if c.isDigit then
      (readNumeral (c :: cs)).map fun (s, rest) => (.numeral (String.ofList s), rest)
    else if c = '-' ∧ cs.head?.any Char.isDigit then
      (readNumeral cs).map fun (s, rest) => (.numeral (String.ofList ('-' :: s)), rest)
    else if c = '(' ∨ c = ')' ∨ c = ',' then some (.symbol (String.ofList [c]), cs)
    else if isOperatorChar c then
      some (.symbol (String.ofList (c :: cs.takeWhile isOperatorChar)),
        cs.dropWhile isOperatorChar)
    else none

/-! ### All tokens -/

/-- The tokens of a text, if there are not more characters than that. -/
def lexWithin (conforming : Bool) : Nat → List Char → Option (List Token)
  | _, [] => some []
  | 0, _ :: _ => none
  | fuel + 1, c :: cs =>
    if isSpace c then lexWithin conforming fuel cs
    else (token? conforming (c :: cs)).bind fun (t, rest) =>
      (lexWithin conforming fuel rest).map (t :: ·)

/-- **The tokens of a text.** -/
def lex (conforming : Bool) (cs : List Char) : Option (List Token) :=
  lexWithin conforming cs.length cs

/-! ### Reading on

Every token takes something away, so that there is always enough fuel, and reading
a text is reading its first token and then the rest. -/

theorem length_readMarked {mark : Char} {escapes : Bool} {cs s rest : List Char}
    (h : readMarked mark escapes cs = some (s, rest)) : rest.length < cs.length := by
  induction cs using readMarked.induct mark escapes generalizing s rest with
  | case1 => cases h
  | case2 =>
    rw [readMarked, if_pos rfl] at h
    cases h
    exact Nat.zero_lt_one
  | case3 c hc =>
    rw [readMarked, if_neg hc] at h
    cases h
  | case4 rest' ih =>
    rw [readMarked, if_pos rfl, if_pos rfl] at h
    obtain ⟨⟨s', r⟩, hr, hpair⟩ := Option.map_eq_some_iff.1 h
    cases hpair
    have := ih hr
    simp only [List.length_cons]
    omega
  | case5 d rest' hd =>
    rw [readMarked, if_pos rfl, if_neg hd] at h
    cases h
    simp
  | case6 c d rest' hc hescape hd ih =>
    rw [readMarked, if_neg hc, if_pos hescape, if_pos hd] at h
    obtain ⟨⟨s', r⟩, hr, hpair⟩ := Option.map_eq_some_iff.1 h
    cases hpair
    have := ih hr
    simp only [List.length_cons]
    omega
  | case7 c d rest' hc hescape hd =>
    rw [readMarked, if_neg hc, if_pos hescape, if_neg hd] at h
    cases h
  | case8 c d rest' hc hescape ih =>
    rw [readMarked, if_neg hc, if_neg hescape] at h
    obtain ⟨⟨s', r⟩, hr, hpair⟩ := Option.map_eq_some_iff.1 h
    cases hpair
    have := ih hr
    simp only [List.length_cons] at this ⊢
    omega

theorem length_readNumeral {cs s rest : List Char} (h : readNumeral cs = some (s, rest)) :
    rest.length ≤ (cs.dropWhile Char.isDigit).length := by
  unfold readNumeral at h
  simp only at h
  split_ifs at h
  have hrest : _ = rest := congrArg Prod.snd (Option.some.inj h)
  rw [← hrest]
  split
  · next rest' heq =>
    have hpoint : (rest'.dropWhile Char.isDigit).length ≤ rest'.length :=
      (List.dropWhile_suffix _).length_le
    rw [heq, List.length_cons]
    exact hpoint.trans (Nat.le_succ _)
  · exact le_rfl

theorem length_token? {conforming : Bool} {cs rest : List Char} {t : Token}
    (h : token? conforming cs = some (t, rest)) : rest.length < cs.length := by
  cases cs with
  | nil => cases h
  | cons c cs =>
    rw [List.length_cons, Nat.lt_succ_iff]
    rw [token?] at h
    split_ifs at h with _ _ _ _ hdigit
    · obtain ⟨⟨s, r⟩, hr, hpair⟩ := Option.bind_eq_some_iff.1 h
      simp only at hpair
      split_ifs at hpair
      cases hpair
      exact (length_readMarked hr).le
    · obtain ⟨⟨s, r⟩, hr, hpair⟩ := Option.map_eq_some_iff.1 h
      cases hpair
      exact (length_readMarked hr).le
    · obtain ⟨⟨s, r⟩, hr, hpair⟩ := Option.map_eq_some_iff.1 h
      cases hpair
      exact (length_readMarked hr).le.trans (by simp)
    · cases h
      exact (List.dropWhile_suffix _).length_le
    · obtain ⟨⟨s, r⟩, hr, hpair⟩ := Option.map_eq_some_iff.1 h
      cases hpair
      refine (length_readNumeral hr).trans ?_
      rw [List.dropWhile_cons_of_pos hdigit]
      exact (List.dropWhile_suffix _).length_le
    · obtain ⟨⟨s, r⟩, hr, hpair⟩ := Option.map_eq_some_iff.1 h
      cases hpair
      exact (length_readNumeral hr).trans (List.dropWhile_suffix _).length_le
    · cases h
      exact le_rfl
    · cases h
      exact (List.dropWhile_suffix _).length_le

theorem lexWithin_of_le {conforming : Bool} {fuel fuel' : Nat} {cs : List Char}
    (h : cs.length ≤ fuel) (h' : cs.length ≤ fuel') :
    lexWithin conforming fuel cs = lexWithin conforming fuel' cs := by
  induction fuel generalizing fuel' cs with
  | zero =>
    obtain rfl : cs = [] := List.length_eq_zero_iff.1 (Nat.le_zero.1 h)
    cases fuel' <;> rfl
  | succ fuel ih =>
    cases cs with
    | nil => cases fuel' <;> rfl
    | cons c cs =>
      cases fuel' with
      | zero => cases h'
      | succ fuel' =>
        rw [List.length_cons, Nat.succ_le_succ_iff] at h h'
        rw [lexWithin, lexWithin]
        split_ifs
        · exact ih h h'
        · cases htoken : token? conforming (c :: cs) with
          | none => rfl
          | some found =>
            obtain ⟨t, rest⟩ := found
            have hrest := length_token? htoken
            rw [List.length_cons, Nat.lt_succ_iff] at hrest
            simp only [Option.bind_some]
            rw [ih (hrest.trans h) (hrest.trans h')]

variable {conforming : Bool}

theorem lex_nil : lex conforming [] = some [] := rfl

theorem lex_space {c : Char} (hc : isSpace c = true) (cs : List Char) :
    lex conforming (c :: cs) = lex conforming cs := by
  rw [lex, List.length_cons, lexWithin, if_pos hc]
  rfl

/-- **Reading a text** is reading its first token and then the rest. -/
theorem lex_of_token {cs rest : List Char} {t : Token}
    (hspace : ∀ c ∈ cs.head?, isSpace c = false) (h : token? conforming cs = some (t, rest)) :
    lex conforming cs = (lex conforming rest).map (t :: ·) := by
  cases cs with
  | nil => cases h
  | cons c cs =>
    have hc : isSpace c = false := hspace c rfl
    have hrest := length_token? h
    rw [List.length_cons, Nat.lt_succ_iff] at hrest
    rw [lex, List.length_cons, lexWithin, hc, if_neg Bool.false_ne_true, h, Option.bind_some, lex]
    simp only
    rw [lexWithin_of_le hrest le_rfl]

end Sql

end ColumnChecks
