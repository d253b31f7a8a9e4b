import ColumnChecks.Proofs.Decimal.Numeral
import ColumnChecks.Proofs.Sql.Token

/-!
# The tokens of names, values and operators

What a single piece of a predicate is written as is read as one token, and the
token holds what was written: a name (`ColumnChecks.Sql.token?_quoteIdentifier`), a
text (`ColumnChecks.Sql.token?_quoteText`), a number
(`ColumnChecks.Sql.token?_numeral`), an operator. This needs something to be said
about what follows, since a name would go on with a letter and a string with a
quote. In a predicate every piece is followed by a blank, a comma or a
parenthesis.
-/

namespace ColumnChecks

namespace Sql

variable {conforming : Bool}

/-! ### Marks -/

/-- A character between two copies of a mark. -/
def escapedChar (mark : Char) (escapes : Bool) (c : Char) : List Char :=
  if c = mark then [mark, mark] else if escapes && c == '\\' then ['\\', '\\'] else [c]

/-- **What is written between marks is read back**, unless one more mark
follows. -/
theorem readMarked_escaped {mark : Char} (hmark : mark ≠ '\\') (escapes : Bool)
    {rest : List Char} (hrest : rest.head? ≠ some mark) (cs : List Char) :
    readMarked mark escapes (cs.flatMap (escapedChar mark escapes) ++ mark :: rest) =
      some (cs, rest) := by
  induction cs with
  | nil =>
    cases rest with
    | nil => rw [List.flatMap_nil, List.nil_append, readMarked, if_pos rfl]
    | cons d rest =>
      have hd : d ≠ mark := fun h => hrest (congrArg some h)
      rw [List.flatMap_nil, List.nil_append, readMarked, if_pos rfl, if_neg hd]
  | cons c cs ih =>
    rw [List.flatMap_cons, List.append_assoc, escapedChar]
    split_ifs with hc hescape
    · -- The mark itself, which is written twice.
      rw [List.cons_append, List.singleton_append, readMarked, if_pos rfl, if_pos rfl, ih, hc]
      rfl
    · rw [Bool.and_eq_true, beq_iff_eq] at hescape
      obtain ⟨rfl, rfl⟩ := hescape
      rw [List.cons_append, List.singleton_append, readMarked, if_neg (Ne.symm hmark),
        if_pos (show (true && '\\' == '\\') = true from rfl), if_pos (Or.inl rfl), ih]
      rfl
    · -- Another character, which is read only if there is one more behind it.
      obtain ⟨d, more, hmore⟩ : ∃ d more,
          cs.flatMap (escapedChar mark escapes) ++ mark :: rest = d :: more := by
        cases hcs : cs.flatMap (escapedChar mark escapes) with
        | nil => exact ⟨mark, rest, rfl⟩
        | cons d more => exact ⟨d, more ++ mark :: rest, rfl⟩
      rw [hmore] at ih ⊢
      rw [List.singleton_append, readMarked, if_neg hc, if_neg hescape, ih]
      rfl

theorem doubled_eq (mark : Char) (cs : List Char) :
    doubled mark cs = mark :: (cs.flatMap (escapedChar mark false) ++ [mark]) := by
  simp only [doubled, List.cons_append, List.cons.injEq, true_and]
  congr 2

/-! ### Names -/

theorem isAlpha_iff {c : Char} : c.isAlpha = true ↔ c.isUpper = true ∨ c.isLower = true :=
  Bool.or_eq_true_iff

theorem isUpper_iff {c : Char} : c.isUpper = true ↔ c.val ≥ 'A'.val ∧ c.val ≤ 'Z'.val :=
  decide_eq_true_iff

theorem isLower_iff {c : Char} : c.isLower = true ↔ c.val ≥ 'a'.val ∧ c.val ≤ 'z'.val :=
  Bool.and_eq_true_iff.trans (and_congr decide_eq_true_iff decide_eq_true_iff)

theorem isWordRest_of_isBareRest {c : Char} (h : isBareRest c = true) : isWordRest c = true := by
  unfold isBareRest at h
  unfold isWordRest isWordStart
  simp only [Bool.or_eq_true, isAlpha_iff] at h ⊢
  tauto

theorem isWordStart_of_isBareStart {c : Char} (h : isBareStart c = true) :
    isWordStart c = true := by
  unfold isBareStart at h
  unfold isWordStart
  simp only [Bool.or_eq_true, isAlpha_iff] at h ⊢
  tauto

theorem isBareRest_of_isBareStart {c : Char} (h : isBareStart c = true) : isBareRest c = true := by
  unfold isBareStart at h
  unfold isBareRest
  simp only [Bool.or_eq_true] at h ⊢
  tauto

/-- What stands in a bare name is in lower case already. -/
theorem toLower_of_isBareRest {c : Char} (h : isBareRest c = true) : c.toLower = c := by
  refine Decimal.Numeral.toLower_of_not_capital ?_
  rintro ⟨hlow, hhigh⟩
  simp only [isBareRest, Bool.or_eq_true, isLower_iff, Char.isDigit, Bool.and_eq_true,
    decide_eq_true_eq, beq_iff_eq] at h
  rcases h with ((h | h) | rfl) | rfl
  · exact absurd (UInt32.le_trans h.1 hhigh) (by decide)
  · exact absurd (UInt32.le_trans hlow h.2) (by decide)
  · exact absurd hhigh (by decide)
  · exact absurd hlow (by decide)

theorem map_toLower_of_isBareRest {cs : List Char} (h : ∀ c ∈ cs, isBareRest c = true) :
    cs.map Char.toLower = cs := by
  conv_rhs => rw [← List.map_id cs]
  exact List.map_congr_left fun c hc => toLower_of_isBareRest (h c hc)

/-- A text does not go on with a character of a kind. -/
def StopsAt (p : Char → Bool) (rest : List Char) : Prop := ∀ c ∈ rest.head?, p c = false

theorem StopsAt.takeWhile_eq {p : Char → Bool} {cs rest : List Char} (h : StopsAt p rest)
    (hcs : ∀ c ∈ cs, p c = true) : (cs ++ rest).takeWhile p = cs := by
  rw [List.takeWhile_append_of_pos hcs]
  cases rest with
  | nil => simp
  | cons c rest => rw [List.takeWhile_cons_of_neg (by simp [h c rfl]), List.append_nil]

theorem StopsAt.dropWhile_eq {p : Char → Bool} {cs rest : List Char} (h : StopsAt p rest)
    (hcs : ∀ c ∈ cs, p c = true) : (cs ++ rest).dropWhile p = rest := by
  rw [List.dropWhile_append_of_pos hcs]
  cases rest with
  | nil => rfl
  | cons c rest => rw [List.dropWhile_cons_of_neg (by simp [h c rfl])]

/-- A character of a kind is none that is not of it. -/
theorem ne_of_kind {p : Char → Bool} {c d : Char} (hc : p c = true) (hd : p d = false) : c ≠ d := by
  rintro rfl
  rw [hc] at hd
  cases hd

theorem ne_of_isWordStart {c : Char} (h : isWordStart c = true) : c ≠ '"' ∧ c ≠ '\'' :=
  ⟨ne_of_kind h rfl, ne_of_kind h rfl⟩

/-- A word, and what does not belong to it. -/
theorem token?_word {c : Char} {cs rest : List Char} (hc : isWordStart c = true)
    (hcs : ∀ c ∈ cs, isWordRest c = true) (hrest : StopsAt isWordRest rest)
    (hquote : c = 'E' ∨ c = 'e' → (cs ++ rest).head? ≠ some '\'') :
    token? conforming (c :: (cs ++ rest)) =
      some (.word (String.ofList ((c :: cs).map Char.toLower)), rest) := by
  obtain ⟨hname, htext⟩ := ne_of_isWordStart hc
  rw [token?, if_neg hname, if_neg htext, if_neg (fun h => hquote h.1 h.2), if_pos hc,
    hrest.takeWhile_eq hcs, hrest.dropWhile_eq hcs]

/-- The token of a name. -/
def nameToken (name : String) : Token := if isBare name then .word name else .quoted name

/-- **A name is read as one token**, if neither a letter nor a double quote follows, and after the
name `e` no single quote. -/
theorem token?_quoteIdentifier {name : String} (hname : name ≠ "") {rest : List Char}
    (hrest : StopsAt isWordRest rest) (hquote : name = "e" → rest.head? ≠ some '\'')
    (hmark : rest.head? ≠ some '"') :
    token? conforming ((quoteIdentifier name).toList ++ rest) = some (nameToken name, rest) := by
  rw [quoteIdentifier, nameToken]
  split_ifs with hbare
  · unfold isBare at hbare
    cases hcs : name.toList with
    | nil =>
      rw [hcs] at hbare
      cases hbare
    | cons c cs =>
      rw [hcs] at hbare
      simp only [Bool.and_eq_true, List.all_eq_true] at hbare
      obtain ⟨⟨⟨hstart, hall⟩, -⟩, -⟩ := hbare
      rw [List.cons_append, token?_word (isWordStart_of_isBareStart hstart)
        (fun c hc => isWordRest_of_isBareRest (hall c hc)) hrest]
      · have hlower : (c :: cs).map Char.toLower = c :: cs :=
          map_toLower_of_isBareRest
            (List.forall_mem_cons.2 ⟨isBareRest_of_isBareStart hstart, hall⟩)
        rw [hlower, ← hcs, String.ofList_toList]
      · intro he
        cases cs with
        | nil =>
          -- The name is a single letter, and no capital one.
          rcases he with rfl | rfl
          · cases hstart
          · exact hquote (by rw [← String.toList_inj, hcs]; rfl)
        | cons d cs =>
          intro h
          have hd : isBareRest d = true := hall d List.mem_cons_self
          exact ne_of_kind hd rfl (Option.some_inj.1 h)
  · have hne : name.toList ≠ [] := fun h => hname (String.toList_eq_nil_iff.1 h)
    rw [String.toList_ofList, doubled_eq, List.cons_append, List.append_assoc,
      List.singleton_append, token?, if_pos rfl, readMarked_escaped (by decide) false hmark,
      Option.bind_some]
    simp only
    rw [if_neg hne, String.ofList_toList]

/-! ### Texts -/

theorem escapedChar_of_ne {mark c : Char} (escapes : Bool) (hc : c ≠ '\\') :
    escapedChar mark escapes c = escapedChar mark false c := by
  have hbeq : (c == '\\') = false := beq_eq_false_iff_ne.2 hc
  simp [escapedChar, hbeq]

/-- Doubling backslashes and then quotes. -/
theorem flatMap_escapedChar (cs : List Char) :
    (cs.flatMap fun c => if c = '\\' then ['\\', '\\'] else [c]).flatMap (escapedChar '\'' false) =
      cs.flatMap (escapedChar '\'' true) := by
  rw [List.flatMap_assoc]
  congr 1
  funext c
  by_cases hc : c = '\\'
  · subst hc
    rfl
  · rw [if_neg hc, List.flatMap_singleton, escapedChar_of_ne true hc]

/-- **A text is read as one token**, under either setting, if no quote follows. -/
theorem token?_quoteText (text : String) {rest : List Char} (hrest : rest.head? ≠ some '\'') :
    token? conforming ((quoteText text).toList ++ rest) = some (.text text, rest) := by
  simp only [quoteText]
  split_ifs with hback
  · rw [String.toList_ofList, doubled_eq, flatMap_escapedChar, List.cons_append, List.cons_append,
      List.append_assoc, List.singleton_append, token?, if_neg (by decide), if_neg (by decide),
      if_pos ⟨Or.inl rfl, rfl⟩, List.tail_cons, readMarked_escaped (by decide) true hrest,
      Option.map_some]
    simp only
    rw [String.ofList_toList]
  · have hplain : text.toList.flatMap (escapedChar '\'' false) =
        text.toList.flatMap (escapedChar '\'' (!conforming)) := by
      refine List.flatMap_congr fun c hc => (escapedChar_of_ne _ ?_).symm
      rintro rfl
      exact hback (List.contains_iff_mem.2 hc)
    rw [String.toList_ofList, doubled_eq, hplain, List.cons_append, List.append_assoc,
      List.singleton_append, token?, if_neg (by decide), if_pos rfl,
      readMarked_escaped (by decide) _ hrest, Option.map_some]
    simp only
    rw [String.ofList_toList]

/-! ### Numerals -/

theorem StopsAt.imp {p q : Char → Bool} {rest : List Char} (h : StopsAt p rest)
    (hpq : ∀ c, q c = true → p c = true) : StopsAt q rest := fun c hc => by
  have := h c hc
  by_contra hq
  rw [Bool.not_eq_false] at hq
  rw [hpq c hq] at this
  cases this

theorem isWordRest_of_isDigit {c : Char} (h : c.isDigit = true) : isWordRest c = true := by
  simp [isWordRest, h]

theorem isWordRest_of_isWordStart {c : Char} (h : isWordStart c = true) : isWordRest c = true := by
  simp [isWordRest, h]

/-- A numeral, and what does not belong to it. -/
theorem readNumeral_unsigned (n : Decimal.Numeral) {rest : List Char}
    (hrest : StopsAt isWordRest rest) (hpoint : rest.head? ≠ some '.') :
    readNumeral (n.unsigned ++ rest) = some (n.unsigned, rest) := by
  have hstart : rest.head?.any isWordStart = false := by
    cases hhead : rest.head? with
    | none => rfl
    | some c => exact hrest.imp (fun _ => isWordRest_of_isWordStart) c hhead
  have hdigit : StopsAt Char.isDigit rest := hrest.imp fun _ => isWordRest_of_isDigit
  have hfraction : StopsAt Char.isDigit
      ((if n.fraction = [] then [] else '.' :: n.fraction) ++ rest) := by
    split_ifs
    · exact hdigit
    · intro c hc
      cases hc
      rfl
  unfold readNumeral
  rw [Decimal.Numeral.unsigned, List.append_assoc, hfraction.takeWhile_eq n.whole_isDigit,
    hfraction.dropWhile_eq n.whole_isDigit]
  split_ifs with hnil
  · rw [List.nil_append, List.append_nil]
    simp only
    split
    · exact absurd rfl hpoint
    · simp only [hstart, Bool.false_eq_true, if_false]
  · simp only [List.cons_append, hdigit.takeWhile_eq n.fraction_isDigit,
      hdigit.dropWhile_eq n.fraction_isDigit, hstart, Bool.false_eq_true, if_false]

theorem not_isWordStart_of_isDigit {c : Char} (h : c.isDigit = true) : isWordStart c = false := by
  rw [Char.isDigit, Bool.and_eq_true, decide_eq_true_eq, decide_eq_true_eq] at h
  rw [Bool.eq_false_iff]
  intro hc
  simp only [isWordStart, isAlpha_iff, isUpper_iff, isLower_iff, Bool.or_eq_true,
    decide_eq_true_eq, beq_iff_eq] at hc
  rcases hc with ((hc | hc) | rfl) | hc
  · exact absurd (UInt32.le_trans hc.1 h.2) (by decide)
  · exact absurd (UInt32.le_trans hc.1 h.2) (by decide)
  · exact absurd h.2 (by decide)
  · have hlow : c.toNat ≤ 57 := h.2
    omega

/-- **A numeral is read as one token**, if neither a letter nor a point
follows. -/
theorem token?_numeral (n : Decimal.Numeral) {rest : List Char}
    (hrest : StopsAt isWordRest rest) (hpoint : rest.head? ≠ some '.') :
    token? conforming (n.chars ++ rest) = some (.numeral (String.ofList n.chars), rest) := by
  have hread := readNumeral_unsigned n hrest hpoint
  obtain ⟨c, cs, hcons, hc⟩ := n.exists_unsigned_eq_cons
  rw [Decimal.Numeral.chars]
  cases n.negative with
  | true =>
    rw [if_pos rfl, List.singleton_append, List.cons_append, token?, if_neg (by decide),
      if_neg (by decide), if_neg (by simp), if_neg (by decide), if_neg (by decide), if_pos, hread]
    · rfl
    · rw [hcons]
      exact ⟨rfl, hc⟩
  | false =>
    rw [if_neg Bool.false_ne_true, List.nil_append]
    rw [hcons, List.cons_append] at hread ⊢
    rw [token?, if_neg (ne_of_kind hc rfl), if_neg (ne_of_kind hc rfl), if_neg, if_neg,
      if_pos hc, hread]
    · rfl
    · simp [not_isWordStart_of_isDigit hc]
    · exact fun h => h.1.elim (ne_of_kind hc rfl) (ne_of_kind hc rfl)

/-! ### Symbols -/

/-- An operator, and what does not belong to it. -/
theorem token?_operator {c : Char} {cs rest : List Char}
    (h : ∀ d ∈ c :: cs, isOperatorChar d = true) (hrest : StopsAt isOperatorChar rest) :
    token? conforming (c :: (cs ++ rest)) = some (.symbol (String.ofList (c :: cs)), rest) := by
  obtain ⟨hc, hcs⟩ := List.forall_mem_cons.1 h
  have hother : c ≠ '"' ∧ c ≠ '\'' ∧ c ≠ 'E' ∧ c ≠ 'e' ∧ isWordStart c = false ∧
      c.isDigit = false ∧ c ≠ '-' ∧ c ≠ '(' ∧ c ≠ ')' ∧ c ≠ ',' := by
    simp only [isOperatorChar, Bool.or_eq_true, beq_iff_eq] at hc
    rcases hc with (((((rfl | rfl) | rfl) | rfl) | rfl) | rfl) | rfl <;> decide
  obtain ⟨h1, h2, h3, h4, h5, h6, h7, h8, h9, h10⟩ := hother
  rw [token?, if_neg h1, if_neg h2, if_neg (fun h => h.1.elim h3 h4), if_neg (by simp [h5]),
    if_neg (by simp [h6]), if_neg (fun h => h7 h.1),
    if_neg (fun h => h.elim h8 fun h => h.elim h9 h10), if_pos hc, hrest.takeWhile_eq hcs,
    hrest.dropWhile_eq hcs]

theorem token?_parenthesis {c : Char} (hc : c = '(' ∨ c = ')' ∨ c = ',') (rest : List Char) :
    token? conforming (c :: rest) = some (.symbol (String.ofList [c]), rest) := by
  have hother : c ≠ '"' ∧ c ≠ '\'' ∧ c ≠ 'E' ∧ c ≠ 'e' ∧ isWordStart c = false ∧
      c.isDigit = false ∧ c ≠ '-' := by
    rcases hc with rfl | rfl | rfl <;> decide
  obtain ⟨h1, h2, h3, h4, h5, h6, h7⟩ := hother
  rw [token?, if_neg h1, if_neg h2, if_neg (fun h => h.1.elim h3 h4), if_neg (by simp [h5]),
    if_neg (by simp [h6]), if_neg (fun h => h7 h.1), if_pos hc]

end Sql

end ColumnChecks
