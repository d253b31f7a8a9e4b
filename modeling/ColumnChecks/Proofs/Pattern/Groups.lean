import Mathlib.Data.List.TakeWhile
import ColumnChecks.Proofs.Pattern.Escapes

/-!
# Groups and repetitions, read and scanned

An opening parenthesis with a question mark behind it starts a construct, unless it is
`(?:`; **what it brings is a construct just if the text behind it says so**
(`ColumnChecks.Pattern.opening_at`). Lookaround is never read, and flags are a
construct as soon as there is one of them.

All other characters outside brackets are neither constructs nor the start of one
(`ColumnChecks.Pattern.isDull`), the bounds of a repetition included
(`ColumnChecks.Pattern.passes_counts`).
-/

namespace ColumnChecks.Pattern

/-! ### Opening parentheses -/

/-- One flag of a list. -/
theorem exists_of_flagItems_succ {fuel : Nat} {seen : List (FlagItem × Span)}
    {dangling : Option Span} {c final : Cursor} {items : List FlagItem} {d : Char}
    (hd : c.char? = some d) (hcolon : d ≠ ':') (hclose : d ≠ ')')
    (h : flagItems (fuel + 1) seen dangling c = .ok (items, final)) :
    ∃ item dangling, flagItems fuel (seen ++ [(item, c.charSpan)]) dangling c.advance =
      .ok (items, final) := by
  rw [flagItems.eq_def] at h
  simp only [hd] at h
  rw [if_neg (not_or.2 ⟨hcolon, hclose⟩)] at h
  split at h
  · obtain ⟨item, -, h⟩ := exists_of_bind_eq_ok h
    split at h
    · cases h
    · exact ⟨item, _, h⟩
  · split at h
    · obtain ⟨item, -, h⟩ := exists_of_bind_eq_ok h
      split at h
      · cases h
      · exact ⟨item, _, h⟩
    · cases h

/-- A list of flags ends at a colon or a closing parenthesis. -/
theorem flagItems_eq {fuel : Nat} {seen : List (FlagItem × Span)} {c final : Cursor}
    {items : List FlagItem} {dangling : Option Span} {d : Char} (hd : c.char? = some d)
    (hend : d = ':' ∨ d = ')') (h : flagItems (fuel + 1) seen dangling c = .ok (items, final)) :
    items = seen.map (·.1) ∧ final = c := by
  rw [flagItems.eq_def] at h
  simp only [hd] at h
  rw [if_pos hend] at h
  split at h
  · cases h
  · cases h
    exact ⟨rfl, rfl⟩

/-- A list of flags does not get shorter. -/
theorem length_le_of_flagItems {fuel : Nat} {seen : List (FlagItem × Span)}
    {dangling : Option Span} {c final : Cursor} {items : List FlagItem}
    (h : flagItems fuel seen dangling c = .ok (items, final)) : seen.length ≤ items.length := by
  induction fuel generalizing seen dangling c with
  | zero => cases h
  | succ fuel ih =>
    cases hd : c.char? with
    | none =>
      rw [flagItems.eq_def] at h
      simp only [hd] at h
      cases h
    | some d =>
      by_cases hend : d = ':' ∨ d = ')'
      · obtain ⟨rfl, -⟩ := flagItems_eq hd hend h
        exact Nat.le_of_eq (List.length_map _).symm
      · obtain ⟨hcolon, hclose⟩ := not_or.1 hend
        obtain ⟨item, dangling, hmore⟩ := exists_of_flagItems_succ hd hcolon hclose h
        have := ih hmore
        rw [List.length_append] at this
        omega

/-- There are flags unless a colon or a closing parenthesis stands in their place. -/
theorem ne_nil_of_flagItems {fuel : Nat} {c final : Cursor} {items : List FlagItem} {d : Char}
    (hd : c.char? = some d) (hcolon : d ≠ ':') (hclose : d ≠ ')')
    (h : flagItems (fuel + 1) [] none c = .ok (items, final)) : items ≠ [] := by
  obtain ⟨item, dangling, hmore⟩ := exists_of_flagItems_succ hd hcolon hclose h
  have := length_le_of_flagItems hmore
  rintro rfl
  cases this

theorem groupConstruct?_ne_none {d : Char} {rest : List Char} (hcolon : d ≠ ':') (hahead : d ≠ '=')
    (hnot : d ≠ '!') (hbehind : d = '<' → rest.head? ≠ some '=' ∧ rest.head? ≠ some '!') :
    groupConstruct? (d :: rest) ≠ none := by
  unfold groupConstruct?
  split
  · next heq => exact absurd (List.cons.inj heq).1 hcolon
  · next heq => exact absurd (List.cons.inj heq).1 hahead
  · next heq => exact absurd (List.cons.inj heq).1 hnot
  · next heq =>
    cases heq
    exact absurd rfl (hbehind rfl).1
  · next heq =>
    cases heq
    exact absurd rfl (hbehind rfl).2
  · exact Option.some_ne_none _
  · exact Option.some_ne_none _
  · exact Option.some_ne_none _

/-- What an opening parenthesis brings is a construct. -/
def Opening.IsConstruct : Opening → Prop
  | .group kind => kind.constructs ≠ []
  | .flags _ => True

/-- How much of the text introduces a name. -/
def nameLength (c : Cursor) : Nat :=
  if c.startsWith ['?', 'P', '<'] then 3 else if c.startsWith ['?', '<'] then 2 else 0

/-- **The three kinds of openings**: a name, flags, or nothing. -/
theorem opening_cases {names names' : GroupNames} {c behind : Cursor} {found : Opening}
    (h : opening names c = .ok (found, names', behind)) :
    lookAroundLength c.step = 0 ∧
      ((nameLength c.step ≠ 0 ∧ ∃ name, found = .group (.named name)) ∨
        (nameLength c.step = 0 ∧ c.step.char? = some '?' ∧ c.step.advance.atEnd = false ∧
          ∃ items final, flagItems (c.step.advance.rest.length + 1) [] none c.step.advance =
              .ok (items, final) ∧ behind = final.advance ∧
            (items ≠ [] ∧ found = .flags items ∨
              final.char? ≠ some ')' ∧ found = .group (.flags items))) ∨
        (nameLength c.step = 0 ∧ c.step.char? ≠ some '?' ∧ found = .group .capture ∧
          behind = c.step)) := by
  unfold opening at h
  change (if lookAroundLength c.step != 0 then _
    else if nameLength c.step != 0 then _ else _) = _ at h
  split at h
  · cases h
  next hlook =>
  refine ⟨by simpa using hlook, ?_⟩
  split at h
  · next hname =>
    obtain ⟨⟨name, span, final⟩, -, h⟩ := exists_of_bind_eq_ok h
    cases h
    exact Or.inl ⟨by simpa using hname, name, rfl⟩
  next hname =>
  have hname : nameLength c.step = 0 := by simpa using hname
  right
  split at h
  · -- Flags, which end with a parenthesis or, if they are for a group, with a colon.
    next hquestion =>
    left
    simp only at h
    split at h
    · cases h
    next hend =>
    obtain ⟨⟨items, final⟩, hitems, h⟩ := exists_of_bind_eq_ok h
    refine ⟨hname, hquestion, by simpa using hend, items, final, hitems, ?_⟩
    simp only at h
    split at h
    · split at h
      · cases h
      · next hne =>
        cases h
        exact ⟨rfl, Or.inl ⟨by simpa using hne, rfl⟩⟩
    · next hclose =>
      cases h
      exact ⟨rfl, Or.inr ⟨hclose, rfl⟩⟩
  · next hquestion =>
    cases h
    exact Or.inr ⟨hname, hquestion, rfl, rfl⟩

theorem groupConstruct?_of_lookAroundLength {c : Cursor} {d : Char} {rest : List Char}
    (hc : c.At ('?' :: d :: rest)) (hlook : lookAroundLength c = 0) (hcolon : d ≠ ':') :
    groupConstruct? (d :: rest) ≠ none := by
  unfold lookAroundLength at hlook
  simp only [hc.startsWith_eq] at hlook
  refine groupConstruct?_ne_none hcolon ?_ ?_ ?_
  · rintro rfl
    simp [List.isPrefixOf] at hlook
  · rintro rfl
    simp [List.isPrefixOf] at hlook
  · rintro rfl
    constructor
    · intro hhead
      obtain ⟨more, rfl⟩ := List.head?_eq_some_iff.1 hhead
      simp [List.isPrefixOf] at hlook
    · intro hhead
      obtain ⟨more, rfl⟩ := List.head?_eq_some_iff.1 hhead
      simp [List.isPrefixOf] at hlook

theorem nameLength_eq_zero {c : Cursor} {rest : List Char} (hc : c.At rest)
    (h : rest.head? = some '?' → rest.tail.head? = some ':') : nameLength c = 0 := by
  unfold nameLength
  rw [hc.startsWith_eq, hc.startsWith_eq, if_neg, if_neg]
  · intro hprefix
    obtain ⟨more, rfl⟩ := List.isPrefixOf_iff_prefix.1 hprefix
    cases h rfl
  · intro hprefix
    obtain ⟨more, rfl⟩ := List.isPrefixOf_iff_prefix.1 hprefix
    cases h rfl

theorem opening_at_colon {names names' : GroupNames} {c behind : Cursor} {rest : List Char}
    {found : Opening} (hc : c.At ('(' :: '?' :: ':' :: rest))
    (h : opening names c = .ok (found, names', behind)) :
    found = .group (.flags []) ∧ behind.At rest := by
  have hstep := hc.step
  have hadvance := hstep.advance
  have hname := nameLength_eq_zero hstep fun _ => rfl
  obtain ⟨-, ⟨hne, -⟩ | ⟨-, -, -, items, final, hitems, hbehind, hkind⟩ | ⟨-, hne, -⟩⟩ :=
    opening_cases h
  · exact absurd hname hne
  · -- Nothing stands between the question mark and the colon, so no flags are set.
    obtain ⟨rfl, rfl⟩ := flagItems_eq hadvance.char?_eq (Or.inl rfl) hitems
    obtain ⟨hne, -⟩ | ⟨-, hfound⟩ := hkind
    · exact absurd rfl hne
    · exact ⟨hfound, hbehind ▸ hadvance.advance⟩
  · exact absurd hstep.char?_eq hne

theorem opening_at_construct {names names' : GroupNames} {c behind : Cursor} {d : Char}
    {rest : List Char} {found : Opening} (hc : c.At ('(' :: '?' :: d :: rest)) (hd : d ≠ ':')
    (h : opening names c = .ok (found, names', behind)) :
    groupConstruct? (d :: rest) ≠ none ∧ found.IsConstruct := by
  have hstep := hc.step
  have hadvance := hstep.advance
  obtain ⟨hlook, h⟩ := opening_cases h
  refine ⟨groupConstruct?_of_lookAroundLength hstep hlook hd, ?_⟩
  obtain ⟨-, name, rfl⟩ | ⟨-, -, -, items, final, hitems, -, hkind⟩ | ⟨-, hne, -⟩ := h
  · exact List.cons_ne_nil _ _
  · obtain ⟨-, rfl⟩ | ⟨hfinal, rfl⟩ := hkind
    · trivial
    · have hitems : items ≠ [] := by
        by_cases hclose : d = ')'
        · obtain ⟨-, rfl⟩ := flagItems_eq hadvance.char?_eq (Or.inr hclose) hitems
          rw [hadvance.char?_eq, hclose] at hfinal
          exact absurd rfl hfinal
        · exact ne_nil_of_flagItems hadvance.char?_eq hd hclose hitems
      rw [Opening.IsConstruct, GroupKind.constructs, if_neg hitems]
      exact List.cons_ne_nil _ _
  · exact absurd hstep.char?_eq hne

/-- A question mark is followed by something. -/
theorem ne_nil_of_opening {names names' : GroupNames} {c behind : Cursor} {rest : List Char}
    {found : Opening} (hc : c.At ('(' :: '?' :: rest))
    (h : opening names c = .ok (found, names', behind)) : rest ≠ [] := by
  rintro rfl
  have hstep := hc.step
  obtain ⟨-, ⟨hne, -⟩ | ⟨-, -, hend, -⟩ | ⟨-, hne, -⟩⟩ := opening_cases h
  · simp [nameLength, hstep.startsWith_eq, List.isPrefixOf] at hne
  · rw [hstep.advance.atEnd_eq] at hend
    cases hend
  · exact absurd hstep.char?_eq hne

theorem opening_at_capture {names names' : GroupNames} {c behind : Cursor} {rest : List Char}
    {found : Opening} (hc : c.At ('(' :: rest)) (hrest : rest.head? ≠ some '?')
    (h : opening names c = .ok (found, names', behind)) :
    found = .group .capture ∧ behind.At rest := by
  have hstep := hc.step
  have hname := nameLength_eq_zero hstep fun hhead => absurd hhead hrest
  obtain ⟨-, ⟨hne, -⟩ | ⟨-, hhead, -⟩ | ⟨-, -, hfound, hbehind⟩⟩ := opening_cases h
  · exact absurd hname hne
  · rw [hstep.char?_eq] at hhead
    exact absurd hhead hrest
  · exact ⟨hfound, hbehind ▸ hstep⟩

/-- **An opening parenthesis** starts a group that captures or one that does not,
unless it starts a construct. -/
theorem opening_at {names names' : GroupNames} {c behind : Cursor} {rest : List Char}
    {found : Opening} (hc : c.At ('(' :: rest))
    (h : opening names c = .ok (found, names', behind)) :
    (parenthesisConstruct? rest = none ∧
        (found = .group .capture ∧ behind.At rest ∨
          found = .group (.flags []) ∧ ∃ more, rest = '?' :: ':' :: more ∧ behind.At more)) ∨
      parenthesisConstruct? rest ≠ none ∧ found.IsConstruct := by
  unfold parenthesisConstruct?
  by_cases hquestion : rest.head? = some '?'
  · obtain ⟨more, rfl⟩ := List.head?_eq_some_iff.1 hquestion
    rw [if_pos hquestion, List.tail_cons]
    obtain ⟨d, more, rfl⟩ := List.ne_nil_iff_exists_cons.1 (ne_nil_of_opening hc h)
    by_cases hcolon : d = ':'
    · subst hcolon
      obtain ⟨hfound, hbehind⟩ := opening_at_colon hc h
      exact Or.inl ⟨rfl, Or.inr ⟨hfound, more, rfl, hbehind⟩⟩
    · exact Or.inr (opening_at_construct hc hcolon h)
  · rw [if_neg hquestion]
    exact Or.inl ⟨rfl, Or.inl (opening_at_capture hc hquestion h)⟩

/-! ### Repetitions -/

/-- Characters that outside brackets are no constructs and start none. -/
def isDull (c : Char) : Bool := c != '\\' && c != '[' && c != '('

theorem firstConstruct?_of_isDull {bracketEnds : Bool} {c : Char} (hc : isDull c = true)
    (rest : List Char) :
    firstConstruct? bracketEnds false (c :: rest) = firstConstruct? bracketEnds false rest := by
  simp only [isDull, Bool.and_eq_true, bne_iff_ne] at hc
  rw [firstConstruct?, if_neg hc.1.1, if_neg hc.1.2, if_neg hc.2]

/-- The cursor is behind some such characters. -/
def Passes (cs : List Char) (behind : Cursor) : Prop :=
  ∃ pre rest, cs = pre ++ rest ∧ (∀ d ∈ pre, isDull d = true) ∧ behind.At rest

namespace Passes

variable {c behind final : Cursor} {cs : List Char}

theorem refl (hc : c.At cs) : Passes cs c := ⟨[], cs, rfl, nofun, hc⟩

theorem trans (h : Passes cs behind) (h' : ∀ rest, behind.At rest → Passes rest final) :
    Passes cs final := by
  obtain ⟨pre, rest, rfl, hpre, hrest⟩ := h
  obtain ⟨pre', rest', rfl, hpre', hfinal⟩ := h' rest hrest
  refine ⟨pre ++ pre', rest', (List.append_assoc _ _ _).symm, fun d hd => ?_, hfinal⟩
  exact (List.mem_append.1 hd).elim (hpre d) (hpre' d)

theorem of_step {d : Char} (hd : isDull d = true) (hc : c.At (d :: cs)) :
    Passes (d :: cs) c.step :=
  ⟨[d], cs, rfl, by simpa using hd, hc.step⟩

theorem of_advance {d : Char} (hd : isDull d = true) (hc : c.At (d :: cs)) :
    Passes (d :: cs) c.advance :=
  ⟨[d], cs, rfl, by simpa using hd, hc.advance⟩

theorem of_takeWhile {p : Char → Bool} (hp : ∀ d, p d = true → isDull d = true) (hc : c.At cs) :
    Passes cs (c.takeWhile p).2 :=
  ⟨_, _, List.takeWhile_append_dropWhile.symm, fun d hd => hp d (List.mem_takeWhile_imp hd),
    (hc.takeWhile p).2⟩

theorem of_char? {d : Char} (hc : c.At cs) (hd : c.char? = some d) (hdull : isDull d = true) :
    Passes cs c.step := by
  rw [hc.char?_eq] at hd
  obtain ⟨rest, rfl⟩ := List.head?_eq_some_iff.1 hd
  exact of_step hdull hc

/-- Nothing is found in what was passed. -/
theorem firstConstruct?_eq (bracketEnds : Bool) (h : Passes cs behind) :
    ∃ rest, behind.At rest ∧ rest.length ≤ cs.length ∧
      firstConstruct? bracketEnds false cs = firstConstruct? bracketEnds false rest := by
  obtain ⟨pre, rest, rfl, hpre, hrest⟩ := h
  refine ⟨rest, hrest, by simp, ?_⟩
  clear hrest
  induction pre with
  | nil => rfl
  | cons d pre ih =>
    obtain ⟨hd, hpre⟩ := List.forall_mem_cons.1 hpre
    rw [List.cons_append, firstConstruct?_of_isDull hd]
    exact ih hpre

end Passes

theorem isDull_of_isBlank {d : Char} (h : Text.isBlank d = true) : isDull d = true := by
  simp only [isDull, Bool.and_eq_true, bne_iff_ne]
  refine ⟨⟨?_, ?_⟩, ?_⟩ <;> rintro rfl <;> revert h <;> decide

theorem isDull_of_isDigit {d : Char} (h : d.isDigit = true) : isDull d = true := by
  simp only [isDull, Bool.and_eq_true, bne_iff_ne]
  refine ⟨⟨?_, ?_⟩, ?_⟩ <;> rintro rfl <;> revert h <;> decide

theorem decimal_snd (c : Cursor) :
    (decimal c).2 =
      ((((c.skip (c.rest.takeWhile Text.isBlank).length).takeWhile Char.isDigit).2).takeWhile
        Text.isBlank).2 := by
  unfold decimal
  simp only
  split_ifs <;> rfl

/-- A number is digits with blanks around them. -/
theorem passes_decimal {c : Cursor} {cs : List Char} (hc : c.At cs) : Passes cs (decimal c).2 := by
  have hblanks : Passes cs (c.skip (c.rest.takeWhile Text.isBlank).length) := by
    refine ⟨cs.takeWhile Text.isBlank, cs.drop (cs.takeWhile Text.isBlank).length, ?_,
      fun d hd => isDull_of_isBlank (List.mem_takeWhile_imp hd), ?_⟩
    · conv_lhs => rw [← List.take_append_drop (cs.takeWhile Text.isBlank).length cs]
      rw [← List.prefix_iff_eq_take.1 (List.takeWhile_prefix _)]
    · rw [hc.1]
      exact hc.skip _
  have hdigits := hblanks.trans fun rest hrest =>
    Passes.of_takeWhile (fun _ => isDull_of_isDigit) hrest
  rw [decimal_snd]
  exact hdigits.trans fun rest hrest => Passes.of_takeWhile (fun _ => isDull_of_isBlank) hrest

/-- What the bounds end with. -/
theorem counts_end {start : Nat} {bounds count : Repetition} {c final : Cursor}
    (h : (if (c.char? != some '\x7d') = true then
        (.error ⟨.repetitionCountUnclosed, c.since start⟩ : Except Fault PUnit) >>= fun _ =>
          .ok (bounds, c)
      else .ok (bounds, c)) = .ok (count, final)) : final = c ∧ c.char? = some '\x7d' := by
  split at h
  · cases h
  · next hclose =>
    cases h
    exact ⟨rfl, by simpa using hclose⟩

/-- **Bounds in braces** have no constructs. -/
theorem passes_counts {c final : Cursor} {count : Repetition} {rest : List Char}
    (hc : c.At ('\x7b' :: rest)) (h : counts c = .ok (count, final)) :
    Passes rest final.step := by
  suffices hclose : Passes rest final ∧ final.char? = some '\x7d' by
    exact hclose.1.trans fun more hmore => .of_char? hmore hclose.2 (by decide)
  unfold counts at h
  by_cases hend : c.step.atEnd = true
  · rw [if_pos hend] at h
    cases h
  rw [if_neg hend] at h
  have hleast : Passes rest (decimal c.step).2 := passes_decimal hc.step
  simp only at h
  generalize decimal c.step = least at h hleast
  by_cases hend : least.2.atEnd = true
  · rw [if_pos hend] at h
    cases h
  rw [if_neg hend] at h
  by_cases hcomma : least.2.char? = some ','
  · -- A comma is passed, and perhaps another number.
    rw [if_pos hcomma] at h
    have hbehind : Passes rest least.2.step :=
      hleast.trans fun more hmore => .of_char? hmore hcomma (by decide)
    by_cases hend : least.2.step.atEnd = true
    · rw [if_pos hend] at h
      cases h
    rw [if_neg hend] at h
    obtain ⟨min, -, h⟩ := exists_of_bind_eq_ok h
    split at h
    · obtain ⟨rfl, hclose⟩ := counts_end h
      exact ⟨hbehind, hclose⟩
    · obtain ⟨max, -, h⟩ := exists_of_bind_eq_ok h
      obtain ⟨rfl, hclose⟩ := counts_end h
      exact ⟨hbehind.trans fun more hmore => passes_decimal hmore, hclose⟩
  · rw [if_neg hcomma] at h
    obtain ⟨n, -, h⟩ := exists_of_bind_eq_ok h
    obtain ⟨rfl, hclose⟩ := counts_end h
    exact ⟨hleast, hclose⟩

end ColumnChecks.Pattern
