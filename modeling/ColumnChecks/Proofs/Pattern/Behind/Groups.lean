import ColumnChecks.Proofs.Pattern.Behind.Escapes
import ColumnChecks.Proofs.Pattern.Groups

/-!
# Openings of groups with more text behind

Flags end with a colon or a closing parenthesis, and a name ends with an angle; so an
opening parenthesis starts in the pattern what it starts with more text behind
(`ColumnChecks.Pattern.echoes_opening`). A name must be new, which is up to the names
before it and not to their places.
-/

namespace ColumnChecks.Pattern

variable {ι α : Type} {tail : ι → List Char} {n : Nat} {c : Cursor} {C : ι → Cursor}

/-- What is known of every result may be used, too. -/
theorem Echoes.with {ρ : α → (ι → α) → Prop} {x : Except Fault α} {X : ι → Except Fault α}
    {p : α → Prop} (h : Echoes ρ x X) (hp : ∀ a, x = .ok a → p a) :
    Echoes (fun a A => p a ∧ ρ a A) x X := by
  intro a ha
  obtain ⟨A, hX, hA⟩ := h a ha
  exact ⟨A, hX, hp a ha, hA⟩

/-! ### Flags -/

theorem earlierFlag?_eq_none_iff {item : FlagItem} {seen : List (FlagItem × Span)} :
    earlierFlag? item seen = none ↔ item ∉ seen.map (·.1) := by
  simp only [earlierFlag?, Option.map_eq_none_iff, List.find?_eq_none, decide_eq_true_eq,
    List.mem_map, not_exists, not_and]

/-- What a letter in a list of flags stands for. -/
def flagItem? (letter : Char) : Option FlagItem :=
  if letter = '-' then some .negation else (flagOfLetter? letter).map .flag

/-- One more item, which must not be there already. -/
theorem flagItems_cons {fuel : Nat} {seen : List (FlagItem × Span)} {dangling : Option Span}
    {letter : Char} (hc : c.char? = some letter) (hend : ¬(letter = ':' ∨ letter = ')')) :
    flagItems (fuel + 1) seen dangling c =
      match flagItem? letter with
      | none => .error ⟨.flagUnrecognized, c.charSpan⟩
      | some item =>
        match earlierFlag? item seen with
        | some earlier =>
          .error ⟨if item = .negation then .flagRepeatedNegation earlier
            else .flagDuplicate earlier, c.charSpan⟩
        | none => flagItems fuel (seen ++ [(item, c.charSpan)])
            (if item = .negation then some c.charSpan else none) c.advance := by
  rw [flagItems.eq_def]
  simp only [hc, if_neg hend, flagItem?]
  by_cases hsign : letter = '-'
  · simp only [if_pos hsign]
    rfl
  · simp only [if_neg hsign]
    cases flagOfLetter? letter <;> rfl

/-- A list of flags ends before the character that ends it. -/
theorem char?_of_flagItems {fuel : Nat} {seen : List (FlagItem × Span)} {dangling : Option Span}
    {items : List FlagItem} {final : Cursor}
    (h : flagItems fuel seen dangling c = .ok (items, final)) : final.char? ≠ none := by
  induction fuel generalizing seen dangling c with
  | zero => cases h
  | succ fuel ih =>
    cases hc : c.char? with
    | none =>
      rw [flagItems.eq_def] at h
      simp only [hc] at h
      cases h
    | some letter =>
      by_cases hend : letter = ':' ∨ letter = ')'
      · rw [(flagItems_eq hc hend h).2, hc]
        exact Option.some_ne_none _
      · rw [flagItems_cons hc hend] at h
        split at h
        · cases h
        split at h
        · cases h
        exact ih h

theorem echoes_flagItems {fuel : Nat} {fuels : ι → Nat} {seen : List (FlagItem × Span)}
    {seens : ι → List (FlagItem × Span)} {dangling : Option Span} {danglings : ι → Option Span}
    (hfuels : ∀ i, fuel ≤ fuels i) (hseen : ∀ i, (seens i).map (·.1) = seen.map (·.1))
    (hdangling : ∀ i, (danglings i).isSome = dangling.isSome) (h : Cursor.Along tail n c C) :
    Echoes (ReadAlong id tail n) (flagItems fuel seen dangling c) fun i =>
      flagItems (fuels i) (seens i) (danglings i) (C i) := by
  induction fuel generalizing fuels seen seens dangling danglings n c C with
  | zero => exact .error _ _
  | succ fuel ih =>
    obtain ⟨fuels', hfuels'⟩ := exists_less_fuel fun i =>
      Nat.lt_of_lt_of_le (Nat.succ_pos _) (hfuels i)
    cases hc : c.char? with
    | none =>
      rw [flagItems.eq_def]
      simp only [hc]
      exact .error _ _
    | some letter =>
      by_cases hend : letter = ':' ∨ letter = ')'
      · -- The end, where no minus may be left without a flag.
        simp only [hfuels', flagItems, hc, h.char?_eq hc, if_pos hend]
        cases dangling with
        | some span => exact .error _ _
        | none =>
          have hnone : ∀ i, danglings i = none := fun i =>
            Option.not_isSome_iff_eq_none.1 (by rw [hdangling i]; exact Bool.false_ne_true)
          simp only [hnone, hseen]
          exact .ok ⟨fun _ => rfl, h⟩
      · simp only [hfuels', flagItems_cons hc hend, flagItems_cons (h.char?_eq hc _) hend]
        cases flagItem? letter with
        | none => exact .error _ _
        | some item =>
          simp only
          cases hearlier : earlierFlag? item seen with
          | some span => exact .error _ _
          | none =>
            have hnone : ∀ i, earlierFlag? item (seens i) = none := fun i => by
              rw [earlierFlag?_eq_none_iff, hseen, ← earlierFlag?_eq_none_iff]
              exact hearlier
            simp only [hnone]
            obtain ⟨m, rfl⟩ := h.exists_succ hc
            refine (ih (fun i => ?_) (fun i => ?_) (fun i => ?_) (h.advance hc)).mono
              fun _ _ h => h.mono (Nat.le_succ m)
            · exact Nat.le_of_succ_le_succ ((hfuels i).trans_eq (hfuels' i))
            · rw [List.map_append, List.map_append, hseen]
              rfl
            · split_ifs <;> rfl

/-! ### Names -/

theorem char?_of_nameChars {first : Bool} {fuel : Nat} {name : List Char} {final : Cursor}
    (h : nameChars first fuel c = .ok (name, final)) : final.char? ≠ none := by
  induction fuel generalizing first c name with
  | zero => cases h
  | succ fuel ih =>
    unfold nameChars at h
    split at h
    · cases h
    · next heq =>
      cases h
      rw [heq]
      exact Option.some_ne_none _
    · split at h
      · obtain ⟨⟨rest, final'⟩, hrest, h⟩ := exists_of_bind_eq_ok h
        cases h
        exact ih hrest
      · cases h

theorem echoes_nameChars (first : Bool) {fuel : Nat} {fuels : ι → Nat}
    (hfuels : ∀ i, fuel ≤ fuels i) (h : Cursor.Along tail n c C) :
    Echoes (ReadAlong id tail n) (nameChars first fuel c) fun i =>
      nameChars first (fuels i) (C i) := by
  induction fuel generalizing first fuels n c C with
  | zero => exact .error _ _
  | succ fuel ih =>
    obtain ⟨fuels', hfuels'⟩ := exists_less_fuel fun i =>
      Nat.lt_of_lt_of_le (Nat.succ_pos _) (hfuels i)
    simp only [hfuels', nameChars]
    cases hc : c.char? with
    | none => exact .error _ _
    | some char =>
      simp only [h.char?_eq hc]
      by_cases hend : char = '>'
      · subst hend
        exact .ok ⟨fun _ => rfl, h⟩
      · simp only
        refine .ite (fun _ => Iff.rfl) (fun _ => ?_) fun _ => .error _ _
        obtain ⟨m, rfl⟩ := h.exists_succ hc
        refine (ih false (fun i => ?_) (h.advance hc)).bind ?_
        · exact Nat.le_of_succ_le_succ ((hfuels i).trans_eq (hfuels' i))
        · rintro ⟨rest, final⟩ A ⟨hrest, hfinal⟩
          refine .ok ⟨fun i => ?_, hfinal.mono (Nat.le_succ m)⟩
          simp only [id_eq] at hrest ⊢
          rw [hrest]

/-- Names that are the same up to their stretches. -/
def SameNames (names names' : GroupNames) : Prop := names'.map (·.1) = names.map (·.1)

theorem find?_name_eq_none_iff {names : GroupNames} {name : List Char} :
    (names.find? fun entry => entry.1 = name) = none ↔ name ∉ names.map (·.1) := by
  simp only [List.find?_eq_none, decide_eq_true_eq, List.mem_map, not_exists, not_and]

theorem Cursor.Along.length_rest_le (h : Cursor.Along tail n c C) (hc : c.rest ≠ []) (i : ι) :
    c.rest.length ≤ (C i).rest.length := by
  rw [h.rest_eq hc, List.length_append]
  exact Nat.le_add_right _ _

theorem echoes_groupName {names : GroupNames} {namess : ι → GroupNames}
    (hnames : ∀ i, SameNames names (namess i)) (h : Cursor.Along tail n c C) :
    Echoes (fun a A => (∀ i, (A i).1 = a.1) ∧ Cursor.Along tail n a.2.2 fun i => (A i).2.2)
      (groupName names c) fun i => groupName (namess i) (C i) := by
  by_cases hc : c.rest = []
  · have hchar : c.char? = none := List.head?_eq_none_iff.2 hc
    have herror : groupName names c = .error ⟨.groupNameUnexpectedEnd, c.here⟩ := by
      simp only [groupName, nameChars, hchar]
      rfl
    rw [herror]
    exact .error _ _
  unfold groupName
  refine ((echoes_nameChars true (fun i => ?_) h).with fun _ h => char?_of_nameChars h).bind ?_
  · exact Nat.succ_le_succ (h.length_rest_le hc i)
  rintro ⟨name, final⟩ A ⟨hend, hname, hfinal⟩
  obtain ⟨d, hd⟩ := Option.ne_none_iff_exists'.1 hend
  simp only [id_eq] at hname
  simp only [hname]
  refine .ite (fun _ => Iff.rfl) (fun _ => .error _ _) fun _ => ?_
  cases hfind : names.find? fun entry => entry.1 = name with
  | some entry => exact .error _ _
  | none =>
    have hnone : ∀ i, ((namess i).find? fun entry => entry.1 = name) = none := fun i => by
      rw [find?_name_eq_none_iff, hnames i, ← find?_name_eq_none_iff]
      exact hfind
    simp only [hnone]
    obtain ⟨m, rfl⟩ := hfinal.exists_succ hd
    exact .ok ⟨fun _ => rfl, (hfinal.advance hd).mono (Nat.le_succ m)⟩

/-! ### Openings -/

/-- **What an opening parenthesis brings goes along.** -/
def OpeningAlong (tail : ι → List Char) (n : Nat) (a : Opening × GroupNames × Cursor)
    (A : ι → Opening × GroupNames × Cursor) : Prop :=
  (∀ i, (A i).1 = a.1 ∧ SameNames a.2.1 (A i).2.1) ∧
    Cursor.Along tail n a.2.2 fun i => (A i).2.2

theorem nameLength_le (c : Cursor) : nameLength c ≤ c.rest.length := by
  unfold nameLength
  split_ifs with hlong hshort
  · exact Cursor.length_le_of_startsWith hlong
  · exact Cursor.length_le_of_startsWith hshort
  · exact Nat.zero_le _

variable (htail : ∀ i, ClosingText (tail i))

include htail

/-! What tells the openings apart has no closing parenthesis in it. -/

theorem lookAroundLength_along (h : Cursor.Along tail n c C) (i : ι) :
    lookAroundLength (C i) = lookAroundLength c := by
  simp only [lookAroundLength, h.startsWith_eq htail (show ')' ∉ ['?', '='] by decide),
    h.startsWith_eq htail (show ')' ∉ ['?', '!'] by decide),
    h.startsWith_eq htail (show ')' ∉ ['?', '<', '='] by decide),
    h.startsWith_eq htail (show ')' ∉ ['?', '<', '!'] by decide)]

theorem nameLength_along (h : Cursor.Along tail n c C) (i : ι) :
    nameLength (C i) = nameLength c := by
  simp only [nameLength, h.startsWith_eq htail (show ')' ∉ ['?', 'P', '<'] by decide),
    h.startsWith_eq htail (show ')' ∉ ['?', '<'] by decide)]

/-- **What is opened** is not changed by what stands behind it. -/
theorem echoes_opening {names : GroupNames} {namess : ι → GroupNames}
    (hnames : ∀ i, SameNames names (namess i)) (h : Cursor.Along tail (n + 1) c C) {ch : Char}
    (hc : c.char? = some ch) :
    Echoes (OpeningAlong tail n) (opening names c) fun i => opening (namess i) (C i) := by
  have hstep := h.step htail hc
  have hname := nameLength_along htail hstep
  unfold opening
  simp only [lookAroundLength_along htail hstep]
  refine .ite (fun _ => Iff.rfl) (fun _ => .error _ _) fun _ => ?_
  change Echoes _ (if nameLength c.step != 0 then _ else _) fun i =>
    if nameLength (C i).step != 0 then _ else _
  refine .ite (fun i => by rw [hname]) (fun _ => ?_) fun _ => ?_
  · have hinside := (hstep.mono (Nat.le_add_right n _)).skip (nameLength_le c.step)
    have hC : ∀ i, (C i).step.skip (nameLength (C i).step) =
        (C i).step.skip (nameLength c.step) := fun i => by rw [hname]
    change Echoes _ (groupName names (c.step.skip (nameLength c.step)) >>= _) fun i =>
      groupName (namess i) ((C i).step.skip (nameLength (C i).step)) >>= _
    simp only [hC]
    refine (echoes_groupName hnames hinside).bind ?_
    rintro ⟨name, span, behind⟩ A ⟨hA, hbehind⟩
    refine .ok ⟨fun i => ⟨congrArg (Opening.group ∘ GroupKind.named) (hA i), ?_⟩, hbehind⟩
    rw [SameNames, List.map_append, List.map_append, hnames, List.map_singleton, hA]
    rfl
  refine .ite (hstep.char?_iff htail (by decide)) (fun hquestion => ?_) fun _ => ?_
  · obtain ⟨m, rfl⟩ := hstep.exists_succ hquestion
    have hinside := hstep.advance hquestion
    by_cases hend : c.step.advance.atEnd = true
    · simp only [hend, if_true]
      exact .error _ _
    have hne : c.step.advance.rest ≠ [] := fun hnil => hend (Cursor.atEnd_iff.2 hnil)
    simp only [hend, hinside.atEnd_eq hend, Bool.false_eq_true, if_false]
    refine ((echoes_flagItems (fun i => Nat.succ_le_succ (hinside.length_rest_le hne i))
      (fun _ => rfl) (fun _ => rfl) hinside).with fun _ h => char?_of_flagItems h).bind ?_
    rintro ⟨items, final⟩ A ⟨hfinal, hitems, hbehind⟩
    obtain ⟨d, hd⟩ := Option.ne_none_iff_exists'.1 hfinal
    simp only [id_eq] at hitems
    simp only at hd hbehind
    have hadvance := ((hbehind.mono (Nat.le_succ m)).advance hd).mono (Nat.le_succ m)
    refine .ite (fun i => ?_) (fun _ => ?_) fun _ => ?_
    · rw [hbehind.char?_eq hd, hd]
    · refine .ite (fun i => by rw [hitems]) (fun _ => .error _ _) fun _ => ?_
      exact .ok ⟨fun i => ⟨congrArg Opening.flags (hitems i), hnames i⟩, hadvance⟩
    · exact .ok ⟨fun i => ⟨congrArg (Opening.group ∘ GroupKind.flags) (hitems i), hnames i⟩,
        hadvance⟩
  · exact .ok ⟨fun i => ⟨rfl, hnames i⟩, hstep⟩

end ColumnChecks.Pattern
