import Mathlib.Data.List.TakeWhile
import ColumnChecks.Proofs.Pattern.Behind.Escapes
import ColumnChecks.Proofs.Pattern.Brackets

/-!
# Bracket expressions with more text behind

A bracket expression that is closed in the pattern is the same one with more text behind
it (`ColumnChecks.Pattern.echoes_bracket`).
-/

namespace ColumnChecks.Pattern

variable {ι : Type} {tail : ι → List Char} {n : Nat} {c : Cursor} {C : ι → Cursor}

/-! ### Open brackets -/

/-- What a bracket expression is waiting for, without stretches. -/
def ClassFrame.bare : ClassFrame → ClassFrame
  | .opened before _ _ negated => .opened (before.map ClassSet.bare) 0 noSpan negated
  | .operation op left => .operation op left.bare

/-- Completing an operation is the same up to stretches. -/
theorem closeOperation_bare {right right' : ClassSet} {frames frames' : List ClassFrame}
    (hright : right'.bare = right.bare)
    (hframes : frames'.map ClassFrame.bare = frames.map ClassFrame.bare) :
    (closeOperation right' frames').1.bare = (closeOperation right frames).1.bare ∧
      (closeOperation right' frames').2.map ClassFrame.bare =
        (closeOperation right frames).2.map ClassFrame.bare := by
  match frames, frames' with
  | [], [] => exact ⟨hright, rfl⟩
  | .opened _ _ _ _ :: frames, .opened _ _ _ _ :: frames' => exact ⟨hright, hframes⟩
  | .operation op left :: frames, .operation op' left' :: frames' =>
    rw [List.map_cons, List.map_cons, List.cons.injEq] at hframes
    obtain ⟨hop, hleft⟩ := ClassFrame.operation.inj hframes.1
    refine ⟨?_, hframes.2⟩
    rw [closeOperation, closeOperation, ClassSet.bare, ClassSet.bare, hright, hop, hleft]
  | .opened _ _ _ _ :: _, .operation _ _ :: _ => cases hframes
  | .operation _ _ :: _, .opened _ _ _ _ :: _ => cases hframes

/-! ### Openings -/

/-- Without a hyphen nothing is read. -/
theorem leadingHyphens_of_ne {start fuel : Nat} {items : List ClassSet}
    (hc : c.char? ≠ some '-') : leadingHyphens start fuel items c = .ok (items, c) := by
  cases fuel with
  | zero => rfl
  | succ fuel => rw [leadingHyphens, if_neg hc]

/-- **What an opening bracket brings goes along.** -/
def OpenedAlong (tail : ι → List Char) (n : Nat) (a : Bool × List ClassSet × Nat × Cursor)
    (A : ι → Bool × List ClassSet × Nat × Cursor) : Prop :=
  (∀ i, (A i).1 = a.1 ∧ (A i).2.1.map ClassSet.bare = a.2.1.map ClassSet.bare) ∧
    Cursor.Along tail n a.2.2.2 fun i => (A i).2.2.2

variable (htail : ∀ i, ClosingText (tail i))

include htail

theorem echoes_leadingHyphens (start : Nat) (starts : ι → Nat) {fuel : Nat} {fuels : ι → Nat}
    {items : List ClassSet} {itemss : ι → List ClassSet} (h : Cursor.Along tail n c C)
    (hfuel : c.rest.length ≤ fuel) (hfuels : ∀ i, (C i).rest.length ≤ fuels i)
    (hitems : ∀ i, (itemss i).map ClassSet.bare = items.map ClassSet.bare) :
    Echoes (ReadAlong (List.map ClassSet.bare) tail n) (leadingHyphens start fuel items c)
      fun i => leadingHyphens (starts i) (fuels i) (itemss i) (C i) := by
  induction fuel generalizing n c C items itemss fuels with
  | zero =>
    have hc : c.char? ≠ some '-' := fun hc =>
      absurd (Cursor.length_pos_of_char? hc) (Nat.not_lt.2 hfuel)
    simp only [leadingHyphens_of_ne fun hi => hc ((h.char?_iff htail (by decide) _).1 hi)]
    exact .ok ⟨hitems, h⟩
  | succ fuel ih =>
    by_cases hc : c.char? = some '-'
    · obtain ⟨m, rfl⟩ := h.exists_succ hc
      obtain ⟨fuels', hfuels'⟩ := exists_less_fuel fun i =>
        Nat.lt_of_lt_of_le (Cursor.length_pos_of_char? (h.char?_eq hc i)) (hfuels i)
      have hlength := Cursor.length_step_lt hc
      have hlengths : ∀ i, (C i).step.rest.length ≤ fuels' i := fun i => by
        have hstep := Cursor.length_step_lt (h.char?_eq hc i)
        have hall := hfuels i
        rw [hfuels'] at hall
        omega
      have hstep := h.step htail hc
      simp only [hfuels', leadingHyphens, hc, h.char?_eq hc, if_true]
      by_cases hend : c.step.atEnd = true
      · rw [if_pos hend]
        exact .error _ _
      · simp only [hend, hstep.atEnd_eq hend]
        refine (ih hstep (by omega) hlengths fun i => ?_).mono fun _ _ h => h.mono (Nat.le_succ m)
        rw [List.map_cons, List.map_cons, hitems]
        rfl
    · simp only [leadingHyphens_of_ne hc,
        leadingHyphens_of_ne fun hi => hc ((h.char?_iff htail (by decide) _).1 hi)]
      exact .ok ⟨hitems, h⟩

theorem echoes_leadingItems (negated : Bool) (bracket start : Nat) (brackets starts : ι → Nat)
    {found : List ClassSet} {founds : ι → List ClassSet} (h : Cursor.Along tail n c C)
    (hfound : ∀ i, (founds i).map ClassSet.bare = found.map ClassSet.bare) :
    Echoes (OpenedAlong tail n) (leadingItems negated bracket start found c) fun i =>
      leadingItems negated (brackets i) (starts i) (founds i) (C i) := by
  have hempty : ∀ i, (founds i).isEmpty = found.isEmpty := fun i => by
    have hlength := congrArg List.isEmpty (hfound i)
    rwa [List.isEmpty_map, List.isEmpty_map] at hlength
  simp only [leadingItems, hempty, h.char?_beq htail (show ']' ≠ ')' by decide)]
  refine .ite (fun _ => Iff.rfl) (fun hclose => ?_) fun _ => .ok ⟨fun i => ⟨rfl, hfound i⟩, h⟩
  rw [Bool.and_eq_true, beq_iff_eq] at hclose
  obtain ⟨m, rfl⟩ := h.exists_succ hclose.2
  have hstep := h.step htail hclose.2
  by_cases hend : c.step.atEnd = true
  · rw [if_pos hend]
    exact .error _ _
  · simp only [hend, hstep.atEnd_eq hend]
    exact .ok ⟨fun i => ⟨rfl, rfl⟩, hstep.mono (Nat.le_succ m)⟩

theorem echoes_openBracket (h : Cursor.Along tail (n + 1) c C) {ch : Char}
    (hc : c.char? = some ch) :
    Echoes (OpenedAlong tail n) (openBracket c) fun i => openBracket (C i) := by
  have hstep := h.step htail hc
  simp only [openBracket_eq, hstep.char?_beq htail (show '^' ≠ ')' by decide)]
  by_cases hend : c.step.atEnd = true
  · rw [if_pos hend]
    exact .error _ _
  have hinside := hstep.stepIf htail (p := (c.step.char? == some '^') = true)
    fun h => beq_iff_eq.1 h
  simp only [hend, hstep.atEnd_eq hend]
  generalize (if (c.step.char? == some '^') = true then c.step.step else c.step) = inside
    at hinside ⊢
  obtain ⟨insides, hinsides⟩ : ∃ insides : ι → Cursor, ∀ i,
      (if (c.step.char? == some '^') = true then (C i).step.step else (C i).step) = insides i :=
    ⟨_, fun _ => rfl⟩
  simp only [hinsides] at hinside ⊢
  by_cases hend' : inside.atEnd = true
  · simp only [hend', if_true]
    exact .error _ _
  simp only [hend', hinside.atEnd_eq hend']
  refine (echoes_leadingHyphens htail _ _ hinside (Nat.le_refl _) (fun _ => Nat.le_refl _)
    fun _ => rfl).bind ?_
  rintro ⟨found, between⟩ A ⟨hfound, hbetween⟩
  exact echoes_leadingItems htail _ _ _ _ _ hbetween hfound

/-! ### Named classes -/

omit htail in
theorem drop_length_takeWhile (p : Char → Bool) (cs : List Char) :
    cs.drop (cs.takeWhile p).length = cs.dropWhile p := by
  induction cs with
  | nil => rfl
  | cons d cs ih =>
    rw [List.takeWhile_cons, List.dropWhile_cons]
    split_ifs
    · rw [List.length_cons, List.drop_succ_cons, ih]
    · rfl

theorem asciiName?_along (h : Cursor.Along tail n c C) :
    FindsAlong (ReadAlong id tail n) (asciiName? c) fun i => asciiName? (C i) := by
  have hrest : ∀ d : Cursor, (d.skip (d.rest.takeWhile (· != ':')).length).rest =
      d.rest.dropWhile (· != ':') := fun d => drop_length_takeWhile _ _
  have hnone : ∀ d : Cursor, d.rest.dropWhile (· != ':') = [] → asciiName? d = none := by
    intro d hd
    rw [asciiName?, if_neg]
    rw [Cursor.startsWith, hrest, hd]
    decide
  by_cases hname : c.rest.dropWhile (· != ':') = []
  · -- Without a colon in the pattern there is none behind it either.
    rw [hnone c hname]
    have hC : ∀ i, (C i).rest.dropWhile (· != ':') = [] := by
      intro i
      obtain ⟨more, -, -, hcolon⟩ := htail i
      have hall : (tail i).dropWhile (· != ':') = [] :=
        List.dropWhile_eq_nil_iff.2 fun d hd => bne_iff_ne.2 fun heq => hcolon (heq ▸ hd)
      rcases h.rest with hrest | ⟨-, hnil⟩
      · rw [hrest, List.dropWhile_append, hname, List.isEmpty_nil, if_pos rfl, hall]
      · rw [hnil]
        rfl
    simp only [hnone _ (hC _)]
    exact .none
  · have hne : c.rest ≠ [] := fun hc => hname (by rw [hc]; rfl)
    have htaken : ∀ i, (C i).rest.takeWhile (· != ':') = c.rest.takeWhile (· != ':') := by
      intro i
      have hlength : (c.rest.takeWhile (· != ':')).length ≠ c.rest.length := fun hall => by
        rw [← drop_length_takeWhile, hall, List.drop_length] at hname
        exact hname rfl
      rw [h.rest_eq hne, List.takeWhile_append, if_neg hlength]
    have hfinal := (h.mono (Nat.le_add_right n _)).skip
      (List.takeWhile_prefix (· != ':') (l := c.rest)).length_le
    simp only [asciiName?, htaken, hfinal.startsWith_eq htail (show ')' ∉ [':', ']'] by decide)]
    split_ifs with hend
    · have hbehind := (hfinal.mono (Nat.le_add_right n 2)).skip
        (Cursor.length_le_of_startsWith hend)
      cases asciiClassOfName? (String.ofList (c.rest.takeWhile (· != ':'))) with
      | none => exact .none
      | some kind => exact .some ⟨fun _ => rfl, hbehind⟩
    · exact .none

omit htail in
theorem asciiClass?_eq_map (c : Cursor) :
    asciiClass? c =
      if c.startsWith ['[', ':'] then
        (asciiName? (if (c.skip 2).char? == some '^' then (c.skip 2).advance else c.skip 2)).map
          fun found => (.ascii (found.2.since c.offset) found.1 ((c.skip 2).char? == some '^'),
            found.2)
      else none := by
  unfold asciiClass? asciiName?
  simp only
  split_ifs
  all_goals simp [Option.map_map, Function.comp_def]

theorem asciiClass?_along (h : Cursor.Along tail n c C) :
    FindsAlong (ReadAlong ClassSet.bare tail n) (asciiClass? c) fun i => asciiClass? (C i) := by
  have hstarts := h.startsWith_eq htail (show ')' ∉ ['[', ':'] by decide)
  simp only [asciiClass?_eq_map, hstarts]
  by_cases hopen : c.startsWith ['[', ':'] = true
  · have hinside := (h.mono (Nat.le_add_right n 2)).skip (Cursor.length_le_of_startsWith hopen)
    simp only [hopen, if_true, hinside.char?_beq htail (show '^' ≠ ')' by decide)]
    have hname := asciiName?_along htail (hinside.advanceIf
      (p := ((c.skip 2).char? == some '^') = true) fun h => beq_iff_eq.1 h)
    refine hname.map fun a A h => ⟨fun i => ?_, h.2⟩
    have hkind := h.1 i
    simp only [id_eq] at hkind
    simp only [ClassSet.bare, hkind]
  · simp only [hopen]
    exact .none

/-! ### Items -/

theorem echoes_classPrimitive (h : Cursor.Along tail (n + 1) c C) {ch : Char}
    (hc : c.char? = some ch) :
    Echoes (ReadAlong Escape.bare tail n) (classPrimitive c ch) fun i =>
      classPrimitive (C i) ch := by
  unfold classPrimitive
  refine .ite (fun _ => Iff.rfl) (fun hback => ?_) fun _ => .ok ⟨fun _ => rfl, h.advance hc⟩
  exact echoes_escape htail h (hback ▸ hc)

omit htail in
theorem echoes_toItem {e : Escape} {E : ι → Escape} (h : ∀ i, (E i).bare = e.bare) :
    Echoes (fun a A => ∀ i, ClassSet.bare (A i) = a.bare) e.toItem fun i => (E i).toItem := by
  choose spans hE using fun i => Escape.exists_moved (h i)
  simp only [hE]
  cases e with
  | assertion => exact .error _ _
  | literal | property | letter => exact .ok fun _ => rfl

omit htail in
theorem echoes_toBound {e : Escape} {E : ι → Escape} (h : ∀ i, (E i).bare = e.bare) :
    Echoes (fun a A => ∀ i, (A i).2 = a.2) e.toBound fun i => (E i).toBound := by
  choose spans hE using fun i => Escape.exists_moved (h i)
  simp only [hE]
  cases e with
  | assertion | property | letter => exact .error _ _
  | literal => exact .ok fun _ => rfl

theorem echoes_classItem (frames : List ClassFrame) (framess : ι → List ClassFrame)
    (h : Cursor.Along tail (n + 1) c C) {ch : Char} (hc : c.char? = some ch) :
    Echoes (ReadAlong ClassSet.bare tail n) (classItem frames c ch) fun i =>
      classItem (framess i) (C i) ch := by
  unfold classItem
  refine (echoes_classPrimitive htail h hc).bind ?_
  rintro ⟨low, behind⟩ A ⟨hlow, hbehind⟩
  have hnext := hbehind.skipBlanks htail
  simp only at hlow hnext ⊢
  generalize behind.skipBlanks = c at hnext ⊢
  obtain ⟨C', hC'⟩ : ∃ C' : ι → Cursor, ∀ i, (A i).2.skipBlanks = C' i := ⟨_, fun _ => rfl⟩
  simp only [hC'] at hnext ⊢
  by_cases hend : c.atEnd = true
  · simp only [hend, if_true]
    exact .error _ _
  have hne : c.rest ≠ [] := fun hnil => hend (Cursor.atEnd_iff.2 hnil)
  have hbracket : ∀ i, (C' i).nextPastBlanks? = some ']' ↔ c.nextPastBlanks? = some ']' :=
    hnext.nextPastBlanks?_iff htail hne (by decide) (by decide) (by decide)
  have hhyphen : ∀ i, (C' i).nextPastBlanks? = some '-' ↔ c.nextPastBlanks? = some '-' :=
    hnext.nextPastBlanks?_iff htail hne (by decide) (by decide) (by decide)
  have hsign : ∀ i, (C' i).char? = some '-' ↔ c.char? = some '-' :=
    hnext.char?_iff htail (by decide)
  simp only [hend, hnext.atEnd_eq hend, Bool.false_eq_true, if_false]
  refine .ite (fun i => ?_) (fun _ => ?_) fun hrange => ?_
  · simp only [Bool.or_eq_true, bne_iff_ne, beq_iff_eq, ne_eq, hbracket, hhyphen, hsign]
  · exact (echoes_toItem hlow).bind fun a A hA => .ok ⟨hA, hnext⟩
  -- A range, whose second end is read like the first.
  have hc' : c.char? = some '-' := by
    simp only [Bool.or_eq_true, bne_iff_ne, beq_iff_eq, ne_eq, not_or, not_not] at hrange
    exact hrange.1.1
  obtain ⟨m, rfl⟩ := hnext.exists_succ hc'
  have hstep := hnext.step htail hc'
  cases hd : c.step.char? with
  | none => exact .error _ _
  | some d =>
    simp only [hstep.char?_eq hd]
    obtain ⟨k, rfl⟩ := hstep.exists_succ hd
    refine (echoes_classPrimitive htail hstep hd).bind ?_
    rintro ⟨high, final⟩ B ⟨hhigh, hfinal⟩
    refine (echoes_toBound hlow).bind fun low' L hL => ?_
    refine (echoes_toBound hhigh).bind fun high' H hH => ?_
    refine .ite (fun i => ?_) (fun _ => .ok ⟨fun i => ?_, hfinal.mono (by omega)⟩)
      fun _ => .error _ _
    · rw [hL, hH]
    · rw [ClassSet.bare, ClassSet.bare, hL, hH]

/-! ### Whole expressions -/

theorem setOperation?_along (h : Cursor.Along tail n c C) (hc : c.rest ≠ []) (ch : Char) (i : ι) :
    setOperation? (C i) ch = setOperation? c ch := by
  by_cases hch : ch = ')'
  · -- A parenthesis is no sign of an operation.
    subst hch
    have hnone : ∀ d : Cursor, setOperation? d ')' = none := fun d => by simp [setOperation?]
    rw [hnone, hnone]
  · simp only [setOperation?, h.next?_iff htail hc hch]

omit htail in
theorem two_le_length_of_setOperation? {ch : Char} {op : SetOperation}
    (h : setOperation? c ch = some op) : 2 ≤ c.rest.length := by
  unfold setOperation? at h
  split at h
  · next hnext =>
    obtain ⟨more, hmore⟩ := List.head?_eq_some_iff.1 hnext
    have hlength := congrArg List.length hmore
    rw [List.length_drop, List.length_cons] at hlength
    omega
  · cases h

omit htail in
theorem ClassSet.ofItems_along (start : Nat) (starts : ι → Nat) {items : List ClassSet}
    {itemss : ι → List ClassSet}
    (hitems : ∀ i, (itemss i).map ClassSet.bare = items.map ClassSet.bare) (i : ι) :
    (ofItems (starts i) (itemss i)).bare = (ofItems start items).bare := by
  rw [bare_ofItems, bare_ofItems, hitems]

omit htail in
/-- An open bracket is one in the stack with other stretches, too. -/
theorem exists_opened_of_bare {frames frames' : List ClassFrame} {before : List ClassSet}
    {start : Nat} {span : Span} {negated : Bool}
    (h : frames'.map ClassFrame.bare =
      (.opened before start span negated :: frames).map ClassFrame.bare) :
    ∃ before' start' span' more, frames' = .opened before' start' span' negated :: more ∧
      before'.map ClassSet.bare = before.map ClassSet.bare ∧
      more.map ClassFrame.bare = frames.map ClassFrame.bare := by
  match frames' with
  | [] => cases h
  | .operation _ _ :: _ => cases h
  | .opened before' start' span' negated' :: more =>
    rw [List.map_cons, List.map_cons, List.cons.injEq] at h
    obtain ⟨hbefore, -, -, rfl⟩ := ClassFrame.opened.inj h.1
    exact ⟨before', start', span', more, rfl, hbefore, h.2⟩

/-- **The loop goes along** with a given fuel: from brackets, items and a cursor that are
the same up to stretches and the text behind, so is what is read. -/
def LoopAlong (tail : ι → List Char) (fuel : Nat) : Prop :=
  ∀ ⦃n : Nat⦄ ⦃c : Cursor⦄ ⦃C : ι → Cursor⦄ ⦃fuels : ι → Nat⦄
    ⦃frames : List ClassFrame⦄ ⦃framess : ι → List ClassFrame⦄
    ⦃items : List ClassSet⦄ ⦃itemss : ι → List ClassSet⦄ (start : Nat) (starts : ι → Nat),
    (∀ i, fuel ≤ fuels i) → (∀ i, (framess i).map ClassFrame.bare = frames.map ClassFrame.bare) →
    (∀ i, (itemss i).map ClassSet.bare = items.map ClassSet.bare) → Cursor.Along tail n c C →
    Echoes (ReadAlong Tree.bare tail n) (bracketLoop fuel frames items start c) fun i =>
      bracketLoop (fuels i) (framess i) (itemss i) (starts i) (C i)

/-! One step of the loop is settled for each kind of character, given that the loop goes
along with the fuel that is left. -/

section Step

variable {fuel : Nat} {fuels : ι → Nat} {frames : List ClassFrame}
  {framess : ι → List ClassFrame} {items : List ClassSet} {itemss : ι → List ClassSet}
  (start : Nat) (starts : ι → Nat) (ih : LoopAlong tail fuel) (hfuels : ∀ i, fuel ≤ fuels i)
  (hframes : ∀ i, (framess i).map ClassFrame.bare = frames.map ClassFrame.bare)
  (hitems : ∀ i, (itemss i).map ClassSet.bare = items.map ClassSet.bare)
  (h : c.skipBlanks.Along tail (n + 1) fun i => (C i).skipBlanks)

include ih hfuels hframes hitems h

/-- An opening bracket: a named class, or a bracket inside this one. -/
theorem echoes_loop_opening (hc : c.skipBlanks.char? = some '[') :
    Echoes (ReadAlong Tree.bare tail (n + 1)) (bracketLoop (fuel + 1) frames items start c)
      fun i => bracketLoop (fuels i + 1) (framess i) (itemss i) (starts i) (C i) := by
  simp only [bracketLoop, hc, h.char?_eq hc]
  obtain ⟨hnone, hsome⟩ := asciiClass?_along htail h
  cases hclass : asciiClass? c.skipBlanks with
  | some found =>
    obtain ⟨A, hA, hitem, hbehind⟩ := hsome found hclass
    simp only [hA]
    refine ih _ _ hfuels hframes (fun i => ?_) hbehind
    rw [List.map_cons, List.map_cons, hitem, hitems]
  | none =>
    simp only [hnone hclass]
    refine (echoes_openBracket htail h hc).bind ?_
    rintro ⟨negated, inside, insideStart, behind⟩ A ⟨hA, hbehind⟩
    simp only [fun i => (hA i).1]
    refine (ih _ _ hfuels (fun i => ?_) (fun i => (hA i).2) hbehind).mono
      fun _ _ h => h.mono (Nat.le_succ n)
    simp only [List.map_cons, ClassFrame.bare, hitems, hframes]

omit htail in
/-- A closing bracket: of the whole expression, or of one inside it. -/
theorem echoes_loop_closing (hc : c.skipBlanks.char? = some ']') :
    Echoes (ReadAlong Tree.bare tail (n + 1)) (bracketLoop (fuel + 1) frames items start c)
      fun i => bracketLoop (fuels i + 1) (framess i) (itemss i) (starts i) (C i) := by
  have hclosed := fun i => closeOperation_bare (ClassSet.ofItems_along start starts hitems i)
    (hframes i)
  have hbehind := (h.advance hc).mono (Nat.le_succ n)
  simp only [bracketLoop, hc, h.char?_eq hc]
  generalize closeOperation (.ofItems start items) frames = closed at hclosed ⊢
  obtain ⟨set, frames⟩ := closed
  rcases frames with _ | ⟨⟨before, start, span, negated⟩ | ⟨op, left⟩, frames⟩
  · exact .error _ _
  · choose before' start' span' more hmore hbefore hrest using fun i =>
      exists_opened_of_bare (hclosed i).2
    simp only [hmore]
    cases frames with
    | nil =>
      simp only [fun i => List.map_eq_nil_iff.1 (hrest i)]
      refine .ok ⟨fun i => ?_, hbehind⟩
      rw [Tree.bare, Tree.bare, (hclosed i).1]
    | cons frame frames =>
      choose frame' frames' hcons _ _ using fun i => List.map_eq_cons_iff.1 (hrest i)
      simp only [hcons] at hrest ⊢
      refine ih _ _ hfuels hrest (fun i => ?_) hbehind
      simp only [List.map_cons, ClassSet.bare, (hclosed i).1, hbefore]
  · exact .error _ _

/-- The sign of an operation, before which its left operand was read, or an item. -/
theorem echoes_loop_item {ch : Char} (hc : c.skipBlanks.char? = some ch) (hopen : ch ≠ '[')
    (hclose : ch ≠ ']') :
    Echoes (ReadAlong Tree.bare tail (n + 1)) (bracketLoop (fuel + 1) frames items start c)
      fun i => bracketLoop (fuels i + 1) (framess i) (itemss i) (starts i) (C i) := by
  have hne : c.skipBlanks.rest ≠ [] := fun hnil =>
    Cursor.not_atEnd_of_char? hc (Cursor.atEnd_iff.2 hnil)
  simp only [bracketLoop, hc, h.char?_eq hc]
  simp only [setOperation?_along htail h hne]
  cases hop : setOperation? c.skipBlanks ch with
  | some op =>
    have hclosed := fun i => closeOperation_bare (ClassSet.ofItems_along start starts hitems i)
      (hframes i)
    refine ih _ _ hfuels (fun i => ?_) (fun _ => rfl)
      ((h.mono (Nat.le_add_right (n + 1) 2)).skip (two_le_length_of_setOperation? hop))
    rw [List.map_cons, List.map_cons, (hclosed i).2, ClassFrame.bare, ClassFrame.bare,
      (hclosed i).1]
  | none =>
    refine (echoes_classItem htail frames framess h hc).bind ?_
    rintro ⟨item, behind⟩ A ⟨hitem, hbehind⟩
    refine (ih _ _ hfuels hframes (fun i => ?_) hbehind).mono fun _ _ h => h.mono (Nat.le_succ n)
    rw [List.map_cons, List.map_cons, hitem, hitems]

end Step

/-- **Inside brackets** the text behind is not reached. -/
theorem loopAlong (fuel : Nat) : LoopAlong tail fuel := by
  induction fuel with
  | zero => exact fun _ _ _ _ _ _ _ _ _ _ _ _ _ _ => .error _ _
  | succ fuel ih =>
    intro n c C fuels frames framess items itemss start starts hfuels hframes hitems h
    obtain ⟨fuels', hfuels'⟩ := exists_less_fuel fun i =>
      Nat.lt_of_lt_of_le (Nat.succ_pos _) (hfuels i)
    have hless : ∀ i, fuel ≤ fuels' i := fun i =>
      Nat.le_of_succ_le_succ ((hfuels i).trans_eq (hfuels' i))
    have hskipped := h.skipBlanks htail
    simp only [hfuels']
    cases hc : c.skipBlanks.char? with
    | none =>
      simp only [bracketLoop, hc]
      exact .error _ _
    | some ch =>
      obtain ⟨m, rfl⟩ := hskipped.exists_succ hc
      by_cases hopen : ch = '['
      · exact echoes_loop_opening htail start starts ih hless hframes hitems hskipped (hopen ▸ hc)
      by_cases hclose : ch = ']'
      · exact echoes_loop_closing start starts ih hless hframes hitems hskipped (hclose ▸ hc)
      · exact echoes_loop_item htail start starts ih hless hframes hitems hskipped hc hopen hclose

/-- **A bracket expression that is closed** is not changed by what stands behind it. -/
theorem echoes_bracket (h : Cursor.Along tail (n + 1) c C) {ch : Char} (hc : c.char? = some ch) :
    Echoes (ReadAlong Tree.bare tail n) (bracket c) fun i => bracket (C i) := by
  have hne : c.rest ≠ [] := fun hnil => Cursor.not_atEnd_of_char? hc (Cursor.atEnd_iff.2 hnil)
  refine (echoes_openBracket htail h hc).bind ?_
  rintro ⟨negated, items, start, behind⟩ A ⟨hA, hbehind⟩
  simp only [fun i => (hA i).1]
  refine loopAlong htail _ _ _ (fun i => ?_) (fun _ => rfl) (fun i => (hA i).2) hbehind
  rw [h.rest_eq hne, List.length_append]
  omega

end ColumnChecks.Pattern
