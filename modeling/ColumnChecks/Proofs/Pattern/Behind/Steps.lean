import ColumnChecks.Proofs.Pattern.Behind.Brackets
import ColumnChecks.Proofs.Pattern.Behind.Groups

/-!
# Steps of the reader with more text behind

A longer text may also stand before the pattern. Then groups may be open around it; they
are at the bottom of the stack, and **a step of the reader does not reach them**
(`ColumnChecks.Pattern.State.echoes_next`): to close one of them the pattern would have to
close a group that it has not opened, and then it would not be read on its own.
-/

namespace ColumnChecks.Pattern

variable {ι : Type} {tail : ι → List Char} {n : Nat} {c : Cursor} {C : ι → Cursor}

/-! ### Repetitions -/

/-- Blanks are taken up to the same place. -/
theorem takeWhile_isBlank_append {text : List Char} (htext : ClosingText text)
    (cs : List Char) : (cs ++ text).takeWhile Text.isBlank = cs.takeWhile Text.isBlank := by
  obtain ⟨more, rfl, -⟩ := htext
  rw [List.takeWhile_append, List.takeWhile_cons_of_neg (by decide), List.append_nil]
  split_ifs with hall
  · exact (List.takeWhile_prefix _).eq_of_length hall |>.symm
  · rfl

variable (htail : ∀ i, ClosingText (tail i))

include htail

theorem Cursor.Along.skipAllBlanks (h : Cursor.Along tail n c C) :
    Cursor.Along tail n (c.skip (c.rest.takeWhile Text.isBlank).length) fun i =>
      (C i).skip ((C i).rest.takeWhile Text.isBlank).length := by
  have hall : ∀ i, ((C i).rest.takeWhile Text.isBlank).length =
      (c.rest.takeWhile Text.isBlank).length := fun i => by
    rcases h.rest with hrest | ⟨hc, hnil⟩
    · rw [hrest, takeWhile_isBlank_append (htail i)]
    · rw [hnil, hc]
  simp only [hall]
  exact (h.mono (Nat.le_add_right n _)).skip (List.takeWhile_prefix _).length_le

theorem decimal_along (h : Cursor.Along tail n c C) :
    (Echoes (fun a A => ∀ i, A i = a) (decimal c).1 fun i => (decimal (C i)).1) ∧
      Cursor.Along tail n (decimal c).2 fun i => (decimal (C i)).2 := by
  obtain ⟨hdigits, hfinal⟩ := (h.skipAllBlanks htail).takeWhile htail Char.isDigit (.inl rfl)
  obtain ⟨-, hbehind⟩ := hfinal.takeWhile htail Text.isBlank (.inl rfl)
  constructor
  · unfold decimal
    simp only [hdigits, apply_ite Prod.fst]
    refine .ite (fun _ => Iff.rfl) (fun _ => .ok fun _ => rfl) fun _ => ?_
    exact .ite (fun _ => Iff.rfl) (fun _ => .ok fun _ => rfl) fun _ => .error _ _
  · simp only [decimal_snd]
    exact hbehind

omit htail in
theorem echoes_needBound (span : Span) (spans : ι → Span) {bound : Except Fault (Option Nat)}
    {bounds : ι → Except Fault (Option Nat)} (h : Echoes (fun a A => ∀ i, A i = a) bound bounds) :
    Echoes (fun a A => ∀ i, A i = a) (needBound span bound) fun i =>
      needBound (spans i) (bounds i) := by
  refine h.bind fun a A hA => ?_
  simp only [hA]
  cases a with
  | none => exact .error _ _
  | some n => exact .ok fun _ => rfl

/-- **The end of the bounds** is a closing brace, which is not in the text behind. -/
theorem echoes_countsEnd {bounds : Repetition} {boundss : ι → Repetition} {start : Nat}
    {starts : ι → Nat} (hbounds : ∀ i, boundss i = bounds) (h : Cursor.Along tail n c C) :
    Echoes (fun a A => a.2.char? = some '\x7d' ∧ ReadAlong id tail n a A)
      (if (c.char? != some '\x7d') = true then
        (.error ⟨.repetitionCountUnclosed, c.since start⟩ : Except Fault PUnit) >>= fun _ =>
          .ok (bounds, c)
      else .ok (bounds, c)) fun i =>
      if ((C i).char? != some '\x7d') = true then
        (.error ⟨.repetitionCountUnclosed, (C i).since (starts i)⟩ : Except Fault PUnit) >>=
          fun _ => .ok (boundss i, C i)
      else .ok (boundss i, C i) := by
  refine .ite (fun i => ?_) (fun _ => .error _ _) fun hclose => ?_
  · simp only [bne_iff_ne, ne_eq, h.char?_iff htail (show '\x7d' ≠ ')' by decide)]
  · exact .ok ⟨by simpa using hclose, hbounds, h⟩

/-- **Bounds in braces** go along. -/
theorem echoes_counts (h : Cursor.Along tail (n + 1) c C) {ch : Char} (hc : c.char? = some ch) :
    Echoes (fun a A => a.2.char? = some '\x7d' ∧ ReadAlong id tail n a A) (counts c) fun i =>
      counts (C i) := by
  have hstep := h.step htail hc
  unfold counts
  by_cases hinside : c.step.atEnd = true
  · simp only [hinside, if_true]
    exact .error _ _
  simp only [hinside, hstep.atEnd_eq hinside, Bool.false_eq_true, if_false]
  obtain ⟨hleast, hbehind⟩ := decimal_along htail hstep
  generalize decimal c.step = least at hleast hbehind ⊢
  obtain ⟨leasts, hleasts⟩ : ∃ leasts : ι → Except Fault (Option Nat) × Cursor,
    ∀ i, decimal (C i).step = leasts i := ⟨_, fun _ => rfl⟩
  simp only [hleasts] at hleast hbehind ⊢
  by_cases hlast : least.2.atEnd = true
  · simp only [hlast, if_true]
    exact .error _ _
  simp only [hlast, hbehind.atEnd_eq hlast, Bool.false_eq_true, if_false]
  refine .ite (hbehind.char?_iff htail (by decide)) (fun hcomma => ?_) fun _ => ?_
  · obtain ⟨m, rfl⟩ := hbehind.exists_succ hcomma
    have hafter := (hbehind.step htail hcomma).mono (Nat.le_succ m)
    by_cases hmore : least.2.step.atEnd = true
    · simp only [hmore, if_true]
      exact .error _ _
    simp only [hmore, hafter.atEnd_eq hmore, Bool.false_eq_true, if_false]
    refine (echoes_needBound _ _ hleast).bind fun min mins hmin => ?_
    simp only [hmin]
    refine .ite (hafter.char?_iff htail (by decide)) (fun _ => ?_) fun _ => ?_
    · exact echoes_countsEnd htail (fun _ => rfl) hafter
    obtain ⟨hmost, hfinal⟩ := decimal_along htail hafter
    generalize decimal least.2.step = most at hmost hfinal ⊢
    obtain ⟨mosts, hmosts⟩ : ∃ mosts : ι → Except Fault (Option Nat) × Cursor,
      ∀ i, decimal (leasts i).2.step = mosts i := ⟨_, fun _ => rfl⟩
    simp only [hmosts] at hmost hfinal ⊢
    refine (echoes_needBound _ _ hmost).bind fun max maxs hmax => ?_
    simp only [hmax]
    exact echoes_countsEnd htail (fun _ => rfl) hfinal
  · refine (echoes_needBound _ _ hleast).bind fun count counts hcount => ?_
    simp only [hcount]
    exact echoes_countsEnd htail (fun _ => rfl) hbehind

/-! ### The stack -/

omit htail

/-- What a concatenation is part of, without stretches. -/
def Frame.bare : Frame → Frame
  | .group before _ _ kind ignoresBlanks =>
    .group (before.map Tree.bare) 0 noSpan kind ignoresBlanks
  | .alternation _ branches => .alternation 0 (branches.map Tree.bare)

/-- A stack that does not start with an alternation. -/
def Grounded (frames : List Frame) : Prop :=
  ∀ start branches more, frames ≠ .alternation start branches :: more

variable {bottom : List Frame} {frames frames' : List Frame}

/-- **A group is open** in the longer text, too. -/
theorem exists_group_of_bare {before : List Tree} {start : Nat} {span : Span} {kind : GroupKind}
    {ignoresBlanks : Bool}
    (h : frames'.map Frame.bare =
      (.group before start span kind ignoresBlanks :: frames).map Frame.bare ++ bottom) :
    ∃ before' start' span' more, frames' = .group before' start' span' kind ignoresBlanks :: more ∧
      before'.map Tree.bare = before.map Tree.bare ∧
      more.map Frame.bare = frames.map Frame.bare ++ bottom := by
  match frames' with
  | [] => cases h
  | .alternation _ _ :: _ => cases h
  | .group before' start' span' kind' ignoresBlanks' :: more =>
    rw [List.map_cons, List.map_cons, List.cons_append, List.cons.injEq] at h
    obtain ⟨hbefore, -, -, rfl, rfl⟩ := Frame.group.inj h.1
    exact ⟨before', start', span', more, rfl, hbefore, h.2⟩

/-- An alternation is open in the longer text just if it is in the pattern. -/
theorem exists_alternation_of_bare {start : Nat} {branches : List Tree}
    (h : frames'.map Frame.bare =
      (.alternation start branches :: frames).map Frame.bare ++ bottom) :
    ∃ start' branches' more, frames' = .alternation start' branches' :: more ∧
      branches'.map Tree.bare = branches.map Tree.bare ∧
      more.map Frame.bare = frames.map Frame.bare ++ bottom := by
  match frames' with
  | [] => cases h
  | .group _ _ _ _ _ :: _ => cases h
  | .alternation start' branches' :: more =>
    rw [List.map_cons, List.map_cons, List.cons_append, List.cons.injEq] at h
    exact ⟨start', branches', more, rfl, (Frame.alternation.inj h.1).2, h.2⟩

theorem Grounded.of_bare (hbottom : Grounded bottom) (hframes : Grounded frames)
    (h : frames'.map Frame.bare = frames.map Frame.bare ++ bottom) : Grounded frames' := by
  rintro start branches more rfl
  match frames with
  | [] => exact hbottom _ _ _ h.symm
  | .alternation _ _ :: _ => exact hframes _ _ _ rfl
  | .group _ _ _ _ _ :: _ => cases h

theorem closeAlternation_of_grounded (h : Grounded frames) (branch : Tree) (stop : Nat) :
    closeAlternation branch stop frames = (branch, frames) := by
  unfold closeAlternation
  split
  · exact absurd rfl (h _ _ _)
  · rfl

/-- Completing an alternation is the same up to stretches. -/
theorem closeAlternation_bare (hbottom : Grounded bottom) {branch branch' : Tree}
    (stop stop' : Nat) (hbranch : branch'.bare = branch.bare)
    (h : frames'.map Frame.bare = frames.map Frame.bare ++ bottom) :
    (closeAlternation branch' stop' frames').1.bare = (closeAlternation branch stop frames).1.bare ∧
      (closeAlternation branch' stop' frames').2.map Frame.bare =
        (closeAlternation branch stop frames).2.map Frame.bare ++ bottom := by
  by_cases halternation : Grounded frames
  · rw [closeAlternation_of_grounded halternation,
      closeAlternation_of_grounded (hbottom.of_bare halternation h)]
    exact ⟨hbranch, h⟩
  · simp only [Grounded, not_forall, not_not] at halternation
    obtain ⟨start, branches, more, rfl⟩ := halternation
    obtain ⟨start', branches', more', rfl, hbranches, hmore⟩ := exists_alternation_of_bare h
    refine ⟨?_, hmore⟩
    simp only [closeAlternation, Tree.bare, Tree.bares_eq_map, List.map_append, List.map_reverse,
      hbranches, hbranch, List.map_cons, List.map_nil]

/-! ### States -/

/-- **States that go along with a state**: they have the same frames on top and the same
parts, apart from stretches, and the same names. -/
structure State.Along (tail : ι → List Char) (bottom : ι → List Frame) (n : Nat) (s : State)
    (S : ι → State) : Prop where
  frames : ∀ i, (S i).frames.map Frame.bare = s.frames.map Frame.bare ++ bottom i
  parts : ∀ i, (S i).parts.map Tree.bare = s.parts.map Tree.bare
  names : ∀ i, SameNames s.names (S i).names
  cursor : s.cursor.Along tail n fun i => (S i).cursor

namespace State

variable {s : State} {S : ι → State} {bottom : ι → List Frame}

theorem Along.add (h : s.Along tail bottom (n + 1) S) {part : Tree} {parts : ι → Tree}
    (hparts : ∀ i, (parts i).bare = part.bare) (hbehind : c.Along tail n C) :
    (s.add part c).Along tail bottom n fun i => (S i).add (parts i) (C i) := by
  refine ⟨h.frames, fun i => ?_, h.names, hbehind⟩
  rw [State.add, State.add, List.map_cons, List.map_cons, hparts, h.parts]

/-- The part that was read last is there in every text. -/
theorem Along.exists_part (h : s.Along tail bottom n S) {part : Tree} {parts : List Tree}
    (hparts : s.parts = part :: parts) (i : ι) :
    ∃ part' parts', (S i).parts = part' :: parts' ∧ part'.bare = part.bare ∧
      part'.isRepeatable = part.isRepeatable ∧
      parts'.map Tree.bare = parts.map Tree.bare := by
  have hi := h.parts i
  rw [hparts, List.map_cons] at hi
  obtain ⟨part', parts', hS, hpart, hmore⟩ := List.map_eq_cons_iff.1 hi
  have hrepeatable : part'.isRepeatable = part.isRepeatable := by
    rw [← Tree.isRepeatable_bare, hpart, Tree.isRepeatable_bare]
  exact ⟨part', parts', hS, hpart, hrepeatable, hmore⟩

include htail

theorem echoes_repeat (count : Repetition) (h : s.Along tail bottom (n + 1) S)
    (hbehind : c.Along tail n C) :
    Echoes (State.Along tail bottom n) (s.repeat count c) fun i => (S i).repeat count (C i) := by
  unfold State.repeat
  cases hparts : s.parts with
  | nil => exact .error _ _
  | cons part parts =>
    choose part' parts' hcons hpart hrepeatable hmore using h.exists_part hparts
    simp only [hcons, hrepeatable, hbehind.char?_beq htail (show '?' ≠ ')' by decide)]
    refine .ite (fun _ => Iff.rfl) (fun _ => .ok ?_) fun _ => .error _ _
    refine ⟨h.frames, fun i => ?_, h.names, hbehind.advanceIf fun h => beq_iff_eq.1 h⟩
    rw [List.map_cons, List.map_cons, hmore, Tree.bare, Tree.bare, hpart]

theorem echoes_repeatCounted (h : s.Along tail bottom (n + 1) S) {ch : Char}
    (hc : s.cursor.char? = some ch) :
    Echoes (State.Along tail bottom n) s.repeatCounted fun i => (S i).repeatCounted := by
  unfold State.repeatCounted
  cases hparts : s.parts with
  | nil => exact .error _ _
  | cons part parts =>
    choose part' parts' hcons _ hrepeatable _ using h.exists_part hparts
    simp only [hcons, hrepeatable]
    refine .ite (fun _ => Iff.rfl) (fun _ => .error _ _) fun _ => ?_
    refine (echoes_counts htail h.cursor hc).bind ?_
    rintro ⟨count, c⟩ A ⟨hclose, hcount, hbehind⟩
    simp only [id_eq] at hclose hcount hbehind
    simp only [hcount]
    obtain ⟨m, rfl⟩ := hbehind.exists_succ hclose
    refine (echoes_repeat htail count h ((hbehind.step htail hclose).mono (Nat.le_succ m))).bind ?_
    intro repeated R hR
    cases count.max with
    | none => exact .ok hR
    | some max => exact .ite (fun _ => Iff.rfl) (fun _ => .error _ _) fun _ => .ok hR

theorem echoes_openGroup (h : s.Along tail bottom (n + 1) S) {ch : Char}
    (hc : s.cursor.char? = some ch) :
    Echoes (State.Along tail bottom n) s.openGroup fun i => (S i).openGroup := by
  refine (echoes_opening htail h.names h.cursor hc).bind ?_
  rintro ⟨found, names, behind⟩ A ⟨hA, hbehind⟩
  have hblanks := h.cursor.blanks
  have hset : ∀ {b : Bool} {B : ι → Bool}, (∀ i, B i = b) →
      Cursor.Along tail n { behind with ignoresBlanks := b } fun i =>
        { (A i).2.2 with ignoresBlanks := B i } := fun hB => ⟨hB, hbehind.length, hbehind.rest⟩
  simp only at hA
  simp only [fun i => (hA i).1]
  cases found with
  | flags items =>
    refine .ok ⟨h.frames, fun i => ?_, fun i => (hA i).2, hset fun i => by rw [hblanks]⟩
    rw [List.map_cons, List.map_cons, h.parts]
    rfl
  | group kind =>
    refine .ok ⟨fun i => ?_, fun _ => rfl, fun i => (hA i).2, hset fun i => by rw [hblanks]⟩
    rw [List.map_cons, List.map_cons, List.cons_append, ← h.frames, Frame.bare, Frame.bare,
      h.parts, hblanks]

omit htail in
/-- What is being read is the same branch, apart from stretches. -/
theorem Along.close (h : s.Along tail bottom n S) (hbottom : ∀ i, Grounded (bottom i)) (stop : Nat)
    (stops : ι → Nat) (i : ι) :
    (closeAlternation (.ofParts ⟨(S i).start, stops i⟩ (S i).parts) (stops i) (S i).frames).1.bare =
        (closeAlternation (.ofParts ⟨s.start, stop⟩ s.parts) stop s.frames).1.bare ∧
      (closeAlternation (.ofParts ⟨(S i).start, stops i⟩ (S i).parts) (stops i)
          (S i).frames).2.map Frame.bare =
        (closeAlternation (.ofParts ⟨s.start, stop⟩ s.parts) stop s.frames).2.map Frame.bare ++
          bottom i := by
  refine closeAlternation_bare (hbottom i) _ _ ?_ (h.frames i)
  rw [Tree.bare_ofParts, Tree.bare_ofParts, h.parts]

omit htail in
theorem echoes_closeGroup (hbottom : ∀ i, Grounded (bottom i)) (h : s.Along tail bottom (n + 1) S)
    {ch : Char} (hc : s.cursor.char? = some ch) :
    Echoes (State.Along tail bottom n) s.closeGroup fun i => (S i).closeGroup := by
  have hclose := h.close hbottom s.cursor.offset fun i => (S i).cursor.offset
  have hbehind := h.cursor.advance hc
  unfold State.closeGroup
  simp only
  generalize closeAlternation (.ofParts ⟨s.start, s.cursor.offset⟩ s.parts) s.cursor.offset
    s.frames = closed at hclose ⊢
  obtain ⟨closeds, hcloseds⟩ : ∃ closeds : ι → Tree × List Frame, ∀ i, closeAlternation
      (.ofParts ⟨(S i).start, (S i).cursor.offset⟩ (S i).parts) (S i).cursor.offset (S i).frames =
        closeds i := ⟨_, fun _ => rfl⟩
  simp only [hcloseds] at hclose ⊢
  obtain ⟨body, frames⟩ := closed
  match frames with
  | [] | .alternation _ _ :: _ => exact .error _ _
  | .group before start span kind ignoresBlanks :: frames =>
    choose before' start' span' more hmore hbefore hrest using fun i =>
      exists_group_of_bare (hclose i).2
    simp only [hmore]
    refine .ok ⟨hrest, fun i => ?_, h.names, ⟨fun _ => rfl, hbehind.length, hbehind.rest⟩⟩
    rw [List.map_cons, List.map_cons, hbefore, Tree.bare, Tree.bare, (hclose i).1]

omit htail in
/-- The next branch of an alternation that is open. -/
theorem nextBranch_frames_of_alternation {start : Nat} {branches : List Tree} {more : List Frame}
    (h : s.frames = .alternation start branches :: more) :
    s.nextBranch.frames =
      .alternation start (.ofParts ⟨s.start, s.cursor.offset⟩ s.parts :: branches) :: more := by
  simp only [State.nextBranch, h]

omit htail in
/-- The first branch of an alternation. -/
theorem nextBranch_frames_of_grounded (h : Grounded s.frames) :
    s.nextBranch.frames =
      .alternation s.start [.ofParts ⟨s.start, s.cursor.offset⟩ s.parts] :: s.frames := by
  simp only [State.nextBranch]
  split
  · next heq => exact absurd heq (h _ _ _)
  · rfl

omit htail in
theorem Along.nextBranch (hbottom : ∀ i, Grounded (bottom i)) (h : s.Along tail bottom (n + 1) S)
    {ch : Char} (hc : s.cursor.char? = some ch) :
    s.nextBranch.Along tail bottom n fun i => (S i).nextBranch := by
  have hbranch : ∀ i, (Tree.ofParts ⟨(S i).start, (S i).cursor.offset⟩ (S i).parts).bare =
      (Tree.ofParts ⟨s.start, s.cursor.offset⟩ s.parts).bare := fun i => by
    rw [Tree.bare_ofParts, Tree.bare_ofParts, h.parts]
  refine ⟨fun i => ?_, fun _ => rfl, h.names, h.cursor.advance hc⟩
  by_cases halternation : Grounded s.frames
  · rw [nextBranch_frames_of_grounded halternation,
      nextBranch_frames_of_grounded ((hbottom i).of_bare halternation (h.frames i)),
      List.map_cons, List.map_cons, List.cons_append, ← h.frames]
    simp only [Frame.bare, List.map_cons, List.map_nil, hbranch]
  · simp only [Grounded, not_forall, not_not] at halternation
    obtain ⟨start, branches, more, heq⟩ := halternation
    have hframes := h.frames i
    rw [heq] at hframes
    obtain ⟨start', branches', more', hS, hbranches, hmore⟩ := exists_alternation_of_bare hframes
    rw [nextBranch_frames_of_alternation heq, nextBranch_frames_of_alternation hS,
      List.map_cons, List.map_cons, List.cons_append, ← hmore]
    simp only [Frame.bare, List.map_cons, hbranch, hbranches]

/-- **A step of the reader** goes along with more text around the pattern. -/
theorem echoes_next (hbottom : ∀ i, Grounded (bottom i)) (h : s.Along tail bottom (n + 1) S)
    {ch : Char} (hc : s.cursor.char? = some ch) :
    Echoes (State.Along tail bottom n) (s.next ch) fun i => (S i).next ch := by
  have hadvance := h.cursor.advance hc
  have hpart : ∀ {part : Tree} {parts : ι → Tree}, (∀ i, (parts i).bare = part.bare) →
      Echoes (State.Along tail bottom n) (.ok (s.add part s.cursor.advance)) fun i =>
        .ok ((S i).add (parts i) (S i).cursor.advance) := fun hparts => .ok (h.add hparts hadvance)
  unfold State.next
  refine .ite (fun _ => Iff.rfl) (fun _ => echoes_openGroup htail h hc) fun _ => ?_
  refine .ite (fun _ => Iff.rfl) (fun _ => echoes_closeGroup hbottom h hc) fun _ => ?_
  refine .ite (fun _ => Iff.rfl) (fun _ => .ok (h.nextBranch hbottom hc)) fun _ => ?_
  refine .ite (fun _ => Iff.rfl) (fun _ => ?_) fun _ => ?_
  · refine (echoes_bracket htail h.cursor hc).bind ?_
    rintro ⟨tree, behind⟩ A ⟨htree, hbehind⟩
    exact .ok (h.add htree hbehind)
  refine .ite (fun _ => Iff.rfl) (fun _ => echoes_repeat htail _ h hadvance) fun _ => ?_
  refine .ite (fun _ => Iff.rfl) (fun _ => echoes_repeat htail _ h hadvance) fun _ => ?_
  refine .ite (fun _ => Iff.rfl) (fun _ => echoes_repeat htail _ h hadvance) fun _ => ?_
  refine .ite (fun _ => Iff.rfl) (fun _ => echoes_repeatCounted htail h hc) fun _ => ?_
  refine .ite (fun _ => Iff.rfl) (fun hescape => ?_) fun _ => ?_
  · refine (echoes_escape htail h.cursor (hescape ▸ hc)).bind ?_
    rintro ⟨found, behind⟩ A ⟨hfound, hbehind⟩
    refine .ok (h.add (fun i => ?_) hbehind)
    rw [Escape.bare_toTree, Escape.bare_toTree, hfound]
  refine .ite (fun _ => Iff.rfl) (fun _ => hpart fun _ => rfl) fun _ => ?_
  refine .ite (fun _ => Iff.rfl) (fun _ => hpart fun _ => rfl) fun _ => ?_
  refine .ite (fun _ => Iff.rfl) (fun _ => hpart fun _ => rfl) fun _ => ?_
  exact hpart fun _ => rfl

end State

end ColumnChecks.Pattern
