import ColumnChecks.Proofs.Pattern.Behind.Steps
import ColumnChecks.Proofs.Pattern.Following

/-!
# Patterns between anchors

To match whole values only, a pattern is put between `^(?:` and `)$`. **A pattern that is
read on its own is read between the anchors just if it does not end in a comment**, and
then its tree is found there as the body of the group
(`ColumnChecks.Pattern.Tree.read_between_anchors`).

Whether a pattern ends in a comment is told by a closing parenthesis behind it: in a
comment it is passed over, and otherwise it closes a group that is not open
(`ColumnChecks.Pattern.EndsInComment`).
-/

namespace ColumnChecks.Pattern

variable {ι : Type} {tail : ι → List Char} {bottom : ι → List Frame} {n : Nat}

/-! ### Runs of the reader -/

/-- At the end of the pattern no blanks are left to be passed. -/
theorem Cursor.Along.skipBlanks_eq {c : Cursor} {C : ι → Cursor}
    (htail : ∀ i, ClosingText (tail i)) (h : c.Along tail n C) (hc : c.rest = []) (i : ι) :
    (C i).skipBlanks = C i := by
  have hnone : blankLength false (C i).rest = 0 := by
    rcases h.rest with hrest | ⟨-, hnil⟩
    · obtain ⟨more, hmore, -⟩ := htail i
      rw [hrest, hc, hmore]
      rfl
    · rw [hnil]
      rfl
  rw [Cursor.skipBlanks, hnone]
  split_ifs
  · rw [Cursor.skip, List.drop_zero, Nat.zero_min, Nat.add_zero]
  · rfl

namespace State

variable {s : State} {S : ι → State}

theorem run_succ (fuel : Nat) (s : State) :
    State.run (fuel + 1) s =
      match s.cursor.skipBlanks.char? with
      | none => State.finish { s with cursor := s.cursor.skipBlanks }
      | some char => State.next { s with cursor := s.cursor.skipBlanks } char >>= State.run fuel :=
  rfl

theorem Along.skipBlanks (htail : ∀ i, ClosingText (tail i)) (h : s.Along tail bottom n S) :
    State.Along tail bottom n { s with cursor := s.cursor.skipBlanks } fun i =>
      { S i with cursor := (S i).cursor.skipBlanks } :=
  ⟨h.frames, h.parts, h.names, h.cursor.skipBlanks htail⟩

/-- **The reader gets to the end of the pattern** in all the longer texts. -/
theorem run_along (htail : ∀ i, ClosingText (tail i)) (hbottom : ∀ i, Grounded (bottom i))
    {fuel : Nat} (h : s.Along tail bottom fuel S) (hstacked : WellStacked s.frames) {tree : Tree}
    (hrun : State.run fuel s = .ok tree) :
    ∃ (final : State) (finals : ι → State) (rounds : Nat), final.Along tail bottom 0 finals ∧
      WellStacked final.frames ∧ final.finish = .ok tree ∧
      ∀ i more, State.run (fuel + more) (S i) = State.run (rounds + more) (finals i) := by
  induction fuel generalizing s S with
  | zero => exact ⟨s, S, 0, h, hstacked, hrun, fun _ _ => rfl⟩
  | succ fuel ih =>
    have hskipped := h.skipBlanks htail
    rw [run_succ] at hrun
    cases hc : s.cursor.skipBlanks.char? with
    | none =>
      rw [hc] at hrun
      have hrest := Cursor.rest_eq_nil_of_char? hc
      -- The pattern is read, and all the fuel that is left is there for the text behind.
      refine ⟨_, _, fuel + 1, ⟨hskipped.frames, hskipped.parts, hskipped.names,
        hskipped.cursor.blanks, Nat.le_of_eq (congrArg List.length hrest), hskipped.cursor.rest⟩,
        hstacked, hrun, fun i more => ?_⟩
      rw [Nat.add_right_comm, run_succ, run_succ]
      simp only [hskipped.cursor.skipBlanks_eq htail hrest i]
    | some ch =>
      rw [hc] at hrun
      obtain ⟨next, hnext, hrun⟩ := exists_of_bind_eq_ok hrun
      obtain ⟨nexts, hnexts, halong⟩ := echoes_next htail hbottom hskipped hc next hnext
      obtain ⟨final, finals, rounds, hfinal, hstacked', hfinish, hall⟩ :=
        ih halong ((constructs_of_next hnext).2 hstacked) hrun
      refine ⟨final, finals, rounds, hfinal, hstacked', hfinish, fun i more => ?_⟩
      rw [← hall, Nat.add_right_comm, run_succ]
      have hchar : (S i).cursor.skipBlanks.char? = some ch := hskipped.cursor.char?_eq hc i
      simp only [hchar, hnexts i]
      rfl

/-! ### The end of the pattern -/

/-- At the end all groups of the pattern are closed. -/
theorem close_of_finish (hstacked : WellStacked s.frames) {tree : Tree}
    (h : s.finish = .ok tree) :
    closeAlternation (.ofParts ⟨s.start, s.cursor.offset⟩ s.parts) s.cursor.offset s.frames =
      (tree, []) := by
  obtain ⟨-, hgrounded⟩ := closeAlternation_wellStacked
    (.ofParts ⟨s.start, s.cursor.offset⟩ s.parts) s.cursor.offset hstacked
  unfold State.finish at h
  simp only at h
  generalize closeAlternation (.ofParts ⟨s.start, s.cursor.offset⟩ s.parts) s.cursor.offset
    s.frames = closed at h hgrounded ⊢
  obtain ⟨body, frames⟩ := closed
  match frames with
  | [] =>
    cases h
    rfl
  | .group _ _ _ _ _ :: _ => cases h
  | .alternation _ _ :: _ => exact absurd rfl (hgrounded _ _ _)

/-- With no text left, the state is the last one. -/
theorem run_of_nil (h : s.cursor.rest = []) (hskip : s.cursor.skipBlanks = s.cursor)
    (fuel : Nat) : State.run fuel s = s.finish := by
  cases fuel with
  | zero => rfl
  | succ fuel =>
    have hc : s.cursor.char? = none := List.head?_eq_none_iff.2 h
    simp only [run_succ, hskip, hc]

/-- The group that is being read has the contents of a tree, and around it are frames. -/
def Holds (s : State) (tree : Tree) (around : List Frame) : Prop :=
  (closeAlternation (.ofParts ⟨s.start, s.cursor.offset⟩ s.parts) s.cursor.offset
      s.frames).1.bare = tree.bare ∧
    (closeAlternation (.ofParts ⟨s.start, s.cursor.offset⟩ s.parts) s.cursor.offset
      s.frames).2.map Frame.bare = around

/-- Without a group around it, the pattern ends here, and no group can be closed. -/
theorem Holds.of_nil {tree : Tree} (h : s.Holds tree []) :
    (∃ whole, s.finish = .ok whole ∧ whole.bare = tree.bare) ∧ ∀ s', s.closeGroup ≠ .ok s' := by
  obtain ⟨htree, hframes⟩ := h
  unfold State.finish State.closeGroup
  simp only
  generalize closeAlternation (.ofParts ⟨s.start, s.cursor.offset⟩ s.parts) s.cursor.offset
    s.frames = closed at htree hframes ⊢
  obtain ⟨body, frames⟩ := closed
  obtain rfl : frames = [] := List.map_eq_nil_iff.1 hframes
  exact ⟨⟨body, rfl, htree⟩, fun _ => nofun⟩

/-- With a group around it, the pattern does not end here, and the group can be closed. -/
theorem Holds.of_group {tree : Tree} {before : List Tree} {kind : GroupKind} {ignoresBlanks : Bool}
    (h : s.Holds tree [.group before 0 noSpan kind ignoresBlanks]) :
    (∀ whole, s.finish ≠ .ok whole) ∧ ∃ s', s.closeGroup = .ok s' ∧ s'.frames = [] ∧
      s'.parts.map Tree.bare = .group noSpan kind tree.bare :: before ∧
      s'.cursor = { s.cursor.advance with ignoresBlanks := ignoresBlanks } := by
  obtain ⟨htree, hframes⟩ := h
  unfold State.finish State.closeGroup
  simp only
  generalize closeAlternation (.ofParts ⟨s.start, s.cursor.offset⟩ s.parts) s.cursor.offset
    s.frames = closed at htree hframes ⊢
  obtain ⟨body, frames⟩ := closed
  match frames with
  | [] => cases hframes
  | .alternation _ _ :: _ => cases hframes
  | .group before' start' span' kind' ignoresBlanks' :: frames =>
    rw [List.map_cons, List.cons.injEq] at hframes
    obtain ⟨hbefore, -, -, rfl, rfl⟩ := Frame.group.inj hframes.1
    obtain rfl : frames = [] := List.map_eq_nil_iff.1 hframes.2
    refine ⟨fun _ => nofun, _, rfl, rfl, ?_, rfl⟩
    rw [List.map_cons, hbefore, Tree.bare, htree]

/-- The anchor at the end is the last part. -/
theorem run_lineEnd (hrest : s.cursor.rest = ['$']) (hblanks : s.cursor.ignoresBlanks = false)
    (hframes : s.frames = []) (fuel : Nat) :
    ∃ whole, State.run (fuel + 1) s = .ok whole ∧
      whole.bare = Tree.bareOf (.assertion noSpan .lineEnd :: s.parts.map Tree.bare) := by
  have hskip : s.cursor.skipBlanks = s.cursor := by
    rw [Cursor.skipBlanks, hblanks, if_neg Bool.false_ne_true]
  have hchar : s.cursor.char? = some '$' := Cursor.char?_eq_some_iff.2 ⟨[], hrest⟩
  have hend : s.cursor.advance.rest = [] := by
    rw [Cursor.advance, Cursor.skip, hrest]
    rfl
  have hskip' : s.cursor.advance.skipBlanks = s.cursor.advance := by
    rw [Cursor.skipBlanks, Cursor.advance, Cursor.skip, hblanks, if_neg Bool.false_ne_true]
  rw [run_succ]
  simp only [hskip, hchar]
  change ∃ whole, State.run fuel (s.add (.assertion s.cursor.charSpan .lineEnd) s.cursor.advance) =
    .ok whole ∧ _
  rw [run_of_nil hend hskip', State.finish, State.add, hframes]
  exact ⟨_, rfl, Tree.bare_ofParts _ _⟩

end State

/-! ### Anchors -/

/-- **A pattern ends in a comment** if a closing parenthesis behind it is passed over. -/
def EndsInComment (pattern : List Char) : Prop :=
  ∃ tree, Tree.read (pattern ++ [')']) = .ok tree

/-- A pattern between anchors, in a group of its own. -/
def between (pattern : List Char) : List Char := '^' :: '(' :: '?' :: ':' :: (pattern ++ [')', '$'])

/-- The tree of a pattern between anchors, without stretches. -/
def Tree.bareBetween (tree : Tree) : Tree :=
  .concat noSpan [.assertion noSpan .lineStart, .group noSpan (.flags []) tree.bare,
    .assertion noSpan .lineEnd]

/-- What is behind a pattern: a parenthesis alone, or the one that closes the group. -/
def endings : Bool → List Char
  | false => [')']
  | true => [')', '$']

/-- What is open around a pattern: nothing, or the group behind the first anchor. -/
def surroundings : Bool → List Frame
  | false => []
  | true => [.group [.assertion noSpan .lineStart] 0 noSpan (.flags []) false]

theorem closingText_endings (outer : Bool) : ClosingText (endings outer) := by
  cases outer
  · exact ⟨[], rfl, by decide, by decide⟩
  · exact ⟨['$'], rfl, by decide, by decide⟩

theorem grounded_surroundings (outer : Bool) : Grounded (surroundings outer) := by
  cases outer <;> rintro start branches more ⟨⟩

/-- The state behind the opening of the group. -/
def insideAnchors (pattern : List Char) : State :=
  ⟨[.group [.assertion ⟨0, 1⟩ .lineStart] 0 ⟨1, 2⟩ (.flags []) false], [], 4, [],
    ⟨pattern ++ [')', '$'], 4, false⟩⟩

theorem read_between_eq (pattern : List Char) :
    Tree.read (between pattern) = State.run (pattern.length + 4) (insideAnchors pattern) := by
  have hlength : (between pattern).length = pattern.length + 4 + 1 + 1 := by
    rw [between]
    simp only [List.length_cons, List.length_append, List.length_nil]
  rw [Tree.read, hlength]
  rfl

/-- The states in the longer texts go along with the one in the pattern. -/
theorem along_insideAnchors (pattern : List Char) :
    State.Along endings surroundings pattern.length ⟨[], [], 0, [], ⟨pattern, 0, false⟩⟩ fun
      | false => ⟨[], [], 0, [], ⟨pattern ++ [')'], 0, false⟩⟩
      | true => insideAnchors pattern := by
  refine ⟨?_, ?_, ?_, ?_, Nat.le_refl _, Or.inl ?_⟩
  all_goals rintro (_ | _) <;> rfl

/-- **The end of a pattern in the longer texts**: what is behind it has been passed in both
of them, or is next in both. -/
theorem exists_end_of_read {pattern : List Char} {tree : Tree} (h : Tree.read pattern = .ok tree) :
    ∃ (finals : Bool → State) (rounds : Nat),
      Tree.read (pattern ++ [')']) = State.run (rounds + 1) (finals false) ∧
      Tree.read (between pattern) = State.run (rounds + 4) (finals true) ∧
      (∀ outer, (finals outer).Holds tree (surroundings outer) ∧
        (finals outer).cursor.skipBlanks = (finals outer).cursor) ∧
      ((∀ outer, (finals outer).cursor.rest = endings outer) ∨
        ∀ outer, (finals outer).cursor.rest = []) := by
  obtain ⟨final, finals, rounds, halong, hstacked, hfinish, hall⟩ :=
    State.run_along closingText_endings grounded_surroundings (along_insideAnchors pattern)
      trivial h
  have hnil : final.cursor.rest = [] :=
    List.length_eq_zero_iff.1 (Nat.le_zero.1 halong.cursor.length)
  refine ⟨finals, rounds, ?_, ?_, fun outer => ⟨?_, ?_⟩, ?_⟩
  · rw [← hall false, Tree.read, List.length_append]
    rfl
  · rw [← hall true, read_between_eq]
  · have hclose := halong.close grounded_surroundings final.cursor.offset
      (fun i => (finals i).cursor.offset) outer
    rw [State.close_of_finish hstacked hfinish] at hclose
    exact hclose
  · exact halong.cursor.skipBlanks_eq closingText_endings hnil outer
  · refine halong.cursor.rest.imp (fun hrest outer => ?_) And.right
    rw [hrest, hnil, List.nil_append]

/-- **Between the anchors** a pattern is read as on its own, unless it ends in a comment. -/
theorem Tree.read_between_anchors {pattern : List Char} {tree : Tree}
    (h : Tree.read pattern = .ok tree) :
    (EndsInComment pattern ∧ ∀ outer, Tree.read (between pattern) ≠ .ok outer) ∨
      ¬EndsInComment pattern ∧ ∃ outer, Tree.read (between pattern) = .ok outer ∧
        outer.bare = tree.bareBetween := by
  obtain ⟨finals, rounds, hplain, hinside, hfinals, hrest⟩ := exists_end_of_read h
  obtain ⟨hholds, hskip⟩ := hfinals true
  obtain ⟨hholds', hskip'⟩ := hfinals false
  obtain ⟨⟨whole, hwhole, -⟩, hopen⟩ := hholds'.of_nil
  obtain ⟨hmore, s, hclose, hframes, hparts, hcursor⟩ := hholds.of_group
  rw [EndsInComment, hplain, hinside]
  rcases hrest with hrest | hnil
  · -- The parenthesis is next in both texts, and there is a group to close in one of them.
    right
    constructor
    · rintro ⟨tree', htree'⟩
      have hchar : (finals false).cursor.char? = some ')' :=
        Cursor.char?_eq_some_iff.2 ⟨[], hrest false⟩
      rw [State.run_succ] at htree'
      simp only [hskip', hchar] at htree'
      obtain ⟨s', hs', -⟩ := exists_of_bind_eq_ok htree'
      exact hopen s' hs'
    · have hchar : (finals true).cursor.char? = some ')' :=
        Cursor.char?_eq_some_iff.2 ⟨['$'], hrest true⟩
      have hbehind : s.cursor.rest = ['$'] := by
        rw [hcursor, Cursor.advance, Cursor.skip, hrest true]
        rfl
      have hrun : State.run (rounds + 4) (finals true) = State.run (rounds + 3) s := by
        rw [State.run_succ]
        simp only [hskip, hchar]
        change State.closeGroup (finals true) >>= _ = _
        rw [hclose]
        rfl
      obtain ⟨outer, houter, hbare⟩ :=
        State.run_lineEnd hbehind (by rw [hcursor]) hframes (rounds + 2)
      refine ⟨outer, hrun.trans houter, ?_⟩
      rw [hbare, hparts]
      rfl
  · -- The parenthesis was passed in both texts, so the group is still open at the end.
    left
    rw [State.run_of_nil (hnil true) hskip, State.run_of_nil (hnil false) hskip']
    exact ⟨⟨whole, hwhole⟩, hmore⟩

end ColumnChecks.Pattern
