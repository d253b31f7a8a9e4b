import Mathlib.Tactic.Common
import ColumnChecks.Pattern.Compile
import ColumnChecks.Proofs.Pattern.Search
import ColumnChecks.Proofs.Results

/-!
# Bounds in order

The reader refuses a repetition whose lower bound exceeds its upper one, so in the tree
of a pattern all bounds are in order (`ColumnChecks.Pattern.Tree.ordered_read`), and they
stay so in what the pattern means (`ColumnChecks.Pattern.Tree.ordered_meaning`). With
this, the search for a compiled pattern finds a match just if there is one
(`ColumnChecks.Pattern.ordered_of_compile`).
-/

namespace ColumnChecks.Pattern

/-- A result of one of two computations. -/
theorem of_ite_eq_ok {ε α : Type} {p goal : Prop} [Decidable p] {x y : Except ε α} {a : α}
    (h : (if p then x else y) = .ok a) (hx : x = .ok a → goal) (hy : y = .ok a → goal) : goal := by
  split_ifs at h
  · exact hx h
  · exact hy h

/-! ### Trees -/

/-- The lower bound does not exceed the upper one. -/
def Repetition.Ordered (count : Repetition) : Prop := ∀ max, count.max = some max → count.min ≤ max

mutual

/-- **All bounds of a tree are in order.** -/
def Tree.Ordered : Tree → Prop
  | .repetition _ count _ body => count.Ordered ∧ body.Ordered
  | .group _ _ body => body.Ordered
  | .alternation _ parts | .concat _ parts => Tree.AllOrdered parts
  | _ => True

/-- All bounds of some trees are in order. -/
def Tree.AllOrdered : List Tree → Prop
  | [] => True
  | part :: parts => part.Ordered ∧ Tree.AllOrdered parts

end

theorem Tree.allOrdered_iff {parts : List Tree} :
    Tree.AllOrdered parts ↔ ∀ part ∈ parts, part.Ordered := by
  induction parts with
  | nil => simp [Tree.AllOrdered]
  | cons part parts ih => simp [Tree.AllOrdered, ih]

theorem Tree.ordered_ofParts {span : Span} {parts : List Tree}
    (h : ∀ part ∈ parts, part.Ordered) : (Tree.ofParts span parts).Ordered := by
  match parts with
  | [] => trivial
  | [part] => exact h part List.mem_cons_self
  | first :: second :: parts =>
    exact Tree.allOrdered_iff.2 fun part hpart => h part (List.mem_reverse.1 hpart)

/-! ### Reading -/

/-- All bounds in a frame are in order. -/
def Frame.Ordered : Frame → Prop
  | .group before _ _ _ _ => ∀ part ∈ before, part.Ordered
  | .alternation _ branches => ∀ branch ∈ branches, branch.Ordered

/-- **All bounds that have been read are in order.** -/
structure State.Ordered (s : State) : Prop where
  frames : ∀ frame ∈ s.frames, frame.Ordered
  parts : ∀ part ∈ s.parts, part.Ordered

/-- The branches that were put aside are in order, and so is their alternation. -/
theorem closeAlternation_ordered {branch : Tree} (stop : Nat) {frames : List Frame}
    (hbranch : branch.Ordered) (h : ∀ frame ∈ frames, frame.Ordered) :
    (closeAlternation branch stop frames).1.Ordered ∧
      ∀ frame ∈ (closeAlternation branch stop frames).2, frame.Ordered := by
  unfold closeAlternation
  split
  · next start branches frames =>
    rw [List.forall_mem_cons] at h
    refine ⟨Tree.allOrdered_iff.2 fun part hpart => ?_, h.2⟩
    rcases List.mem_append.1 hpart with hpart | hpart
    · exact h.1 part (List.mem_reverse.1 hpart)
    · rwa [List.mem_singleton.1 hpart]
  · exact ⟨hbranch, h⟩

/-- Bracket expressions have no bounds to be out of order. -/
theorem ordered_of_bracketLoop {fuel : Nat} {frames : List ClassFrame} {items : List ClassSet}
    {start : Nat} {c behind : Cursor} {tree : Tree}
    (h : bracketLoop fuel frames items start c = .ok (tree, behind)) : tree.Ordered := by
  induction fuel generalizing frames items start c with
  | zero => cases h
  | succ fuel ih =>
    rw [bracketLoop] at h
    simp only at h
    split at h
    · cases h
    · split at h
      · exact ih h
      · obtain ⟨_, -, h⟩ := exists_of_bind_eq_ok h
        exact ih h
    · split at h
      · cases h
        trivial
      · exact ih h
      · cases h
    · split at h
      · exact ih h
      · obtain ⟨_, -, h⟩ := exists_of_bind_eq_ok h
        exact ih h

theorem Escape.ordered_toTree (e : Escape) : e.toTree.Ordered := by
  cases e <;> trivial

namespace State.Ordered

variable {s s' : State}

theorem add (h : s.Ordered) {part : Tree} (hpart : part.Ordered) (behind : Cursor) :
    (s.add part behind).Ordered :=
  ⟨h.frames, List.forall_mem_cons.2 ⟨hpart, h.parts⟩⟩

theorem «repeat» (h : s.Ordered) {count : Repetition} (hcount : count.Ordered) {behind : Cursor}
    (hnext : s.repeat count behind = .ok s') : s'.Ordered := by
  unfold State.repeat at hnext
  split at hnext
  · next part parts hparts =>
    split at hnext
    · cases hnext
      have hall := h.parts
      rw [hparts, List.forall_mem_cons] at hall
      exact ⟨h.frames, List.forall_mem_cons.2 ⟨⟨hcount, hall.1⟩, hall.2⟩⟩
    · cases hnext
  · cases hnext

/-- Bounds in braces are compared before they are accepted. -/
theorem repeatCounted (h : s.Ordered) (hnext : s.repeatCounted = .ok s') : s'.Ordered := by
  unfold State.repeatCounted at hnext
  simp only at hnext
  split at hnext
  · split at hnext
    · cases hnext
    obtain ⟨⟨count, behind⟩, -, hnext⟩ := exists_of_bind_eq_ok hnext
    obtain ⟨repeated, hrepeat, hnext⟩ := exists_of_bind_eq_ok hnext
    split at hnext
    · next max hmax =>
      split at hnext
      · cases hnext
      · next hle =>
        cases hnext
        refine h.repeat (fun max' hmax' => ?_) hrepeat
        rw [hmax'] at hmax
        cases hmax
        exact Nat.not_lt.1 hle
    · next hmax =>
      cases hnext
      refine h.repeat (fun max' hmax' => ?_) hrepeat
      rw [hmax'] at hmax
      cases hmax
  · cases hnext

/-- A group that is opened puts the parts before it aside. -/
theorem openGroup (h : s.Ordered) (hnext : s.openGroup = .ok s') : s'.Ordered := by
  obtain ⟨⟨found, names, behind⟩, -, hnext⟩ := exists_of_bind_eq_ok hnext
  cases found with
  | flags items =>
    cases hnext
    exact ⟨h.frames, List.forall_mem_cons.2 ⟨trivial, h.parts⟩⟩
  | group kind =>
    cases hnext
    exact ⟨List.forall_mem_cons.2 ⟨h.parts, h.frames⟩, nofun⟩

theorem close (h : s.Ordered) (stop : Nat) :
    (closeAlternation (.ofParts ⟨s.start, stop⟩ s.parts) stop s.frames).1.Ordered ∧
      ∀ frame ∈ (closeAlternation (.ofParts ⟨s.start, stop⟩ s.parts) stop s.frames).2,
        frame.Ordered :=
  closeAlternation_ordered stop (Tree.ordered_ofParts h.parts) h.frames

/-- A group that is closed is a part of what was put aside. -/
theorem closeGroup (h : s.Ordered) (hnext : s.closeGroup = .ok s') : s'.Ordered := by
  obtain ⟨hbody, hframes⟩ := h.close s.cursor.offset
  unfold State.closeGroup at hnext
  simp only at hnext
  split at hnext
  · next before start span kind ignoresBlanks frames heq =>
    cases hnext
    rw [heq, List.forall_mem_cons] at hframes
    exact ⟨hframes.2, List.forall_mem_cons.2 ⟨hbody, hframes.1⟩⟩
  · cases hnext

/-- A further branch puts the one before it aside. -/
theorem nextBranch (h : s.Ordered) : s.nextBranch.Ordered := by
  have hbranch := @Tree.ordered_ofParts ⟨s.start, s.cursor.offset⟩ _ h.parts
  refine ⟨?_, nofun⟩
  have hframes := h.frames
  unfold State.nextBranch
  simp only
  split
  · next start branches frames heq =>
    rw [heq, List.forall_mem_cons] at hframes
    exact List.forall_mem_cons.2 ⟨List.forall_mem_cons.2 ⟨hbranch, hframes.1⟩, hframes.2⟩
  · exact List.forall_mem_cons.2 ⟨List.forall_mem_singleton.2 hbranch, hframes⟩

/-- **A step keeps the bounds in order.** -/
theorem next (h : s.Ordered) {char : Char} (hnext : s.next char = .ok s') : s'.Ordered := by
  have hopen : ∀ min, Repetition.Ordered ⟨min, none⟩ := fun _ => nofun
  have hoptional : Repetition.Ordered ⟨0, some 1⟩ := fun _ _ => Nat.zero_le _
  unfold State.next at hnext
  refine of_ite_eq_ok hnext h.openGroup fun hnext => ?_
  refine of_ite_eq_ok hnext h.closeGroup fun hnext => ?_
  refine of_ite_eq_ok hnext (fun hbranch => ?_) fun hnext => ?_
  · cases hbranch
    exact h.nextBranch
  refine of_ite_eq_ok hnext (fun hbracket => ?_) fun hnext => ?_
  · obtain ⟨⟨tree, behind⟩, hbracket, hadd⟩ := exists_of_bind_eq_ok hbracket
    obtain ⟨_, -, hloop⟩ := exists_of_bind_eq_ok hbracket
    cases hadd
    exact h.add (ordered_of_bracketLoop hloop) behind
  refine of_ite_eq_ok hnext (h.repeat hoptional) fun hnext => ?_
  refine of_ite_eq_ok hnext (h.repeat (hopen 0)) fun hnext => ?_
  refine of_ite_eq_ok hnext (h.repeat (hopen 1)) fun hnext => ?_
  refine of_ite_eq_ok hnext h.repeatCounted fun hnext => ?_
  refine of_ite_eq_ok hnext (fun hescape => ?_) fun hnext => ?_
  · obtain ⟨⟨found, behind⟩, -, hadd⟩ := exists_of_bind_eq_ok hescape
    cases hadd
    exact h.add found.ordered_toTree behind
  -- What is left is read as it stands.
  split_ifs at hnext <;> cases hnext <;> exact h.add (by trivial) _

/-- **At the end** the tree is put together from parts in order. -/
theorem finish (h : s.Ordered) {tree : Tree} (hfinish : s.finish = .ok tree) : tree.Ordered := by
  have hbody := (h.close s.cursor.offset).1
  unfold State.finish at hfinish
  simp only at hfinish
  split at hfinish
  · cases hfinish
  · cases hfinish
    exact hbody

/-- **Whatever is read is in order**, since every step keeps the parts in order. -/
theorem run (h : s.Ordered) {fuel : Nat} {tree : Tree} (hrun : State.run fuel s = .ok tree) :
    tree.Ordered := by
  induction fuel generalizing s with
  | zero => exact h.finish hrun
  | succ fuel ih =>
    have hskipped : State.Ordered { s with cursor := s.cursor.skipBlanks } := ⟨h.frames, h.parts⟩
    rw [State.run] at hrun
    simp only at hrun
    split at hrun
    · exact hskipped.finish hrun
    · obtain ⟨s', hnext, hrun⟩ := exists_of_bind_eq_ok hrun
      exact ih (hskipped.next hnext) hrun

end State.Ordered

/-- **In the tree of a pattern** all bounds are in order. -/
theorem Tree.ordered_read {pattern : List Char} {tree : Tree} (h : Tree.read pattern = .ok tree) :
    tree.Ordered :=
  State.Ordered.run ⟨List.forall_mem_nil _, List.forall_mem_nil _⟩ h

/-! ### Meaning -/

namespace Regex

/-- A sequence is in order if its parts are. -/
theorem ordered_append {r s : Regex} (hr : r.Ordered) (hs : s.Ordered) : (r.append s).Ordered := by
  unfold append
  split
  · exact hs
  · exact hr
  · exact ⟨hr, hs⟩

theorem ordered_sequence {rs : List Regex} (h : ∀ r ∈ rs, r.Ordered) : (sequence rs).Ordered := by
  induction rs with
  | nil => trivial
  | cons r rs ih =>
    rw [List.forall_mem_cons] at h
    exact ordered_append h.1 (ih h.2)

/-- So is a choice. -/
theorem ordered_alternatives {r : Regex} {rs : List Regex} (hr : r.Ordered)
    (h : ∀ s ∈ rs, s.Ordered) : (alternatives r rs).Ordered := by
  induction rs generalizing r with
  | nil => exact hr
  | cons s rs ih =>
    rw [List.forall_mem_cons] at h
    exact ⟨hr, ih h.1 h.2⟩

theorem ordered_choice {rs : List Regex} (h : ∀ r ∈ rs, r.Ordered) : (choice rs).Ordered := by
  unfold choice
  split
  · trivial
  · split
    · trivial
    · exact ordered_alternatives (h _ List.mem_cons_self) fun s hs =>
        h s (List.mem_cons_of_mem _ hs)

/-- **A repetition is in order** if its bounds are; that of an empty expression is cut down to
one copy at most. -/
theorem ordered_repeated {body : Regex} {count : Repetition} (hbody : body.Ordered)
    (hcount : count.Ordered) : (repeated body count.min count.max).Ordered := by
  obtain ⟨least, most, heq, hle⟩ : ∃ least most, (if body.onlyEmpty then
      (min count.min 1, some (min (count.max.getD 1) 1)) else (count.min, count.max)) =
        (least, most) ∧ ∀ m, most = some m → least ≤ m := by
    split_ifs
    · refine ⟨_, _, rfl, fun m hm => ?_⟩
      cases hm
      cases hmax : count.max with
      | none => exact Nat.min_le_right _ _
      | some max =>
        have hle := hcount max hmax
        simp only [Option.getD_some]
        omega
    · exact ⟨_, _, rfl, hcount⟩
  simp only [repeated, heq]
  split_ifs
  · trivial
  · exact hbody
  · exact ⟨hbody, hle⟩

end Regex

mutual

/-- **What a tree in order means is in order.** -/
theorem Tree.ordered_meaning (flags : Flags) : ∀ {tree : Tree} {result : Regex × Flags},
    tree.Ordered → tree.meaning flags = .ok result → result.1.Ordered
  | .empty _, _, _, h | .setFlags _ _, _, _, h | .assertion _ _, _, _, h => by
    cases h
    trivial
  | .literal _ _ _, _, _, h | .property _ _ _, _, _, h | .letter _ _ _, _, _, h => by
    obtain ⟨_, -, h⟩ := exists_of_bind_eq_ok h
    cases h
    trivial
  | .bracketed _ _ _, _, _, h => by
    obtain ⟨_, -, h⟩ := exists_of_bind_eq_ok h
    obtain ⟨_, -, h⟩ := exists_of_bind_eq_ok h
    cases h
    trivial
  | .dot _, _, _, h => by
    rw [Tree.meaning] at h
    split_ifs at h
    cases h
    trivial
  | .repetition _ count _ body, _, hordered, h => by
    obtain ⟨⟨r, after⟩, hbody, h⟩ := exists_of_bind_eq_ok h
    cases h
    exact Regex.ordered_repeated (ordered_meaning flags hordered.2 hbody) hordered.1
  | .group _ kind body, _, hordered, h => by
    obtain ⟨⟨r, after⟩, hbody, h⟩ := exists_of_bind_eq_ok h
    have hr := ordered_meaning _ (show body.Ordered from hordered) hbody
    cases h
    cases kind <;> exact hr
  | .alternation _ branches, _, hordered, h => by
    obtain ⟨⟨rs, after⟩, hbranches, h⟩ := exists_of_bind_eq_ok h
    cases h
    exact Regex.ordered_choice (ordered_meanings flags hordered hbranches)
  | .concat _ parts, _, hordered, h => by
    obtain ⟨⟨rs, after⟩, hparts, h⟩ := exists_of_bind_eq_ok h
    cases h
    exact Regex.ordered_sequence (ordered_meanings flags hordered hparts)

/-- The same for the parts of a sequence. -/
theorem Tree.ordered_meanings (flags : Flags) : ∀ {trees : List Tree}
    {results : List Regex × Flags}, Tree.AllOrdered trees →
      Tree.meanings flags trees = .ok results → ∀ r ∈ results.1, r.Ordered
  | [], _, _, h => by
    cases h
    exact nofun
  | tree :: trees, _, hordered, h => by
    obtain ⟨⟨r, after⟩, htree, h⟩ := exists_of_bind_eq_ok h
    obtain ⟨⟨rs, final⟩, htrees, h⟩ := exists_of_bind_eq_ok h
    cases h
    exact List.forall_mem_cons.2 ⟨ordered_meaning flags hordered.1 htree,
      ordered_meanings after hordered.2 htrees⟩

end

/-! ### Whole patterns -/

/-- **The expression of a pattern** is the meaning of its tree, which is not too deep. -/
theorem expression_eq_ok_iff {ignoreCase : Bool} {pattern : String} {r : Regex} :
    expression ignoreCase pattern = .ok r ↔
      ∃ tree after, Tree.read pattern.toList = .ok tree ∧ tree.tooDeep? nestLimit = none ∧
        tree.meaning { ignoreCase := ignoreCase } = .ok (r, after) := by
  constructor
  · intro h
    obtain ⟨tree, hparse, h⟩ := exists_of_bind_eq_ok h
    obtain ⟨⟨r', after⟩, hmeaning, h⟩ := exists_of_bind_eq_ok h
    obtain ⟨tree', hread, hdepth⟩ := exists_of_bind_eq_ok hparse
    cases h
    split at hdepth
    · cases hdepth
    next hnone =>
    cases hdepth
    exact ⟨tree, after, hread, hnone, hmeaning⟩
  · rintro ⟨tree, after, hread, hdepth, hmeaning⟩
    have hparse : Tree.parse pattern.toList = .ok tree := by
      simp only [Tree.parse, hread, bind, Except.bind, hdepth]
    simp only [expression, hparse, bind, Except.bind, hmeaning]

/-- **The bounds of an expression** are in order. -/
theorem ordered_of_expression {ignoreCase : Bool} {pattern : String} {r : Regex}
    (h : expression ignoreCase pattern = .ok r) : r.Ordered := by
  obtain ⟨tree, after, hread, -, hmeaning⟩ := expression_eq_ok_iff.1 h
  exact Tree.ordered_meaning _ (Tree.ordered_read hread) hmeaning

/-- **What a pattern compiles to**: its expression, if the engine allows its size. -/
theorem compile_eq_ok_iff [SizeTest] {ignoreCase : Bool} {pattern : String} {r : Regex} :
    compile ignoreCase pattern = .ok r ↔
      expression ignoreCase pattern = .ok r ∧ SizeTest.allows ignoreCase pattern = true := by
  unfold compile
  cases expression ignoreCase pattern with
  | error fault => simp
  | ok r' => by_cases hsize : SizeTest.allows ignoreCase pattern = true <;> simp [hsize]

end ColumnChecks.Pattern
