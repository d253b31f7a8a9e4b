import ColumnChecks.Proofs.Pattern.Brackets
import ColumnChecks.Proofs.Pattern.Groups

/-!
# Following the reader

The reader of patterns keeps what it has read in a stack, and **a construct that was
read stays in the tree** to the end: it is moved, wrapped and reversed, but never
dropped (`ColumnChecks.Pattern.State.constructs_of_next`). As long as there is none,
the scan of the text goes through the same steps
(`ColumnChecks.Pattern.State.followed_next`). Together this decides by the text alone
whether a pattern has a construct (`ColumnChecks.Pattern.Tree.constructs_read`).
-/

namespace ColumnChecks.Pattern

/-! ### The stack -/

theorem Tree.constructsOf_eq_nil_iff {parts : List Tree} :
    Tree.constructsOf parts = [] ↔ ∀ part ∈ parts, part.constructs = [] := by
  induction parts with
  | nil => simp [Tree.constructsOf]
  | cons part parts ih => simp [Tree.constructsOf, ih]

theorem Tree.constructs_ofParts {span : Span} {parts : List Tree} :
    (Tree.ofParts span parts).constructs = [] ↔ Tree.constructsOf parts = [] := by
  rcases parts with _ | ⟨part, _ | ⟨part', parts⟩⟩
  · simp [Tree.ofParts, Tree.constructs, Tree.constructsOf]
  · simp [Tree.ofParts, Tree.constructsOf]
  · rw [Tree.ofParts, Tree.constructs, Tree.constructsOf_eq_nil_iff,
      Tree.constructsOf_eq_nil_iff]
    · simp only [List.mem_reverse]
    · rintro ⟨⟩
    · rintro _ ⟨⟩

def Frame.constructs : Frame → List Construct
  | .group before _ _ kind _ => kind.constructs ++ Tree.constructsOf before
  | .alternation _ branches => Tree.constructsOf branches

/-- **The constructs read so far.** -/
def State.constructs (s : State) : List Construct :=
  s.frames.flatMap Frame.constructs ++ Tree.constructsOf s.parts

/-- Around a group blanks are not ignored. -/
def Frame.keepsBlanks : Frame → Prop
  | .group _ _ _ _ ignoresBlanks => ignoresBlanks = false
  | .alternation _ _ => True

theorem closeAlternation_constructs {branch : Tree} {stop : Nat} {frames : List Frame} :
    (closeAlternation branch stop frames).1.constructs = [] ∧
        (closeAlternation branch stop frames).2.flatMap Frame.constructs = [] ↔
      branch.constructs = [] ∧ frames.flatMap Frame.constructs = [] := by
  unfold closeAlternation
  split
  · simp only [Tree.constructs, Tree.constructsOf_eq_nil_iff, List.mem_append, List.mem_reverse,
      List.mem_singleton, List.flatMap_cons, Frame.constructs, List.append_eq_nil_iff]
    constructor
    · rintro ⟨hall, hframes⟩
      exact ⟨hall _ (Or.inr rfl), fun part hpart => hall part (Or.inl hpart), hframes⟩
    · rintro ⟨hbranch, hall, hframes⟩
      refine ⟨?_, hframes⟩
      rintro part (hpart | rfl)
      · exact hall part hpart
      · exact hbranch
  · rfl

theorem closeAlternation_keepsBlanks (branch : Tree) (stop : Nat) {frames : List Frame}
    (h : ∀ f ∈ frames, f.keepsBlanks) :
    ∀ f ∈ (closeAlternation branch stop frames).2, f.keepsBlanks := by
  unfold closeAlternation
  split
  · exact fun f hf => h f (List.mem_cons_of_mem _ hf)
  · exact h

/-- The branches of an alternation are closed before another one is opened. -/
def WellStacked : List Frame → Prop
  | [] => True
  | .group _ _ _ _ _ :: frames => WellStacked frames
  | .alternation _ _ :: frames =>
    (∀ start branches more, frames ≠ .alternation start branches :: more) ∧ WellStacked frames

theorem closeAlternation_wellStacked (branch : Tree) (stop : Nat) {frames : List Frame}
    (h : WellStacked frames) :
    WellStacked (closeAlternation branch stop frames).2 ∧ ∀ start branches more,
      (closeAlternation branch stop frames).2 ≠ .alternation start branches :: more := by
  unfold closeAlternation
  split
  · exact ⟨h.2, h.1⟩
  · next hother =>
    refine ⟨h, fun start branches more heq => ?_⟩
    exact hother start branches more heq

namespace State

variable {s s' : State}

theorem constructs_eq_nil_iff :
    s.constructs = [] ↔
      s.frames.flatMap Frame.constructs = [] ∧ Tree.constructsOf s.parts = [] :=
  List.append_eq_nil_iff

theorem constructs_add {part : Tree} {behind : Cursor} :
    (s.add part behind).constructs = [] ↔ part.constructs = [] ∧ s.constructs = [] := by
  rw [constructs_eq_nil_iff, constructs_eq_nil_iff, State.add, Tree.constructsOf,
    List.append_eq_nil_iff]
  tauto

/-- What closing the alternation at the top does to the constructs. -/
theorem constructs_close (s : State) (stop : Nat) :
    (closeAlternation (.ofParts ⟨s.start, stop⟩ s.parts) stop s.frames).1.constructs = [] ∧
        (closeAlternation (.ofParts ⟨s.start, stop⟩ s.parts) stop s.frames).2.flatMap
          Frame.constructs = [] ↔
      s.constructs = [] := by
  rw [closeAlternation_constructs, Tree.constructs_ofParts, constructs_eq_nil_iff, and_comm]

theorem constructs_finish {tree : Tree} (hstacked : WellStacked s.frames)
    (h : s.finish = .ok tree) : tree.constructs = [] ↔ s.constructs = [] := by
  rw [← constructs_close s s.cursor.offset]
  unfold State.finish at h
  simp only at h
  split at h
  · cases h
  · next hgroup =>
    cases h
    -- What is left of the stack is empty, since neither a group nor an alternation is open.
    have hempty : (closeAlternation (.ofParts ⟨s.start, s.cursor.offset⟩ s.parts)
        s.cursor.offset s.frames).2 = [] := by
      obtain ⟨-, halternation⟩ := closeAlternation_wellStacked
        (.ofParts ⟨s.start, s.cursor.offset⟩ s.parts) s.cursor.offset hstacked
      match hframes : (closeAlternation (.ofParts ⟨s.start, s.cursor.offset⟩ s.parts)
          s.cursor.offset s.frames).2 with
      | [] => rfl
      | .group _ _ _ _ _ :: _ => exact (hgroup _ _ _ _ _ _ hframes).elim
      | .alternation _ _ :: _ => exact absurd hframes (halternation _ _ _)
    rw [hempty]
    exact (and_iff_left rfl).symm

/-! ### One step -/

/-- A repetition changes one part, and takes the sign of a lazy one. -/
theorem repeat_spec {count : Repetition} {behind : Cursor} (h : s.repeat count behind = .ok s') :
    (s'.constructs = [] ↔ s.constructs = []) ∧ s'.frames = s.frames ∧
      s'.cursor = if behind.char? = some '?' then behind.advance else behind := by
  unfold State.repeat at h
  split at h
  · next part parts hparts =>
    split at h
    · cases h
      refine ⟨?_, rfl, by simp⟩
      rw [constructs_eq_nil_iff, constructs_eq_nil_iff, hparts]
      rfl
    · cases h
  · cases h

theorem nextBranch_spec :
    (s.nextBranch.constructs = [] ↔ s.constructs = []) ∧
      (WellStacked s.frames → WellStacked s.nextBranch.frames) ∧
      ((∀ f ∈ s.frames, f.keepsBlanks) → ∀ f ∈ s.nextBranch.frames, f.keepsBlanks) ∧
      s.nextBranch.cursor = s.cursor.advance := by
  rw [constructs_eq_nil_iff, constructs_eq_nil_iff, State.nextBranch]
  simp only
  split
  · next start branches frames heq =>
    rw [heq]
    refine ⟨?_, id, fun h f hf => ?_, trivial⟩
    · simp only [List.flatMap_cons, Frame.constructs, Tree.constructsOf, List.append_eq_nil_iff,
        Tree.constructs_ofParts]
      tauto
    · rcases List.mem_cons.1 hf with rfl | hf
      · trivial
      · exact h f (List.mem_cons_of_mem _ hf)
  · next hother =>
    refine ⟨?_, fun h => ⟨fun start branches more heq => hother start branches more heq, h⟩,
      fun h f hf => ?_, trivial⟩
    · simp only [List.flatMap_cons, Frame.constructs, Tree.constructsOf, List.append_eq_nil_iff,
        Tree.constructs_ofParts]
      tauto
    · rcases List.mem_cons.1 hf with rfl | hf
      · trivial
      · exact h f hf

theorem closeGroup_spec (h : s.closeGroup = .ok s') :
    (s'.constructs = [] ↔ s.constructs = []) ∧
      (WellStacked s.frames → WellStacked s'.frames) ∧
      ((∀ f ∈ s.frames, f.keepsBlanks) → (∀ f ∈ s'.frames, f.keepsBlanks) ∧
        s'.cursor = { s.cursor.advance with ignoresBlanks := false }) := by
  rw [← constructs_close s s.cursor.offset]
  unfold State.closeGroup at h
  simp only at h
  split at h
  · next before start span kind ignoresBlanks frames heq =>
    cases h
    rw [heq]
    refine ⟨?_, fun hstacked => ?_, fun hkeeps => ?_⟩
    · rw [constructs_eq_nil_iff]
      simp only [List.flatMap_cons, Frame.constructs, Tree.constructsOf, Tree.constructs,
        List.append_eq_nil_iff]
      tauto
    · have hframes := (closeAlternation_wellStacked (.ofParts ⟨s.start, s.cursor.offset⟩ s.parts)
        s.cursor.offset hstacked).1
      rw [heq] at hframes
      exact hframes
    · have hall := closeAlternation_keepsBlanks (.ofParts ⟨s.start, s.cursor.offset⟩ s.parts)
        s.cursor.offset hkeeps
      rw [heq, List.forall_mem_cons] at hall
      have hignores : ignoresBlanks = false := hall.1
      rw [hignores]
      exact ⟨hall.2, rfl⟩
  · cases h

/-- Counting leaves the constructs alone, and what is behind the braces is next. -/
theorem repeatCounted_spec (h : s.repeatCounted = .ok s') :
    (s'.constructs = [] ↔ s.constructs = []) ∧ s'.frames = s.frames ∧
      ∃ count behind, counts s.cursor = .ok (count, behind) ∧
        s'.cursor = if behind.step.char? = some '?' then behind.step.advance else behind.step := by
  unfold State.repeatCounted at h
  simp only at h
  split at h
  · split at h
    · cases h
    obtain ⟨⟨count, behind⟩, hcounts, h⟩ := exists_of_bind_eq_ok h
    obtain ⟨repeated, hrepeat, h⟩ := exists_of_bind_eq_ok h
    obtain ⟨hconstructs, hframes, hcursor⟩ := repeat_spec hrepeat
    have heq : s' = repeated := by
      split at h
      · split at h
        · cases h
        · cases h
          rfl
      · cases h
        rfl
    rw [heq]
    exact ⟨hconstructs, hframes, count, behind, hcounts, hcursor⟩
  · cases h

/-- An opening parenthesis adds what it brings. -/
theorem openGroup_spec (h : s.openGroup = .ok s') :
    ∃ found names behind, opening s.names s.cursor = .ok (found, names, behind) ∧
      (s'.constructs = [] ↔ ¬found.IsConstruct ∧ s.constructs = []) ∧
      (WellStacked s.frames → WellStacked s'.frames) ∧
      (found = .group .capture ∨ found = .group (.flags []) →
        (∀ f ∈ s.frames, f.keepsBlanks) → s.cursor.ignoresBlanks = false →
          (∀ f ∈ s'.frames, f.keepsBlanks) ∧
            s'.cursor = { behind with ignoresBlanks := false }) := by
  obtain ⟨⟨found, names, behind⟩, hopening, h⟩ := exists_of_bind_eq_ok h
  refine ⟨found, names, behind, hopening, ?_⟩
  cases found with
  | flags items =>
    cases h
    refine ⟨?_, id, ?_⟩
    · rw [constructs_eq_nil_iff]
      simp [Opening.IsConstruct, Tree.constructsOf, Tree.constructs]
    · rintro (hfound | hfound) <;> cases hfound
  | group kind =>
    cases h
    refine ⟨?_, id, ?_⟩
    · rw [constructs_eq_nil_iff, constructs_eq_nil_iff]
      simp only [Opening.IsConstruct, List.flatMap_cons, Frame.constructs, Tree.constructsOf,
        List.append_eq_nil_iff]
      tauto
    · intro hfound hkeeps hignores
      refine ⟨List.forall_mem_cons.2 ⟨hignores, hkeeps⟩, ?_⟩
      rcases hfound with hfound | hfound
      · cases hfound
        simp only [hignores]
      · cases hfound
        simp only [hignores]
        rfl

/-- **What one step can do**, by the character it starts with. -/
inductive Moves (s : State) : Char → State → Prop
  | group {s' : State} : s.openGroup = .ok s' → Moves s '(' s'
  | groupEnd {s' : State} : s.closeGroup = .ok s' → Moves s ')' s'
  | branch : Moves s '|' s.nextBranch
  | brackets {tree : Tree} {behind : Cursor} :
    bracket s.cursor = .ok (tree, behind) → Moves s '[' (s.add tree behind)
  | repetition {char : Char} {count : Repetition} {s' : State} : isDull char = true →
    s.repeat count s.cursor.advance = .ok s' → Moves s char s'
  | counted {s' : State} : s.repeatCounted = .ok s' → Moves s '\x7b' s'
  | escaped {found : Escape} {behind : Cursor} :
    escape s.cursor = .ok (found, behind) → Moves s '\\' (s.add found.toTree behind)
  | part {char : Char} {tree : Tree} : isDull char = true → tree.constructs = [] →
    Moves s char (s.add tree s.cursor.advance)

theorem moves_of_next {char : Char} (h : s.next char = .ok s') : s.Moves char s' := by
  unfold State.next at h
  by_cases hgroup : char = '('
  · rw [if_pos hgroup] at h
    exact hgroup ▸ .group h
  rw [if_neg hgroup] at h
  by_cases hend : char = ')'
  · rw [if_pos hend] at h
    exact hend ▸ .groupEnd h
  rw [if_neg hend] at h
  by_cases hbranch : char = '|'
  · rw [if_pos hbranch] at h
    cases h
    exact hbranch ▸ .branch
  rw [if_neg hbranch] at h
  by_cases hbracket : char = '['
  · rw [if_pos hbracket] at h
    obtain ⟨⟨tree, behind⟩, hbracket', h⟩ := exists_of_bind_eq_ok h
    cases h
    exact hbracket ▸ .brackets hbracket'
  rw [if_neg hbracket] at h
  by_cases hoptional : char = '?'
  · rw [if_pos hoptional] at h
    exact .repetition (hoptional ▸ by decide) h
  rw [if_neg hoptional] at h
  by_cases hstar : char = '*'
  · rw [if_pos hstar] at h
    exact .repetition (hstar ▸ by decide) h
  rw [if_neg hstar] at h
  by_cases hplus : char = '+'
  · rw [if_pos hplus] at h
    exact .repetition (hplus ▸ by decide) h
  rw [if_neg hplus] at h
  by_cases hbrace : char = '\x7b'
  · rw [if_pos hbrace] at h
    exact hbrace ▸ .counted h
  rw [if_neg hbrace] at h
  by_cases hescape : char = '\\'
  · rw [if_pos hescape] at h
    obtain ⟨⟨found, behind⟩, hescape', h⟩ := exists_of_bind_eq_ok h
    cases h
    exact hescape ▸ .escaped hescape'
  rw [if_neg hescape] at h
  -- What is left is read as it stands.
  have hdull : isDull char = true := by
    rw [isDull, Bool.and_eq_true, Bool.and_eq_true, bne_iff_ne, bne_iff_ne, bne_iff_ne]
    exact ⟨⟨hescape, hbracket⟩, hgroup⟩
  split_ifs at h <;> cases h <;> exact .part hdull rfl

/-- **A construct that was read stays**, and the stack stays in order. -/
theorem constructs_of_next {char : Char} (h : s.next char = .ok s') :
    (s'.constructs = [] → s.constructs = []) ∧ (WellStacked s.frames → WellStacked s'.frames) := by
  cases moves_of_next h with
  | group hgroup =>
    obtain ⟨found, names, behind, -, hconstructs, hstacked, -⟩ := openGroup_spec hgroup
    exact ⟨fun h => (hconstructs.1 h).2, hstacked⟩
  | groupEnd hend =>
    obtain ⟨hconstructs, hstacked, -⟩ := closeGroup_spec hend
    exact ⟨hconstructs.1, hstacked⟩
  | branch => exact ⟨nextBranch_spec.1.1, nextBranch_spec.2.1⟩
  | brackets | escaped | part => exact ⟨fun h => (constructs_add.1 h).2, id⟩
  | repetition hdull hrepeat =>
    obtain ⟨hconstructs, hframes, -⟩ := repeat_spec hrepeat
    exact ⟨hconstructs.1, fun h => hframes ▸ h⟩
  | counted hcounted =>
    obtain ⟨hconstructs, hframes, -⟩ := repeatCounted_spec hcounted
    exact ⟨hconstructs.1, fun h => hframes ▸ h⟩

/-! ### The scan and the reader -/

/-- The sign of a lazy repetition is passed. -/
theorem passes_lazy {c : Cursor} {rest : List Char} (hc : c.At rest) :
    Passes rest (if c.char? = some '?' then c.advance else c) := by
  split_ifs with hsign
  · rw [hc.char?_eq] at hsign
    obtain ⟨more, rfl⟩ := List.head?_eq_some_iff.1 hsign
    exact .of_advance (by decide) hc
  · exact .refl hc

/-- Going on behind a character, and what is passed after it. -/
theorem followed_of_passes {constructs : List Construct} {char : Char} {rest : List Char}
    {behind : Cursor} (hnil : constructs = []) (h : Passes rest behind)
    (hchar : firstConstruct? true false (char :: rest) = firstConstruct? true false rest) :
    Followed constructs false (char :: rest) behind := by
  obtain ⟨more, hmore, hlength, hscan⟩ := h.firstConstruct?_eq true
  exact Or.inl ⟨hnil, more, hmore, Nat.lt_succ_of_le hlength, hchar.trans hscan⟩

theorem openGroup_followed {rest : List Char} (hs : s.constructs = [])
    (hkeeps : ∀ f ∈ s.frames, f.keepsBlanks) (hc : s.cursor.At ('(' :: rest))
    (h : s.openGroup = .ok s') :
    Followed s'.constructs false ('(' :: rest) s'.cursor ∧
      (s'.constructs = [] → ∀ f ∈ s'.frames, f.keepsBlanks) := by
  have hscan := firstConstruct?_parenthesis true rest
  obtain ⟨found, names, behind, hopening, hconstructs, -, hplain⟩ := openGroup_spec h
  obtain ⟨hnone, hfound⟩ | ⟨hsome, hconstruct⟩ := opening_at hc hopening
  · rw [hnone, Option.none_or] at hscan
    obtain ⟨hframes, hcursor⟩ := hplain (hfound.imp And.left And.left) hkeeps hc.2
    have hnil : s'.constructs = [] := by
      refine hconstructs.2 ⟨?_, hs⟩
      rcases hfound with ⟨rfl, -⟩ | ⟨rfl, -⟩ <;> exact fun h => h rfl
    refine ⟨followed_of_passes hnil ?_ hscan, fun _ => hframes⟩
    rw [hcursor]
    obtain ⟨-, hbehind⟩ | ⟨-, more, rfl, hbehind⟩ := hfound
    · exact .refl ⟨hbehind.1, rfl⟩
    · exact ⟨['?', ':'], more, rfl, List.all_eq_true.1 rfl, hbehind.1, rfl⟩
  · refine ⟨.of_ne (fun hnil => (hconstructs.1 hnil).1 hconstruct) ?_,
      fun hnil => absurd hconstruct (hconstructs.1 hnil).1⟩
    rw [hscan, Ne, Option.or_eq_none_iff]
    exact fun h => hsome h.1

/-- **The scan follows each step** of the reader. -/
theorem followed_next {char : Char} {rest : List Char} (hs : s.constructs = [])
    (hkeeps : ∀ f ∈ s.frames, f.keepsBlanks) (hc : s.cursor.At (char :: rest))
    (h : s.next char = .ok s') :
    Followed s'.constructs false (char :: rest) s'.cursor ∧
      (s'.constructs = [] → ∀ f ∈ s'.frames, f.keepsBlanks) := by
  -- Either what was read is a construct, and the scan finds one in it as well, or the scan
  -- passes what was read and goes on where the reader does.
  cases moves_of_next h with
  | group hgroup => exact openGroup_followed hs hkeeps hc hgroup
  | groupEnd hend =>
    obtain ⟨hconstructs, -, hframes⟩ := closeGroup_spec hend
    obtain ⟨hframes, hcursor⟩ := hframes hkeeps
    refine ⟨followed_of_passes (hconstructs.2 hs) ?_ (firstConstruct?_of_isDull (by decide) _),
      fun _ => hframes⟩
    rw [hcursor]
    exact .refl ⟨hc.advance.1, rfl⟩
  | branch =>
    obtain ⟨hconstructs, -, hframes, hcursor⟩ := nextBranch_spec (s := s)
    refine ⟨followed_of_passes (hconstructs.2 hs) ?_ (firstConstruct?_of_isDull (by decide) _),
      fun _ => hframes hkeeps⟩
    rw [hcursor]
    exact .refl hc.advance
  | brackets hbracket =>
    refine ⟨?_, fun _ => hkeeps⟩
    have hfollowed := bracket_followed hc hbracket
    refine hfollowed.imp (fun ⟨hnil, hrest⟩ => ⟨constructs_add.2 ⟨hnil, hs⟩, hrest⟩)
      (fun ⟨hne, hfound⟩ => ⟨fun hnil => hne (constructs_add.1 hnil).1, hfound⟩)
  | repetition hdull hrepeat =>
    obtain ⟨hconstructs, hframes, hcursor⟩ := repeat_spec hrepeat
    refine ⟨followed_of_passes (hconstructs.2 hs) ?_ (firstConstruct?_of_isDull hdull _),
      fun _ => hframes ▸ hkeeps⟩
    rw [hcursor]
    exact passes_lazy hc.advance
  | counted hcounted =>
    obtain ⟨hconstructs, hframes, count, behind, hcounts, hcursor⟩ := repeatCounted_spec hcounted
    refine ⟨followed_of_passes (hconstructs.2 hs) ?_ (firstConstruct?_of_isDull (by decide) _),
      fun _ => hframes ▸ hkeeps⟩
    rw [hcursor]
    exact (passes_counts hc hcounts).trans fun more hmore => passes_lazy hmore
  | escaped hescape =>
    refine ⟨?_, fun _ => hkeeps⟩
    have hscan := firstConstruct?_backslash true rest
    rcases escape_inStep hc hescape with ⟨hnil, hnone, hbehind⟩ | ⟨hne, hsome⟩
    · refine Or.inl ⟨constructs_add.2 ⟨hnil, hs⟩, _, hbehind, ?_, ?_⟩
      · rw [List.length_drop, List.length_cons]
        omega
      · rw [hscan, hnone, Option.none_or]
    · refine .of_ne (fun hnil => hne (constructs_add.1 hnil).1) ?_
      rw [hscan, Ne, Option.or_eq_none_iff]
      exact fun h => hsome h.1
  | part hdull htree =>
    refine ⟨followed_of_passes (constructs_add.2 ⟨htree, hs⟩) ?_
      (firstConstruct?_of_isDull hdull _), fun _ => hkeeps⟩
    exact .refl hc.advance

/-! ### Whole runs -/

/-- What has been read is in the tree. -/
theorem constructs_run {fuel : Nat} {tree : Tree} (hstacked : WellStacked s.frames)
    (h : s.run fuel = .ok tree) (htree : tree.constructs = []) : s.constructs = [] := by
  induction fuel generalizing s with
  | zero => exact (constructs_finish hstacked h).1 htree
  | succ fuel ih =>
    rw [State.run] at h
    simp only at h
    split at h
    · exact (constructs_finish (by exact hstacked) h).1 htree
    · obtain ⟨s', hnext, h⟩ := exists_of_bind_eq_ok h
      obtain ⟨hconstructs, hframes⟩ := constructs_of_next hnext
      exact hconstructs (ih (hframes hstacked) h)

/-- **The scan follows the reader to the end.** -/
theorem constructs_run_iff {fuel : Nat} {rest : List Char} {tree : Tree}
    (hstacked : WellStacked s.frames) (hs : s.constructs = [])
    (hkeeps : ∀ f ∈ s.frames, f.keepsBlanks) (hc : s.cursor.At rest) (hfuel : rest.length ≤ fuel)
    (h : s.run fuel = .ok tree) :
    tree.constructs = [] ↔ firstConstruct? true false rest = none := by
  induction fuel generalizing s rest with
  | zero =>
    obtain rfl : rest = [] := List.length_eq_zero_iff.1 (Nat.le_zero.1 hfuel)
    rw [constructs_finish hstacked h, firstConstruct?]
    exact iff_of_true hs rfl
  | succ fuel ih =>
    rw [State.run, hc.skipBlanks_eq] at h
    simp only [hc.char?_eq] at h
    cases rest with
    | nil =>
      rw [constructs_finish hstacked h, firstConstruct?]
      exact iff_of_true hs rfl
    | cons char rest =>
      obtain ⟨s', hnext, h⟩ := exists_of_bind_eq_ok h
      have hstacked' := (constructs_of_next hnext).2 hstacked
      obtain ⟨⟨hs', more, hmore, hlength, hscan⟩ | ⟨hs', hfound⟩, hframes⟩ :=
        followed_next hs hkeeps hc hnext
      · rw [hscan]
        refine ih hstacked' hs' (hframes hs') hmore ?_ h
        exact Nat.le_of_lt_succ (Nat.lt_of_lt_of_le hlength hfuel)
      · exact iff_of_false (fun htree => hs' (constructs_run hstacked' h htree)) hfound

end State

/-- **A pattern has a construct just if the scan of its text finds one.** -/
theorem Tree.constructs_read {pattern : List Char} {tree : Tree}
    (h : Tree.read pattern = .ok tree) :
    tree.constructs = [] ↔ firstConstruct? true false pattern = none := by
  unfold Tree.read at h
  refine State.constructs_run_iff ?_ ?_ ?_ ?_ (Nat.le_refl pattern.length) h
  · trivial
  · rfl
  · exact nofun
  · exact ⟨rfl, rfl⟩

theorem Tree.constructs_parse {pattern : List Char} {tree : Tree}
    (h : Tree.parse pattern = .ok tree) :
    tree.constructs = [] ↔ firstConstruct? true false pattern = none := by
  obtain ⟨found, hread, h⟩ := exists_of_bind_eq_ok h
  split at h
  · cases h
  · cases h
    exact Tree.constructs_read hread

end ColumnChecks.Pattern
