import Mathlib.Tactic.Common
import ColumnChecks.Pattern.Meaning
import ColumnChecks.Pattern.Parser
import ColumnChecks.Proofs.Results

/-!
# Patterns without their stretches

Each node of a tree knows the stretch of the text it was read from. The stretches are
for messages: what a pattern means and how deep it nests does not depend on them. A tree
is **bare** when its stretches are wiped out (`ColumnChecks.Pattern.Tree.bare`), and two
trees with one bare form differ in their places only.

**A tree means what its bare form means**: both have one meaning or neither has any
(`ColumnChecks.Pattern.Tree.sameResult_meaning`), and both exceed a depth or neither does
(`ColumnChecks.Pattern.Tree.isSome_tooDeep?_bare`). The reader puts trees together from
parts, and the bare form of the whole is made of the bare forms of the parts
(`ColumnChecks.Pattern.Tree.bare_ofParts`, `ColumnChecks.Pattern.ClassSet.bare_ofItems`).
-/

namespace ColumnChecks.Pattern

open Text

/-! ### Bare forms -/

/-- The stretch that stands for all of them. -/
def noSpan : Span := ⟨0, 0⟩

mutual

/-- The contents of a bracket expression without stretches. -/
def ClassSet.bare : ClassSet → ClassSet
  | .empty _ => .empty noSpan
  | .literal _ spelling char => .literal noSpan spelling char
  | .range _ low high => .range noSpan (noSpan, low.2) (noSpan, high.2)
  | .ascii _ kind negated => .ascii noSpan kind negated
  | .property _ negated query => .property noSpan negated query
  | .letter _ kind negated => .letter noSpan kind negated
  | .bracketed _ negated set => .bracketed noSpan negated set.bare
  | .union _ items => .union noSpan (ClassSet.bares items)
  | .binary _ op left right => .binary noSpan op left.bare right.bare

/-- Items without stretches. -/
def ClassSet.bares : List ClassSet → List ClassSet
  | [] => []
  | item :: items => item.bare :: ClassSet.bares items

end

mutual

/-- **A tree without stretches.** -/
def Tree.bare : Tree → Tree
  | .empty _ => .empty noSpan
  | .setFlags _ items => .setFlags noSpan items
  | .literal _ spelling char => .literal noSpan spelling char
  | .dot _ => .dot noSpan
  | .assertion _ kind => .assertion noSpan kind
  | .property _ negated query => .property noSpan negated query
  | .letter _ kind negated => .letter noSpan kind negated
  | .bracketed _ negated set => .bracketed noSpan negated set.bare
  | .repetition _ count greedy body => .repetition noSpan count greedy body.bare
  | .group _ kind body => .group noSpan kind body.bare
  | .alternation _ branches => .alternation noSpan (Tree.bares branches)
  | .concat _ parts => .concat noSpan (Tree.bares parts)

/-- Parts without stretches. -/
def Tree.bares : List Tree → List Tree
  | [] => []
  | part :: parts => part.bare :: Tree.bares parts

end

theorem ClassSet.bares_eq_map (items : List ClassSet) : bares items = items.map bare := by
  induction items with
  | nil => rfl
  | cons item items ih => rw [bares, ih, List.map_cons]

theorem Tree.bares_eq_map (parts : List Tree) : bares parts = parts.map bare := by
  induction parts with
  | nil => rfl
  | cons part parts ih => rw [bares, ih, List.map_cons]

/-- An escape sequence without its stretch. -/
def Escape.bare : Escape → Escape
  | .literal _ spelling char => .literal noSpan spelling char
  | .assertion _ kind => .assertion noSpan kind
  | .property _ negated query => .property noSpan negated query
  | .letter _ kind negated => .letter noSpan kind negated

/-- It does not matter when the stretch is taken off. -/
theorem Escape.bare_toTree (e : Escape) : e.toTree.bare = e.bare.toTree := by
  cases e <;> rfl

/-- The same escape sequence in another place. -/
def Escape.moved (span : Span) : Escape → Escape
  | .literal _ spelling char => .literal span spelling char
  | .assertion _ kind => .assertion span kind
  | .property _ negated query => .property span negated query
  | .letter _ kind negated => .letter span kind negated

/-- Escape sequences with one bare form differ in their places only. -/
theorem Escape.exists_moved {e other : Escape} (h : other.bare = e.bare) :
    ∃ span, other = e.moved span := by
  cases e <;> cases other <;> cases h <;> exact ⟨_, rfl⟩

/-! ### Putting trees together -/

/-- Items as a set without stretches; they are given last first. -/
def ClassSet.bareOf : List ClassSet → ClassSet
  | [] => .empty noSpan
  | [item] => item
  | items => .union noSpan items.reverse

/-- The items of a set alone say what set they make, up to its stretch. -/
theorem ClassSet.bare_ofItems (start : Nat) (items : List ClassSet) :
    (ClassSet.ofItems start items).bare = ClassSet.bareOf (items.map bare) := by
  match items with
  | [] => rfl
  | [item] => rfl
  | first :: second :: items =>
    rw [ClassSet.ofItems, ClassSet.bare, bares_eq_map, List.map_reverse, List.map_cons,
      List.map_cons, ClassSet.bareOf]
    all_goals simp

/-- Parts as a concatenation without stretches; they are given last first. -/
def Tree.bareOf : List Tree → Tree
  | [] => .empty noSpan
  | [part] => part
  | parts => .concat noSpan parts.reverse

/-- The parts of a sequence alone say what tree they make, up to its stretch. -/
theorem Tree.bare_ofParts (span : Span) (parts : List Tree) :
    (Tree.ofParts span parts).bare = Tree.bareOf (parts.map bare) := by
  match parts with
  | [] => rfl
  | [part] => rfl
  | first :: second :: parts =>
    rw [Tree.ofParts, Tree.bare, bares_eq_map, List.map_reverse, List.map_cons, List.map_cons,
      Tree.bareOf]
    all_goals simp

/-- Whether a tree may be repeated has nothing to do with where it stands. -/
theorem Tree.isRepeatable_bare (tree : Tree) : tree.bare.isRepeatable = tree.isRepeatable := by
  cases tree <;> rfl

/-! ### Depth -/

mutual

/-- Whether a set is too deep has nothing to do with where it stands; only the place that is
told has. -/
theorem ClassSet.isSome_tooDeep?_bare (limit : Nat) : ∀ set : ClassSet,
    (set.bare.tooDeep? limit).isSome = (set.tooDeep? limit).isSome
  | .empty _ | .literal _ _ _ | .range _ _ _ | .ascii _ _ _ | .property _ _ _
  | .letter _ _ _ => rfl
  | .bracketed _ _ set => by
    rw [ClassSet.bare, tooDeep?, tooDeep?]
    split_ifs
    · rfl
    · exact isSome_tooDeep?_bare (limit - 1) set
  | .union _ items => by
    rw [ClassSet.bare, tooDeep?, tooDeep?]
    split_ifs
    · rfl
    · exact isSome_anyTooDeep?_bares (limit - 1) items
  | .binary _ _ left right => by
    rw [ClassSet.bare, tooDeep?, tooDeep?]
    split_ifs
    · rfl
    · rw [Option.isSome_or, Option.isSome_or, isSome_tooDeep?_bare (limit - 1) left,
        isSome_tooDeep?_bare (limit - 1) right]

theorem ClassSet.isSome_anyTooDeep?_bares (limit : Nat) : ∀ items : List ClassSet,
    (ClassSet.anyTooDeep? limit (bares items)).isSome =
      (ClassSet.anyTooDeep? limit items).isSome
  | [] => rfl
  | item :: items => by
    rw [bares, anyTooDeep?, anyTooDeep?, Option.isSome_or, Option.isSome_or,
      isSome_tooDeep?_bare limit item, isSome_anyTooDeep?_bares limit items]

end

mutual

/-- **A tree is too deep** just if it is without its stretches. -/
theorem Tree.isSome_tooDeep?_bare (limit : Nat) : ∀ tree : Tree,
    (tree.bare.tooDeep? limit).isSome = (tree.tooDeep? limit).isSome
  | .empty _ | .setFlags _ _ | .literal _ _ _ | .dot _ | .assertion _ _ | .property _ _ _
  | .letter _ _ _ => rfl
  | .bracketed _ _ set => by
    rw [Tree.bare, tooDeep?, tooDeep?]
    split_ifs
    · rfl
    · exact set.isSome_tooDeep?_bare (limit - 1)
  | .repetition _ _ _ body | .group _ _ body => by
    rw [Tree.bare, tooDeep?, tooDeep?]
    split_ifs
    · rfl
    · exact isSome_tooDeep?_bare (limit - 1) body
  | .alternation _ parts | .concat _ parts => by
    rw [Tree.bare, tooDeep?, tooDeep?]
    split_ifs
    · rfl
    · exact isSome_anyTooDeep?_bares (limit - 1) parts

theorem Tree.isSome_anyTooDeep?_bares (limit : Nat) : ∀ parts : List Tree,
    (Tree.anyTooDeep? limit (bares parts)).isSome = (Tree.anyTooDeep? limit parts).isSome
  | [] => rfl
  | part :: parts => by
    rw [bares, anyTooDeep?, anyTooDeep?, Option.isSome_or, Option.isSome_or,
      isSome_tooDeep?_bare limit part, isSome_anyTooDeep?_bares limit parts]

end

/-! ### Meaning -/

section Results

variable {ε α β : Type}

/-- Two computations that succeed together, with one result. -/
def SameResult (x y : Except ε α) : Prop := ∀ a, x = .ok a ↔ y = .ok a

theorem SameResult.refl (x : Except ε α) : SameResult x x := fun _ => Iff.rfl

theorem SameResult.error (e e' : ε) : SameResult (.error e : Except ε α) (.error e') :=
  fun _ => ⟨nofun, nofun⟩

/-- Computations that agree in their results may be followed by others that do. -/
theorem SameResult.bind {x y : Except ε α} {f g : α → Except ε β} (h : SameResult x y)
    (hfg : ∀ a, SameResult (f a) (g a)) : SameResult (x >>= f) (y >>= g) := by
  intro b
  constructor
  · intro hx
    obtain ⟨a, ha, hf⟩ := exists_of_bind_eq_ok hx
    rw [(h a).1 ha]
    exact (hfg a b).1 hf
  · intro hy
    obtain ⟨a, ha, hg⟩ := exists_of_bind_eq_ok hy
    rw [(h a).2 ha]
    exact (hfg a b).2 hg

theorem SameResult.map {x y : Except ε α} (h : SameResult x y) (f : α → β) :
    SameResult (x >>= fun a => .ok (f a)) (y >>= fun a => .ok (f a)) :=
  h.bind fun _ => .refl _

end Results

namespace Flags

variable (flags : Flags) (span span' : Span)

/-- A set may be negated or not wherever it stands. -/
theorem sameResult_negate (negated : Bool) (s : CharSet) :
    SameResult (flags.negate span negated s) (flags.negate span' negated s) := by
  unfold negate
  split_ifs
  · exact .refl _
  · exact .error _ _
  · exact .refl _
  · exact .error _ _

/-- A property is known or unknown wherever it stands. -/
theorem sameResult_property (negated : Bool) (query : PropertyQuery) :
    SameResult (flags.property span negated query) (flags.property span' negated query) := by
  unfold property
  split_ifs
  · split
    · exact sameResult_negate flags span span' negated _
    · exact .error _ _
  · exact .error _ _

/-- A character is allowed or not wherever it stands. -/
theorem sameResult_scalar (spelling : Spelling) (char : Char) :
    SameResult (flags.scalar span spelling char) (flags.scalar span' spelling char) := by
  unfold scalar
  split_ifs
  · exact .error _ _
  · exact .refl _

/-- The same in brackets. -/
theorem sameResult_classScalar (spelling : Spelling) (char : Char) :
    SameResult (flags.classScalar span spelling char) (flags.classScalar span' spelling char) := by
  refine (sameResult_scalar flags span span' spelling char).bind fun c => ?_
  split_ifs
  · exact .error _ _
  · exact .refl _

end Flags

mutual

/-- The characters of a set do not depend on its stretches. -/
theorem ClassSet.sameResult_chars (flags : Flags) : ∀ set : ClassSet,
    SameResult (set.bare.chars flags) (set.chars flags)
  | .empty _ => .refl _
  | .literal span spelling char => (flags.sameResult_classScalar noSpan span spelling char).map _
  | .range _ low high =>
    (flags.sameResult_classScalar noSpan low.1 low.2.1 low.2.2).bind fun _ =>
      (flags.sameResult_classScalar noSpan high.1 high.2.1 high.2.2).map _
  | .ascii span _ negated => flags.sameResult_negate noSpan span negated _
  | .property span negated query => flags.sameResult_property noSpan span negated query
  | .letter span _ negated => flags.sameResult_negate noSpan span negated _
  | .bracketed span negated set =>
    (sameResult_chars flags set).bind fun _ => flags.sameResult_negate noSpan span negated _
  | .union _ items => sameResult_unionChars flags items
  | .binary _ _ left right =>
    (sameResult_chars flags left).bind fun _ => (sameResult_chars flags right).map _

theorem ClassSet.sameResult_unionChars (flags : Flags) : ∀ items : List ClassSet,
    SameResult (ClassSet.unionChars flags (bares items)) (ClassSet.unionChars flags items)
  | [] => .refl _
  | item :: items =>
    (sameResult_chars flags item).bind fun _ => (sameResult_unionChars flags items).map _

end

mutual

/-- **What a tree means does not depend on its stretches**, which only occur in faults. -/
theorem Tree.sameResult_meaning (flags : Flags) : ∀ tree : Tree,
    SameResult (tree.bare.meaning flags) (tree.meaning flags)
  | .empty _ | .setFlags _ _ | .assertion _ _ => .refl _
  | .literal span spelling char => (flags.sameResult_scalar noSpan span spelling char).map _
  | .dot span => by
    rw [Tree.bare, meaning, meaning]
    split_ifs
    · exact .refl _
    · exact .error _ _
  | .property span negated query => (flags.sameResult_property noSpan span negated query).map _
  | .letter span _ negated => (flags.sameResult_negate noSpan span negated _).map _
  | .bracketed span negated set =>
    (set.sameResult_chars flags).bind fun _ => (flags.sameResult_negate noSpan span negated _).map _
  | .repetition _ _ _ body => (sameResult_meaning flags body).map _
  | .group _ _ body => (sameResult_meaning _ body).map _
  | .alternation _ branches => (sameResult_meanings flags branches).map _
  | .concat _ parts => (sameResult_meanings flags parts).map _

theorem Tree.sameResult_meanings (flags : Flags) : ∀ trees : List Tree,
    SameResult (Tree.meanings flags (bares trees)) (Tree.meanings flags trees)
  | [] => .refl _
  | tree :: trees =>
    (sameResult_meaning flags tree).bind fun _ => (sameResult_meanings _ trees).map _

end

end ColumnChecks.Pattern
