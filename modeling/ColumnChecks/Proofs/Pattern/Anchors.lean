import ColumnChecks.Proofs.Pattern.Behind.Runs
import ColumnChecks.Proofs.Pattern.Ordered

/-!
# Matching whole texts

A pattern between anchors **matches somewhere in a text just if the pattern alone matches
all of it** (`ColumnChecks.Pattern.Regex.occurs_whole_iff`), whatever anchors, choices and
lazy repetitions it has of its own: the group keeps the pattern together, and flags that
it sets end with the group.

The anchors and the group have a price. They take two levels of depth, so a pattern near the
limit has an expression alone and none between anchors
(`ColumnChecks.Pattern.expression_between_iff`).
-/

namespace ColumnChecks.Pattern

/-! ### Stretches -/

namespace Regex

variable {text : List Char} {i j : Nat}

theorem spans_append (r s : Regex) :
    (r.append s).Spans text i j ↔ ∃ k, r.Spans text i k ∧ s.Spans text k j := by
  unfold append
  split
  · simp only [Spans, exists_eq_left']
  · simp only [Spans, exists_eq_right]
  · rfl

/-- An expression that matches whole texts only. -/
def whole (r : Regex) : Regex := sequence [.look .textStart, r, .look .textEnd]

theorem holdsAt_textStart_iff (hi : i ≤ text.length) :
    Look.textStart.holdsAt text i = true ↔ i = 0 := by
  cases i with
  | zero => exact iff_of_true rfl rfl
  | succ i =>
    refine iff_of_false (fun h => ?_) (Nat.succ_ne_zero i)
    have hnone : text[i]?.isNone = true := h
    rw [Option.isNone_iff_eq_none, List.getElem?_eq_none_iff] at hnone
    omega

theorem holdsAt_textEnd_iff : Look.textEnd.holdsAt text i = true ↔ text.length ≤ i := by
  have hnone : Look.textEnd.holdsAt text i = text[i]?.isNone := rfl
  rw [hnone, Option.isNone_iff_eq_none, List.getElem?_eq_none_iff]

/-- **Between anchors** an expression matches where it matches the whole text. -/
theorem occurs_whole_iff (r : Regex) : r.whole.Occurs text ↔ r.Spans text 0 text.length := by
  simp only [Occurs, whole, sequence, List.foldr_cons, List.foldr_nil, spans_append, Spans]
  constructor
  · rintro ⟨i, j, hi, _, ⟨rfl, hstart⟩, k, hr, _, ⟨rfl, hend⟩, rfl⟩
    obtain rfl := (holdsAt_textStart_iff hi).1 hstart
    have hk := (r.forward_spans text hi hr).2
    rwa [Nat.le_antisymm hk (holdsAt_textEnd_iff.1 hend)] at hr
  · intro hr
    exact ⟨0, text.length, Nat.zero_le _, 0, ⟨rfl, (holdsAt_textStart_iff (Nat.zero_le _)).2 rfl⟩,
      text.length, hr, text.length, ⟨rfl, holdsAt_textEnd_iff.2 (Nat.le_refl _)⟩, rfl⟩

end Regex

/-! ### Meaning and depth -/

theorem Flags.apply_nil (flags : Flags) : flags.apply [] = flags := rfl

/-- Between anchors a pattern means what it means alone, kept to whole texts. -/
theorem Tree.meaning_bareBetween (tree : Tree) (ignoreCase : Bool) (result : Regex × Flags) :
    tree.bareBetween.meaning { ignoreCase := ignoreCase } = .ok result ↔
      ∃ r after, tree.meaning { ignoreCase := ignoreCase } = .ok (r, after) ∧
        result = (r.whole, { ignoreCase := ignoreCase }) := by
  have hwhole : tree.bareBetween.meaning { ignoreCase := ignoreCase } =
      tree.bare.meaning { ignoreCase := ignoreCase } >>= fun found =>
        .ok (found.1.whole, { ignoreCase := ignoreCase }) := by
    cases hbody : tree.bare.meaning { ignoreCase := ignoreCase } <;>
      simp only [bareBetween, meaning, meanings, Flags.apply_nil, Bind.bind, Except.bind, hbody]
    rfl
  rw [hwhole]
  constructor
  · intro h
    obtain ⟨⟨r, after⟩, hbody, hresult⟩ := exists_of_bind_eq_ok h
    cases hresult
    exact ⟨r, after, (tree.sameResult_meaning _ _).1 hbody, rfl⟩
  · rintro ⟨r, after, hbody, rfl⟩
    rw [(tree.sameResult_meaning _ _).2 hbody]
    rfl

/-- The group and the sequence around it are two levels. -/
theorem Tree.isSome_tooDeep?_bareBetween (tree : Tree) :
    (tree.bareBetween.tooDeep? nestLimit).isSome = (tree.tooDeep? (nestLimit - 2)).isSome := by
  change ((tree.bare.tooDeep? (nestLimit - 2)).or none).isSome = _
  rw [Option.or_none, tree.isSome_tooDeep?_bare]

/-! ### Room for the anchors -/

/-- **There is room for anchors** around a pattern. -/
structure RoomForAnchors (pattern : List Char) : Prop where
  /-- What is put behind the pattern is not passed over. -/
  behind : ¬EndsInComment pattern
  /-- A group and a sequence may stand around the pattern. -/
  depth : ∀ tree, Tree.read pattern = .ok tree → tree.tooDeep? (nestLimit - 2) = none

theorem roomForAnchors_iff {pattern : List Char} {tree : Tree} (h : Tree.read pattern = .ok tree) :
    RoomForAnchors pattern ↔
      ¬EndsInComment pattern ∧ tree.tooDeep? (nestLimit - 2) = none := by
  refine ⟨fun hroom => ⟨hroom.behind, hroom.depth tree h⟩, fun ⟨hcomment, hnone⟩ =>
    ⟨hcomment, fun tree' hread => ?_⟩⟩
  cases h.symm.trans hread
  exact hnone

/-- Between anchors a tree is not too deep just if it has two levels to spare. -/
theorem Tree.tooDeep?_of_bare_eq {tree outer : Tree} (h : outer.bare = tree.bareBetween) :
    outer.tooDeep? nestLimit = none ↔ tree.tooDeep? (nestLimit - 2) = none := by
  rw [← Option.not_isSome_iff_eq_none, ← Option.not_isSome_iff_eq_none,
    ← outer.isSome_tooDeep?_bare, h, tree.isSome_tooDeep?_bareBetween]

/-- **A pattern that has an expression** has one between anchors just if there is room for
them, and that is its own, kept to whole texts. -/
theorem expression_between_iff {pattern : String} {found : Regex}
    (h : expression false pattern = .ok found) (ignoreCase : Bool) (s : Regex) :
    expression ignoreCase (String.ofList (between pattern.toList)) = .ok s ↔
      RoomForAnchors pattern.toList ∧
        ∃ r, expression ignoreCase pattern = .ok r ∧ s = r.whole := by
  obtain ⟨tree, -, hread, hdepth, -⟩ := expression_eq_ok_iff.1 h
  rw [expression_eq_ok_iff, String.toList_ofList, roomForAnchors_iff hread]
  -- Stretches aside, what is read between anchors is the tree in a group of its own.
  rcases Tree.read_between_anchors hread with
    ⟨hcomment, hfault⟩ | ⟨hcomment, outer, houter, hbare⟩
  · constructor
    · rintro ⟨outer, after, houter, -⟩
      exact absurd houter (hfault outer)
    · exact fun h => absurd hcomment h.1.1
  · have hmeaning : ∀ result, outer.meaning { ignoreCase := ignoreCase } = .ok result ↔
        ∃ r after, tree.meaning { ignoreCase := ignoreCase } = .ok (r, after) ∧
          result = (r.whole, { ignoreCase := ignoreCase }) := fun result => by
      rw [← outer.sameResult_meaning _ result, hbare, tree.meaning_bareBetween]
    constructor
    · rintro ⟨outer', after, houter', hnone, hresult⟩
      cases houter.symm.trans houter'
      obtain ⟨r, after', htree, heq⟩ := (hmeaning _).1 hresult
      cases heq
      exact ⟨⟨hcomment, (Tree.tooDeep?_of_bare_eq hbare).1 hnone⟩, r,
        expression_eq_ok_iff.2 ⟨tree, after', hread, hdepth, htree⟩, rfl⟩
    · rintro ⟨⟨-, hnone⟩, r, hr, rfl⟩
      obtain ⟨tree', after, hread', -, htree⟩ := expression_eq_ok_iff.1 hr
      cases hread.symm.trans hread'
      exact ⟨outer, _, houter, (Tree.tooDeep?_of_bare_eq hbare).2 hnone,
        (hmeaning _).2 ⟨r, after, htree, rfl⟩⟩

end ColumnChecks.Pattern
