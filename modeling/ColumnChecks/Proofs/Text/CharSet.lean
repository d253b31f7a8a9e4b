import Mathlib.Order.Nat
import Mathlib.Tactic.Tauto
import ColumnChecks.Text.CharSet

/-!
# The algebra of sets of characters

The operations of a bracket expression are computed on lists of intervals, and only two of
them walk the lists. Both keep the intervals in order, apart from each other and below the
greatest code point (`ColumnChecks.Text.CharSet.WellFormed`), and on such sets **the
operations are those of Boolean algebra**:

| operation | what is in the result | theorem |
|---|---|---|
| union | what is in either set | `ColumnChecks.Text.CharSet.containsCode_union` |
| complement | what is not in the set | `ColumnChecks.Text.CharSet.containsCode_complement` |
| intersection | what is in both sets | `ColumnChecks.Text.CharSet.containsCode_inter` |
| difference | what is in the first only | `ColumnChecks.Text.CharSet.containsCode_diff` |
| symmetric difference | what is in one only | `ColumnChecks.Text.CharSet.containsCode_symmDiff` |

A complement leaves the surrogates out, so an intersection does as well: it is a complement
of a union. All but the complement make ASCII sets of ASCII sets
(`ColumnChecks.Text.CharSet.Ascii`).
-/

namespace ColumnChecks.Text.CharSet

variable {s t : CharSet} {xs ys : List (Nat × Nat)} {start lo hi n : Nat}

/-! ### Intervals -/

/-- A code point in one of some intervals. -/
def Covers (xs : List (Nat × Nat)) (n : Nat) : Prop := ∃ x ∈ xs, x.1 ≤ n ∧ n ≤ x.2

theorem containsCode_iff : s.containsCode n = true ↔ Covers s.intervals n := by
  simp only [containsCode, Covers, List.any_eq_true, Bool.and_eq_true, decide_eq_true_eq]

theorem covers_nil : ¬Covers [] n := nofun

/-- A code point is in the first interval, or in the others. -/
theorem covers_cons : Covers ((lo, hi) :: xs) n ↔ (lo ≤ n ∧ n ≤ hi) ∨ Covers xs n := by
  simp only [Covers, List.mem_cons, or_and_right, exists_or, exists_eq_left]

theorem covers_append : Covers (xs ++ ys) n ↔ Covers xs n ∨ Covers ys n := by
  simp only [Covers, List.mem_append, or_and_right, exists_or]

/-- **Intervals in ascending order** from a code point on: none of them is empty, two of
them do not touch, and all of them end with the greatest code point at the latest. -/
def Ascending : Nat → List (Nat × Nat) → Prop
  | _, [] => True
  | start, (lo, hi) :: rest => start ≤ lo ∧ lo ≤ hi ∧ hi ≤ maxCode ∧ Ascending (hi + 2) rest

instance Ascending.decidable : ∀ (start : Nat) (xs : List (Nat × Nat)),
    Decidable (Ascending start xs)
  | _, [] => isTrue trivial
  | start, (lo, hi) :: rest =>
    have := Ascending.decidable (hi + 2) rest
    inferInstanceAs (Decidable (start ≤ lo ∧ lo ≤ hi ∧ hi ≤ maxCode ∧ Ascending (hi + 2) rest))

theorem Ascending.mono (h : Ascending start xs) (hle : n ≤ start) : Ascending n xs := by
  cases xs with
  | nil => trivial
  | cons x xs =>
    obtain ⟨hstart, hrest⟩ := h
    exact ⟨hle.trans hstart, hrest⟩

/-- Nothing is covered in front of the first interval. -/
theorem Ascending.le (h : Ascending start xs) (hn : Covers xs n) : start ≤ n := by
  induction xs generalizing start with
  | nil => exact absurd hn covers_nil
  | cons x xs ih =>
    obtain ⟨hstart, hle, -, hrest⟩ := h
    rcases covers_cons.1 hn with hx | hxs
    · exact hstart.trans hx.1
    · have hnext := ih hrest hxs
      omega

/-- Every interval of a list in order ends with one of its code points. -/
theorem Ascending.covers_end {x : Nat × Nat} (h : Ascending start xs) (hx : x ∈ xs) :
    Covers xs x.2 := by
  induction xs generalizing start with
  | nil => cases hx
  | cons y xs ih =>
    obtain ⟨-, hle, -, hrest⟩ := h
    rcases List.mem_cons.1 hx with rfl | hx
    · exact covers_cons.2 (Or.inl ⟨hle, Nat.le_refl _⟩)
    · exact covers_cons.2 (Or.inr (ih hrest hx))

theorem Ascending.le_maxCode {x : Nat × Nat} (h : Ascending start xs) (hx : x ∈ xs) :
    x.2 ≤ maxCode := by
  induction xs generalizing start with
  | nil => cases hx
  | cons y xs ih =>
    obtain ⟨-, -, hmax, hrest⟩ := h
    rcases List.mem_cons.1 hx with rfl | hx
    · exact hmax
    · exact ih hrest hx

/-! ### Adding intervals -/

/-- **An interval that is put in** is covered, beside what was covered before. -/
theorem covers_insertInterval (hle : lo ≤ hi) :
    Covers (insertInterval lo hi xs) n ↔ (lo ≤ n ∧ n ≤ hi) ∨ Covers xs n := by
  induction xs generalizing lo hi with
  | nil => exact covers_cons
  | cons x xs ih =>
    obtain ⟨lo', hi'⟩ := x
    rw [insertInterval]
    split_ifs with hbefore hbehind
    · exact covers_cons
    · rw [covers_cons, ih hle, covers_cons]
      tauto
    · -- The two meet or touch, so that what is between their ends is in one of them.
      rw [ih (by omega), covers_cons, ← or_assoc]
      exact or_congr_left (by omega)

/-- It is put in its place and joined with what it touches. -/
theorem ascending_insertInterval (h : Ascending start xs) (hstart : start ≤ lo) (hle : lo ≤ hi)
    (hmax : hi ≤ maxCode) : Ascending start (insertInterval lo hi xs) := by
  induction xs generalizing start lo hi with
  | nil => exact ⟨hstart, hle, hmax, trivial⟩
  | cons x xs ih =>
    obtain ⟨lo', hi'⟩ := x
    obtain ⟨hstart', hle', hmax', hrest⟩ := h
    rw [insertInterval]
    split_ifs with hbefore hbehind
    · exact ⟨hstart, hle, hmax, hbefore, hle', hmax', hrest⟩
    · exact ⟨hstart', hle', hmax', ih hrest hbehind hle hmax⟩
    · exact ih (hrest.mono (by omega)) (by omega) (by omega) (by omega)

/-- Intervals that are added one after the other. -/
theorem covers_foldr_insertInterval (h : ∀ x ∈ xs, x.1 ≤ x.2) :
    Covers (xs.foldr (fun x acc => insertInterval x.1 x.2 acc) []) n ↔ Covers xs n := by
  induction xs with
  | nil => exact Iff.rfl
  | cons x xs ih =>
    obtain ⟨hx, hxs⟩ := List.forall_mem_cons.1 h
    rw [List.foldr_cons, covers_insertInterval hx, ih hxs, covers_cons]

/-- So intervals are brought into order by putting them in one by one. -/
theorem ascending_foldr_insertInterval (h : ∀ x ∈ xs, x.1 ≤ x.2 ∧ x.2 ≤ maxCode) :
    Ascending 0 (xs.foldr (fun x acc => insertInterval x.1 x.2 acc) []) := by
  induction xs with
  | nil => trivial
  | cons x xs ih =>
    obtain ⟨hx, hxs⟩ := List.forall_mem_cons.1 h
    exact ascending_insertInterval (ih hxs) (Nat.zero_le _) hx.1 hx.2

/-- What some intervals cover, in whatever order they are given. -/
theorem containsCode_ofIntervals : (ofIntervals xs).containsCode n = true ↔ Covers xs n := by
  rw [containsCode_iff, ofIntervals, covers_foldr_insertInterval]
  · simp only [Covers, List.mem_mergeSort, List.mem_filter, decide_eq_true_eq]
    constructor
    · rintro ⟨x, ⟨hx, -⟩, hn⟩
      exact ⟨x, hx, hn⟩
    · rintro ⟨x, hx, hn⟩
      exact ⟨x, ⟨hx, hn.1.trans hn.2⟩, hn⟩
  · simp only [List.mem_mergeSort, List.mem_filter, decide_eq_true_eq]
    exact fun x hx => hx.2

/-! ### Gaps -/

/-- The gaps between some intervals are what the intervals do not cover. -/
theorem covers_gapsFrom (h : Ascending start xs) :
    Covers (gapsFrom start xs) n ↔ start ≤ n ∧ n ≤ maxCode ∧ ¬Covers xs n := by
  induction xs generalizing start with
  | nil =>
    rw [gapsFrom]
    split_ifs with hstart
    · simp only [covers_cons, covers_nil, or_false, not_false_eq_true, and_true]
    · simp only [covers_nil, not_false_eq_true, and_true, false_iff]
      omega
  | cons x xs ih =>
    obtain ⟨lo, hi⟩ := x
    obtain ⟨hstart, hle, hmax, hrest⟩ := h
    have hbehind : Covers xs n → hi + 2 ≤ n := hrest.le
    have hgaps := ih (hrest.mono (Nat.le_succ _))
    rw [gapsFrom]
    by_cases hcovers : Covers xs n
    · have hn := hbehind hcovers
      split_ifs with hgap
      · simp only [covers_cons, hgaps, hcovers, or_true, not_true_eq_false, and_false, or_false,
          iff_false]
        omega
      · simp only [covers_cons, hgaps, hcovers, or_true, not_true_eq_false, and_false]
    · split_ifs with hgap
      · simp only [covers_cons, hgaps, hcovers, or_false, not_false_eq_true, and_true]
        omega
      · simp only [covers_cons, hgaps, hcovers, or_false, not_false_eq_true, and_true]
        omega

/-- The gaps between intervals in order are in order. -/
theorem ascending_gapsFrom (h : Ascending start xs) : Ascending start (gapsFrom start xs) := by
  induction xs generalizing start with
  | nil =>
    rw [gapsFrom]
    split_ifs with hstart
    · exact ⟨Nat.le_refl _, hstart, Nat.le_refl _, trivial⟩
    · trivial
  | cons x xs ih =>
    obtain ⟨lo, hi⟩ := x
    obtain ⟨hstart, hle, hmax, hrest⟩ := h
    have hgaps := ih (hrest.mono (Nat.le_succ _))
    rw [gapsFrom]
    split_ifs with hgap
    · exact ⟨Nat.le_refl _, by omega, by omega, hgaps.mono (by omega)⟩
    · exact hgaps.mono (by omega)

/-- Of an interval, what is no surrogate is kept. -/
theorem covers_dropSurrogates {x : Nat × Nat} : Covers (dropSurrogates x) n ↔
    (x.1 ≤ n ∧ n ≤ x.2) ∧ ¬(0xD800 ≤ n ∧ n ≤ 0xDFFF) := by
  simp only [Covers, dropSurrogates, List.mem_filter, List.mem_cons, List.not_mem_nil, or_false,
    decide_eq_true_eq]
  constructor
  · rintro ⟨y, ⟨rfl | rfl, -⟩, hn⟩ <;> omega
  · rintro ⟨hn, hscalar⟩
    rcases Nat.lt_or_ge n 0xD800 with hlow | hhigh
    · exact ⟨_, ⟨Or.inl rfl, by omega⟩, by omega⟩
    · exact ⟨_, ⟨Or.inr rfl, by omega⟩, by omega⟩

theorem covers_flatMap_dropSurrogates : Covers (xs.flatMap dropSurrogates) n ↔
    Covers xs n ∧ ¬(0xD800 ≤ n ∧ n ≤ 0xDFFF) := by
  induction xs with
  | nil => exact iff_of_false covers_nil fun h => covers_nil h.1
  | cons x xs ih =>
    rw [List.flatMap_cons, covers_append, covers_dropSurrogates, ih, covers_cons, or_and_right]

/-- Surrogates are dropped in order. -/
theorem ascending_flatMap_dropSurrogates (h : Ascending start xs) :
    Ascending start (xs.flatMap dropSurrogates) := by
  induction xs generalizing start with
  | nil => trivial
  | cons x xs ih =>
    obtain ⟨lo, hi⟩ := x
    obtain ⟨hstart, hle, hmax, hrest⟩ := h
    have hdrop := ih hrest
    rw [List.flatMap_cons, dropSurrogates]
    -- Of an interval there is left a part below the surrogates, one above them, both or none.
    by_cases hlow : lo ≤ min hi 0xD7FF
    · by_cases hhigh : max lo 0xE000 ≤ hi
      · simp only [List.filter_cons, hlow, hhigh, decide_true, if_true, List.filter_nil,
          List.cons_append, List.nil_append]
        exact ⟨hstart, hlow, by omega, by omega, hhigh, hmax, hdrop⟩
      · simp only [List.filter_cons, hlow, hhigh, decide_true, decide_false, if_true,
          Bool.false_eq_true, if_false, List.filter_nil, List.cons_append, List.nil_append]
        exact ⟨hstart, hlow, by omega, hdrop.mono (by omega)⟩
    · by_cases hhigh : max lo 0xE000 ≤ hi
      · simp only [List.filter_cons, hlow, hhigh, decide_true, decide_false, if_true,
          Bool.false_eq_true, if_false, List.filter_nil, List.cons_append, List.nil_append]
        exact ⟨by omega, hhigh, hmax, hdrop⟩
      · simp only [List.filter_cons, hlow, hhigh, decide_false, Bool.false_eq_true, if_false,
          List.filter_nil, List.nil_append]
        exact hdrop.mono (by omega)

/-! ### Sets -/

/-- A set in its written form. -/
def WellFormed (s : CharSet) : Prop := Ascending 0 s.intervals

instance (s : CharSet) : Decidable s.WellFormed := Ascending.decidable 0 s.intervals

theorem WellFormed.le_maxCode {x : Nat × Nat} (h : s.WellFormed) (hx : x ∈ s.intervals) :
    x.2 ≤ maxCode :=
  Ascending.le_maxCode h hx

/-- **Any intervals make a set that is well-formed.** -/
theorem wellFormed_ofIntervals (h : ∀ x ∈ xs, x.2 ≤ maxCode) : (ofIntervals xs).WellFormed := by
  refine ascending_foldr_insertInterval ?_
  simp only [List.mem_mergeSort, List.mem_filter, decide_eq_true_eq]
  exact fun x hx => ⟨hx.2, h x hx.1⟩

theorem wellFormed_union (hs : s.WellFormed) (ht : t.WellFormed) : (s.union t).WellFormed :=
  wellFormed_ofIntervals <| List.forall_mem_append.2
    ⟨fun _ hx => hs.le_maxCode hx, fun _ hx => ht.le_maxCode hx⟩

theorem wellFormed_complement (hs : s.WellFormed) : s.complement.WellFormed :=
  ascending_flatMap_dropSurrogates (ascending_gapsFrom hs)

/-- Intersections are made from unions and complements. -/
theorem wellFormed_inter (hs : s.WellFormed) (ht : t.WellFormed) : (s.inter t).WellFormed :=
  wellFormed_complement (wellFormed_union (wellFormed_complement hs) (wellFormed_complement ht))

/-- **A union** has the code points of both sets. -/
theorem containsCode_union : (s.union t).containsCode n = true ↔
    s.containsCode n = true ∨ t.containsCode n = true := by
  rw [union, containsCode_ofIntervals, covers_append, containsCode_iff, containsCode_iff]

/-- **A complement** has the characters that are not in the set. -/
theorem containsCode_complement (hs : s.WellFormed) : s.complement.containsCode n = true ↔
    n.isValidChar ∧ ¬s.containsCode n = true := by
  have hchar : n.isValidChar ↔ n ≤ maxCode ∧ ¬(0xD800 ≤ n ∧ n ≤ 0xDFFF) := by
    simp only [Nat.isValidChar, maxCode]
    omega
  rw [containsCode_iff, complement, covers_flatMap_dropSurrogates, covers_gapsFrom hs, hchar,
    containsCode_iff]
  constructor
  · rintro ⟨⟨-, hmax, hn⟩, hscalar⟩
    exact ⟨⟨hmax, hscalar⟩, hn⟩
  · rintro ⟨⟨hmax, hscalar⟩, hn⟩
    exact ⟨⟨Nat.zero_le _, hmax, hn⟩, hscalar⟩

/-- **An intersection** has the characters that are in both sets. -/
theorem containsCode_inter (hs : s.WellFormed) (ht : t.WellFormed) :
    (s.inter t).containsCode n = true ↔
      n.isValidChar ∧ s.containsCode n = true ∧ t.containsCode n = true := by
  rw [inter, containsCode_complement (wellFormed_union (wellFormed_complement hs)
    (wellFormed_complement ht)), containsCode_union, containsCode_complement hs,
    containsCode_complement ht]
  tauto

/-- **A difference** has the characters that are only in the first set. -/
theorem containsCode_diff (hs : s.WellFormed) (ht : t.WellFormed) :
    (s.diff t).containsCode n = true ↔
      n.isValidChar ∧ s.containsCode n = true ∧ ¬t.containsCode n = true := by
  rw [diff, containsCode_inter hs (wellFormed_complement ht), containsCode_complement ht]
  tauto

/-- **A symmetric difference** has the characters that are in just one of the sets. -/
theorem containsCode_symmDiff (hs : s.WellFormed) (ht : t.WellFormed) :
    (s.symmDiff t).containsCode n = true ↔
      n.isValidChar ∧ ¬(s.containsCode n = true ↔ t.containsCode n = true) := by
  rw [symmDiff, containsCode_diff (wellFormed_union hs ht) (wellFormed_inter hs ht),
    containsCode_union, containsCode_inter hs ht]
  tauto

/-! ### ASCII -/

/-- A set of ASCII characters in its written form. -/
structure Ascii (s : CharSet) : Prop where
  wellFormed : s.WellFormed
  isAscii : s.isAscii = true

/-- A set is one of ASCII characters if every interval ends among them. -/
theorem isAscii_iff : s.isAscii = true ↔ ∀ x ∈ s.intervals, x.2 < 0x80 := by
  simp only [isAscii, List.all_eq_true, decide_eq_true_eq]

/-- In the written form, the ends of the intervals are in the set. -/
theorem WellFormed.isAscii_iff (h : s.WellFormed) :
    s.isAscii = true ↔ ∀ n, s.containsCode n = true → n < 0x80 := by
  rw [CharSet.isAscii_iff]
  constructor
  · intro hends n hn
    obtain ⟨x, hx, -, hle⟩ := containsCode_iff.1 hn
    exact hle.trans_lt (hends x hx)
  · exact fun hs x hx => hs x.2 (containsCode_iff.2 (Ascending.covers_end h hx))

theorem ascii_ofIntervals (h : ∀ x ∈ xs, x.2 < 0x80) : (ofIntervals xs).Ascii := by
  have hwellFormed : (ofIntervals xs).WellFormed :=
    wellFormed_ofIntervals fun x hx => (h x hx).le.trans (by decide)
  refine ⟨hwellFormed, hwellFormed.isAscii_iff.2 fun n hn => ?_⟩
  obtain ⟨x, hx, -, hle⟩ := containsCode_ofIntervals.1 hn
  exact hle.trans_lt (h x hx)

theorem Ascii.union (hs : s.Ascii) (ht : t.Ascii) : (s.union t).Ascii :=
  ascii_ofIntervals (List.forall_mem_append.2
    ⟨CharSet.isAscii_iff.1 hs.isAscii, CharSet.isAscii_iff.1 ht.isAscii⟩)

/-- One of two sets of ASCII characters is enough for their intersection. -/
theorem Ascii.inter (hs : s.Ascii) (ht : t.WellFormed) : (s.inter t).Ascii := by
  have hinter := wellFormed_inter hs.wellFormed ht
  refine ⟨hinter, hinter.isAscii_iff.2 fun n hn => ?_⟩
  have hboth := (containsCode_inter hs.wellFormed ht).1 hn
  exact hs.wellFormed.isAscii_iff.1 hs.isAscii n hboth.2.1

theorem Ascii.diff (hs : s.Ascii) (ht : t.WellFormed) : (s.diff t).Ascii :=
  hs.inter (wellFormed_complement ht)

theorem Ascii.symmDiff (hs : s.Ascii) (ht : t.Ascii) : (s.symmDiff t).Ascii :=
  (hs.union ht).diff (hs.inter ht.wellFormed).wellFormed

end ColumnChecks.Text.CharSet
