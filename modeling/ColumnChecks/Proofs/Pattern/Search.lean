import Mathlib.Order.Basic
import Mathlib.Tactic.Common
import ColumnChecks.Pattern.Search

/-!
# Searching finds every match

`ColumnChecks.Pattern.Regex.Spans` says which stretches of a text an expression
matches, and the search computes with sets of places, each a number with a bit for
every place. The two are compared step by step: a map on such numbers **follows** a
relation between places (`ColumnChecks.Pattern.Follows`) if it maps every set to the
places that the relation leads to. The map of a sequence follows one relation after the
other, the map of a repetition follows chains.

A repetition without a limit is cut off after as many rounds as there are places. That
is enough because no match goes backward: rounds that stay where they are can be left
out, and each of the others takes at least one place
(`ColumnChecks.Pattern.exists_chain_le`). The bounds of a repetition are taken to be in
order, as those of every pattern are.

**A text is searched with success just if the expression matches some stretch of it**
(`ColumnChecks.Pattern.Regex.occursIn_iff`).
-/

namespace ColumnChecks.Pattern

variable {n : Nat} {step other : Nat → Nat → Prop} {f g : Nat → Nat}

/-! ### Stretches go forward -/

/-- A relation that leads from places of a text forward to places of the text. -/
def Forward (n : Nat) (step : Nat → Nat → Prop) : Prop :=
  ∀ ⦃i j⦄, i ≤ n → step i j → i ≤ j ∧ j ≤ n

theorem Forward.chain (h : Forward n step) (k : Nat) : Forward n (Chain step k) := by
  intro i j hi hchain
  induction k generalizing i with
  | zero => exact ⟨Nat.le_of_eq hchain, hchain ▸ hi⟩
  | succ k ih =>
    obtain ⟨middle, hstep, hrest⟩ := hchain
    obtain ⟨hle, hmiddle⟩ := h hi hstep
    exact ⟨Nat.le_trans hle (ih hmiddle hrest).1, (ih hmiddle hrest).2⟩

theorem Regex.forward_spans (text : List Char) (r : Regex) :
    Forward text.length (r.Spans text) := by
  induction r with
  | empty => exact fun i j hi h => ⟨Nat.le_of_eq h, h ▸ hi⟩
  | set chars =>
    rintro i j - ⟨rfl, c, hc, -⟩
    exact ⟨Nat.le_succ i, (List.getElem?_eq_some_iff.1 hc).1⟩
  | look condition => exact fun i j hi h => ⟨Nat.le_of_eq h.1, h.1 ▸ hi⟩
  | seq a b iha ihb =>
    rintro i j hi ⟨k, ha, hb⟩
    obtain ⟨hle, hk⟩ := iha hi ha
    exact ⟨Nat.le_trans hle (ihb hk hb).1, (ihb hk hb).2⟩
  | alt a b iha ihb => exact fun i j hi h => h.elim (iha hi) (ihb hi)
  | «repeat» a least most ih =>
    rintro i j hi ⟨k, -, -, hchain⟩
    exact ih.chain k hi hchain
  | capture a ih => exact ih

/-- **A chain can be cut down** to one with no more steps than places. -/
theorem exists_chain_le (h : Forward n step) {k i j : Nat} (hi : i ≤ n)
    (hchain : Chain step k i j) : ∃ m ≤ j - i, m ≤ k ∧ Chain step m i j := by
  induction k generalizing i with
  | zero => exact ⟨0, Nat.zero_le _, Nat.le_refl _, hchain⟩
  | succ k ih =>
    obtain ⟨middle, hstep, hrest⟩ := hchain
    obtain ⟨hle, hmiddle⟩ := h hi hstep
    obtain ⟨m, hm, hmk, hshort⟩ := ih hmiddle hrest
    -- A step on the spot is left out; any other one comes nearer to the end.
    rcases Nat.eq_or_lt_of_le hle with rfl | hlt
    · exact ⟨m, hm, Nat.le_succ_of_le hmk, hshort⟩
    · have hend := (h.chain m hmiddle hshort).1
      exact ⟨m + 1, by omega, Nat.succ_le_succ hmk, middle, hstep, hshort⟩

/-- A chain divides after any number of its steps. -/
theorem chain_add {k m i j : Nat} :
    Chain step (k + m) i j ↔ ∃ middle, Chain step k i middle ∧ Chain step m middle j := by
  induction k generalizing i with
  | zero => simp [Chain]
  | succ k ih =>
    rw [Nat.succ_add]
    simp only [Chain, ih]
    constructor
    · rintro ⟨next, hstep, middle, hk, hm⟩
      exact ⟨middle, ⟨next, hstep, hk⟩, hm⟩
    · rintro ⟨middle, ⟨next, hstep, hk⟩, hm⟩
      exact ⟨next, hstep, middle, hk, hm⟩

/-! ### Sets of places -/

/-- A set of places of a text. -/
def Within (n mask : Nat) : Prop := ∀ ⦃i⦄, mask.testBit i = true → i ≤ n

/-- **A map on sets follows a relation** if it leads to where the relation does. -/
def Follows (n : Nat) (f : Nat → Nat) (step : Nat → Nat → Prop) : Prop :=
  ∀ ⦃mask⦄, Within n mask →
    ∀ j, (f mask).testBit j = true ↔ ∃ i, mask.testBit i = true ∧ step i j

namespace Follows

theorem within (h : Follows n f step) (hforward : Forward n step) {mask : Nat}
    (hmask : Within n mask) : Within n (f mask) := by
  intro j hj
  obtain ⟨i, hi, hstep⟩ := (h hmask j).1 hj
  exact (hforward (hmask hi) hstep).2

/-- One map after another. -/
theorem comp (hf : Follows n f step) (hforward : Forward n step) (hg : Follows n g other) :
    Follows n (fun mask => g (f mask)) fun i j => ∃ k, step i k ∧ other k j := by
  intro mask hmask j
  rw [hg (hf.within hforward hmask) j]
  constructor
  · rintro ⟨k, hk, hother⟩
    obtain ⟨i, hi, hstep⟩ := (hf hmask k).1 hk
    exact ⟨i, hi, k, hstep, hother⟩
  · rintro ⟨i, hi, k, hstep, hother⟩
    exact ⟨k, (hf hmask k).2 ⟨i, hi, hstep⟩, hother⟩

/-- What a map does not change, it does not change in any number of rounds. -/
theorem iff_of_fixed (h : Follows n f step) {mask : Nat} (hmask : Within n mask)
    (hfixed : f mask = mask) (k j : Nat) :
    mask.testBit j = true ↔ ∃ i, mask.testBit i = true ∧ Chain step k i j := by
  induction k generalizing j with
  | zero => simp [Chain]
  | succ k ih =>
    rw [ih j]
    constructor
    · rintro ⟨middle, hmiddle, hchain⟩
      rw [← hfixed, h hmask] at hmiddle
      obtain ⟨i, hi, hstep⟩ := hmiddle
      exact ⟨i, hi, middle, hstep, hchain⟩
    · rintro ⟨i, hi, middle, hstep, hchain⟩
      have hmiddle := (h hmask middle).2 ⟨i, hi, hstep⟩
      rw [hfixed] at hmiddle
      exact ⟨middle, hmiddle, hchain⟩

/-- **So many rounds** follow chains of that many steps. -/
theorem times (h : Follows n f step) (hforward : Forward n step) (k : Nat) :
    Follows n (Search.times f k) (Chain step k) := by
  induction k with
  | zero => exact fun mask hmask j => by simp [Search.times, Chain]
  | succ k ih =>
    intro mask hmask j
    rw [Search.times]
    split_ifs with hfixed
    · exact h.iff_of_fixed hmask hfixed (k + 1) j
    · exact (h.comp hforward ih) hmask j

/-- A set that a map does not lead out of has the ends of all chains that start in it. -/
theorem testBit_of_chain (h : Follows n f step) {mask : Nat} (hmask : Within n mask)
    (hclosed : mask ||| f mask = mask) {m i j : Nat} (hi : mask.testBit i = true)
    (hchain : Chain step m i j) : mask.testBit j = true := by
  induction m generalizing i with
  | zero => exact hchain ▸ hi
  | succ m ih =>
    obtain ⟨middle, hstep, hrest⟩ := hchain
    refine ih ?_ hrest
    rw [← hclosed, Nat.testBit_or, Bool.or_eq_true]
    exact Or.inr ((h hmask middle).2 ⟨i, hi, hstep⟩)

/-- **At most so many rounds**, all places on the way kept. -/
theorem reach (h : Follows n f step) (hforward : Forward n step) (k : Nat) :
    Follows n (Search.reach f k) fun i j => ∃ m ≤ k, Chain step m i j := by
  induction k with
  | zero => exact fun mask hmask j => by simp [Search.reach, Chain]
  | succ k ih =>
    intro mask hmask j
    have hnext : Within n (mask ||| f mask) := by
      intro i hi
      rw [Nat.testBit_or, Bool.or_eq_true] at hi
      exact hi.elim (fun hi => hmask hi) fun hi => h.within hforward hmask hi
    rw [Search.reach]
    split_ifs with hclosed
    · -- The search stops before the rounds are used up.
      refine ⟨fun hj => ⟨j, hj, 0, Nat.zero_le _, rfl⟩, ?_⟩
      rintro ⟨i, hi, m, -, hchain⟩
      exact h.testBit_of_chain hmask hclosed hi hchain
    · rw [ih hnext j]
      simp only [Nat.testBit_or, Bool.or_eq_true, h hmask]
      constructor
      · rintro ⟨middle, hmiddle | ⟨i, hi, hstep⟩, m, hm, hchain⟩
        · exact ⟨middle, hmiddle, m, Nat.le_succ_of_le hm, hchain⟩
        · exact ⟨i, hi, m + 1, Nat.succ_le_succ hm, middle, hstep, hchain⟩
      · rintro ⟨i, hi, m, hm, hchain⟩
        cases m with
        | zero => exact ⟨i, Or.inl hi, 0, Nat.zero_le _, hchain⟩
        | succ m =>
          obtain ⟨middle, hstep, hrest⟩ := hchain
          exact ⟨middle, Or.inr ⟨i, hi, hstep⟩, m, Nat.succ_le_succ_iff.1 hm, hrest⟩

end Follows

/-! ### Masks -/

theorem testBit_maskOf (bs : List Bool) (i : Nat) :
    (Search.maskOf bs).testBit i = bs[i]?.getD false := by
  induction bs generalizing i with
  | nil => simp [Search.maskOf]
  | cons b bs ih =>
    cases i with
    | zero => cases b <;> simp [Search.maskOf, Nat.testBit_zero]
    | succ i =>
      have hhalf : (2 * Search.maskOf bs + if b = true then 1 else 0) / 2 = Search.maskOf bs := by
        split_ifs <;> omega
      rw [Search.maskOf, Nat.testBit_succ, hhalf, ih, List.getElem?_cons_succ]

theorem testBit_charMask (p : Char → Bool) (text : List Char) (i : Nat) :
    (Search.charMask p text).testBit i = true ↔ ∃ c, text[i]? = some c ∧ p c = true := by
  rw [Search.charMask, testBit_maskOf, List.getElem?_map]
  cases text[i]? <;> simp

theorem getElem?_placeMask (p : Option Char → Option Char → Bool) (before : Option Char)
    (text : List Char) {i : Nat} (hi : i ≤ text.length) :
    (Search.placeMask p before text)[i]? =
      some (p (if i = 0 then before else text[i - 1]?) text[i]?) := by
  induction text generalizing before i with
  | nil =>
    obtain rfl : i = 0 := Nat.le_zero.1 hi
    rfl
  | cons c text ih =>
    cases i with
    | zero => rfl
    | succ i =>
      rw [Search.placeMask, List.getElem?_cons_succ, ih _ (Nat.succ_le_succ_iff.1 hi)]
      cases i <;> rfl

theorem Regex.follows_fit_set (chars : Text.CharSet) (text : List Char) :
    Follows text.length ((Regex.set chars).fit text).ends ((Regex.set chars).Spans text) := by
  intro mask hmask j
  simp only [fit, Search.ends, Nat.testBit_shiftLeft, Nat.testBit_and, Bool.and_eq_true,
    decide_eq_true_eq, testBit_charMask, Spans]
  constructor
  · rintro ⟨hj, hi, hchar⟩
    exact ⟨j - 1, hi, by omega, hchar⟩
  · rintro ⟨i, hi, rfl, hchar⟩
    exact ⟨Nat.le_add_left 1 i, hi, hchar⟩

theorem Regex.follows_fit_look (condition : Look) (text : List Char) :
    Follows text.length ((Regex.look condition).fit text).ends
      ((Regex.look condition).Spans text) := by
  intro mask hmask j
  simp only [fit, Search.ends, Nat.testBit_and, Bool.and_eq_true, testBit_maskOf, Spans]
  constructor
  · rintro ⟨hj, hholds⟩
    rw [getElem?_placeMask _ _ _ (hmask hj), Option.getD_some] at hholds
    exact ⟨j, hj, rfl, hholds⟩
  · rintro ⟨i, hi, rfl, hholds⟩
    rw [getElem?_placeMask _ _ _ (hmask hi), Option.getD_some]
    exact ⟨hi, hholds⟩

/-! ### Expressions -/

/-- The bounds of every repetition are in order. -/
def Regex.Ordered : Regex → Prop
  | .empty | .set _ | .look _ => True
  | .seq a b | .alt a b => a.Ordered ∧ b.Ordered
  | .repeat a least most => a.Ordered ∧ ∀ m, most = some m → least ≤ m
  | .capture a => a.Ordered

/-- The rounds of a repetition, after those that must be, lead to everything that it
matches. -/
theorem Regex.spans_repeat_iff (text : List Char) {a : Regex} {least more : Nat}
    {most : Option Nat} (hsome : ∀ m, most = some m → least ≤ m ∧ more = m - least)
    (hnone : most = none → text.length ≤ more) {i : Nat} (hi : i ≤ text.length) (j : Nat) :
    (Regex.repeat a least most).Spans text i j ↔
      ∃ middle, Chain (a.Spans text) least i middle ∧
        ∃ m ≤ more, Chain (a.Spans text) m middle j := by
  have hforward := a.forward_spans text
  constructor
  · rintro ⟨k, hleast, hmost, hchain⟩
    obtain ⟨m, rfl⟩ := Nat.exists_eq_add_of_le hleast
    obtain ⟨middle, hfirst, hrest⟩ := chain_add.1 hchain
    have hmiddle := (hforward.chain least hi hfirst).2
    -- Rounds that lead nowhere are left out, so that the text limits how many there are.
    obtain ⟨m', hplaces, hle, hshort⟩ := exists_chain_le hforward hmiddle hrest
    refine ⟨middle, hfirst, m', ?_, hshort⟩
    cases most with
    | none =>
      have hend := (hforward.chain m hmiddle hrest).2
      have hmore := hnone rfl
      omega
    | some most =>
      have hlimit := hmost most rfl
      have hmore := (hsome most rfl).2
      omega
  · rintro ⟨middle, hfirst, m, hm, hrest⟩
    refine ⟨least + m, Nat.le_add_right _ _, ?_, chain_add.2 ⟨middle, hfirst, hrest⟩⟩
    rintro most rfl
    obtain ⟨hle, hmore⟩ := hsome most rfl
    omega

/-- **An expression that is fitted to a text leads from the places where a match starts
to those where it ends.** -/
theorem Regex.follows_fit (text : List Char) {r : Regex} (h : r.Ordered) :
    Follows text.length (r.fit text).ends (r.Spans text) := by
  induction r with
  | empty => exact fun mask hmask j => by simp [fit, Search.ends, Spans]
  | set chars => exact follows_fit_set chars text
  | look condition => exact follows_fit_look condition text
  | seq a b iha ihb => exact (iha h.1).comp (a.forward_spans text) (ihb h.2)
  | alt a b iha ihb =>
    intro mask hmask j
    simp only [fit, Search.ends, Nat.testBit_or, Bool.or_eq_true, iha h.1 hmask, ihb h.2 hmask,
      Spans, and_or_left, exists_or]
  | «repeat» a least most ih =>
    have hforward := a.forward_spans text
    have hrounds := fun more => ((ih h.1).times hforward least).comp (hforward.chain least)
      ((ih h.1).reach hforward more)
    intro mask hmask j
    cases most with
    | none =>
      -- Without an upper bound, a round for each place is enough.
      refine (hrounds (text.length + 1) hmask j).trans (exists_congr fun i => ?_)
      refine and_congr_right fun hi => (spans_repeat_iff text ?_ ?_ (hmask hi) j).symm
      · rintro m ⟨⟩
      · exact fun _ => Nat.le_succ _
    | some most =>
      refine (hrounds (most - least) hmask j).trans (exists_congr fun i => ?_)
      refine and_congr_right fun hi => (spans_repeat_iff text ?_ ?_ (hmask hi) j).symm
      · rintro m ⟨⟩
        exact ⟨h.2 most rfl, rfl⟩
      · rintro ⟨⟩
  | capture a ih => exact ih h

theorem testBit_allPlaces (n i : Nat) :
    (Nat.pow 2 (n + 1) - 1).testBit i = true ↔ i ≤ n := by
  rw [Nat.pow_eq, Nat.testBit_two_pow_sub_one, decide_eq_true_eq, Nat.lt_succ_iff]

/-- **Searching a text finds a match just if there is one.** -/
theorem Regex.occursIn_iff {r : Regex} (h : r.Ordered) (text : List Char) :
    r.occursIn text = true ↔ r.Occurs text := by
  have hends := r.follows_fit text h fun i hi => (testBit_allPlaces text.length i).1 hi
  simp only [testBit_allPlaces] at hends
  have hoccurs : (∃ j, ((r.fit text).ends (Nat.pow 2 (text.length + 1) - 1)).testBit j = true) ↔
      r.Occurs text := by
    simp only [hends]
    exact exists_comm
  rw [occursIn, bne_iff_ne, ← hoccurs]
  refine ⟨Nat.exists_testBit_of_ne_zero, ?_⟩
  rintro ⟨j, hj⟩ hzero
  rw [hzero, Nat.zero_testBit] at hj
  cases hj

end ColumnChecks.Pattern
