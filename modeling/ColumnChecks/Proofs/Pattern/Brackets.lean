import ColumnChecks.Proofs.Pattern.Escapes

/-!
# Bracket expressions, read and scanned

Inside brackets an item is a character, an escape sequence or a range, a named class
is passed over, and another bracket or a doubled sign is a construct. **A construct
inside brackets stays** to the end of the expression, however deep the reader goes
after it (`ColumnChecks.Pattern.bracketLoop_constructs`). As long as there is none,
only one bracket is open, and the scan takes the same items
(`ColumnChecks.Pattern.bracket_followed`).
-/

namespace ColumnChecks.Pattern

/-! ### Items of bracket expressions -/

theorem Escape.toItem_constructs {e : Escape} {item : ClassSet} (h : e.toItem = .ok item) :
    item.constructs = e.constructs := by
  cases e <;> cases h
  all_goals rfl

theorem Escape.toBound_constructs {e : Escape} {bound : Span × Spelling × Char}
    (h : e.toBound = .ok bound) : bound.2.1.constructs = e.constructs := by
  cases e <;> cases h
  all_goals rfl

theorem classPrimitive_inStep {c behind : Cursor} {char : Char} {rest : List Char} {e : Escape}
    (hc : c.At (char :: rest)) (h : classPrimitive c char = .ok (e, behind)) :
    InStep e.constructs (primitiveConstruct? char rest)
      (behind.At (rest.drop (primitiveLength char rest))) := by
  unfold classPrimitive at h
  unfold primitiveConstruct? primitiveLength
  split_ifs at h ⊢ with hescape
  · subst hescape
    exact escape_inStep hc h
  · cases h
    exact Or.inl ⟨rfl, rfl, hc.advance⟩

/-- **What an item is made of**: one end, or two with a hyphen between them. -/
theorem exists_of_classItem {frames : List ClassFrame} {c behind : Cursor} {char : Char}
    {item : ClassSet} (h : classItem frames c char = .ok (item, behind)) :
    ∃ low between, classPrimitive c char = .ok (low, between) ∧
      (((between.skipBlanks.char? ≠ some '-' ∨ between.skipBlanks.nextPastBlanks? = some ']' ∨
            between.skipBlanks.nextPastBlanks? = some '-') ∧
          item.constructs = low.constructs ∧ behind = between.skipBlanks) ∨
        between.skipBlanks.char? = some '-' ∧ between.skipBlanks.nextPastBlanks? ≠ some ']' ∧
          between.skipBlanks.nextPastBlanks? ≠ some '-' ∧
          ∃ d high, between.skipBlanks.step.char? = some d ∧
            classPrimitive between.skipBlanks.step d = .ok (high, behind) ∧
            item.constructs = low.constructs ++ high.constructs) := by
  unfold classItem at h
  obtain ⟨⟨low, between⟩, hlow, h⟩ := exists_of_bind_eq_ok h
  refine ⟨low, between, hlow, ?_⟩
  simp only at h
  split at h
  · cases h
  split at h
  · next hsingle =>
    obtain ⟨found, hfound, h⟩ := exists_of_bind_eq_ok h
    cases h
    refine Or.inl ⟨?_, Escape.toItem_constructs hfound, rfl⟩
    simpa [or_assoc] using hsingle
  · next hrange =>
    right
    simp only [Bool.or_eq_true, bne_iff_ne, beq_iff_eq, not_or, not_not] at hrange
    refine ⟨hrange.1.1, hrange.1.2, hrange.2, ?_⟩
    split at h
    · cases h
    · next d hd =>
      obtain ⟨⟨high, final⟩, hhigh, h⟩ := exists_of_bind_eq_ok h
      obtain ⟨low', hlow', h⟩ := exists_of_bind_eq_ok h
      obtain ⟨high', hhigh', h⟩ := exists_of_bind_eq_ok h
      split at h
      · cases h
        refine ⟨d, high, hd, hhigh, ?_⟩
        rw [ClassSet.constructs, Escape.toBound_constructs hlow', Escape.toBound_constructs hhigh']
      · cases h

theorem rangeEnd?_eq_none {cs : List Char}
    (h : cs.head? ≠ some '-' ∨ cs.tail.head? = some ']' ∨ cs.tail.head? = some '-') :
    rangeEnd? cs = none := by
  unfold rangeEnd?
  split
  · next d rest =>
    rw [if_pos]
    rcases h with h | h | h
    · exact absurd rfl h
    · exact Or.inl (Option.some.inj h)
    · exact Or.inr (Option.some.inj h)
  · rfl

/-- Where the reader sees no range, there is none in the text. -/
theorem rangeEnd?_eq_none_of_at {c : Cursor} {cs : List Char} (hc : c.At cs)
    (h : c.char? ≠ some '-' ∨ c.nextPastBlanks? = some ']' ∨ c.nextPastBlanks? = some '-') :
    rangeEnd? cs = none := by
  rw [hc.char?_eq] at h
  refine rangeEnd?_eq_none ?_
  by_cases hhyphen : cs.head? = some '-'
  · obtain ⟨more, rfl⟩ := List.head?_eq_some_iff.1 hhyphen
    rw [hc.nextPastBlanks?_eq] at h
    exact h
  · exact Or.inl hhyphen

/-- Where the reader sees a range, its second end is in the text. -/
theorem exists_rangeEnd?_of_at {c : Cursor} {cs : List Char} {d : Char} (hc : c.At cs)
    (hhyphen : c.char? = some '-') (hclose : c.nextPastBlanks? ≠ some ']')
    (hnext : c.nextPastBlanks? ≠ some '-') (hd : c.step.char? = some d) :
    ∃ more, cs = '-' :: d :: more ∧ rangeEnd? cs = some (d, more) ∧ c.step.At (d :: more) := by
  rw [hc.char?_eq] at hhyphen
  obtain ⟨rest, rfl⟩ := List.head?_eq_some_iff.1 hhyphen
  rw [hc.nextPastBlanks?_eq] at hclose hnext
  rw [hc.step.char?_eq] at hd
  obtain ⟨more, rfl⟩ := List.head?_eq_some_iff.1 hd
  refine ⟨more, rfl, ?_, hc.step⟩
  rw [rangeEnd?, if_neg]
  rintro (rfl | rfl)
  · exact hclose rfl
  · exact hnext rfl

/-- **An item** is read as the text says, a range included. -/
theorem classItem_inStep {frames : List ClassFrame} {c behind : Cursor} {char : Char}
    {rest : List Char} {item : ClassSet} (hc : c.At (char :: rest))
    (h : classItem frames c char = .ok (item, behind)) :
    InStep item.constructs (itemConstruct? true char rest)
      (behind.At (rest.drop (itemLength char rest))) := by
  obtain ⟨low, between, hlow, h⟩ := exists_of_classItem h
  unfold itemConstruct? itemLength
  rcases classPrimitive_inStep hc hlow with ⟨hnone, hfound, hbetween⟩ | ⟨hsome, hfound⟩
  · rw [hbetween.skipBlanks_eq] at h
    rw [hfound, Option.none_or]
    simp only
    rcases h with ⟨hsingle, hitem, rfl⟩ | ⟨hhyphen, hclose, hnext, d, high, hd, hhigh, hitem⟩
    · rw [rangeEnd?_eq_none_of_at hbetween hsingle]
      exact Or.inl ⟨hitem.trans hnone, rfl, hbetween⟩
    · -- A range, which is a construct if its second end is one.
      obtain ⟨more, hmore, hend, hstep⟩ :=
        exists_rangeEnd?_of_at hbetween hhyphen hclose hnext hd
      have hdrop : rest.drop (primitiveLength char rest + 2) = more := by
        rw [← List.drop_drop, hmore]
        rfl
      have hbracket : (if d = '[' then none else primitiveConstruct? d more) =
          primitiveConstruct? d more := by
        split_ifs with hd
        · rw [hd]
          rfl
        · rfl
      rw [hend, hitem, hnone, List.nil_append]
      simp only [if_true]
      rw [hbracket, ← List.drop_drop, hdrop]
      exact classPrimitive_inStep hstep hhigh
  · -- The first end is a construct, whatever comes behind it.
    right
    refine ⟨?_, ?_⟩
    · rcases h with ⟨-, hitem, -⟩ | ⟨-, -, -, d, high, -, -, hitem⟩
      · rw [hitem]
        exact hsome
      · rw [hitem]
        exact List.append_ne_nil_of_left_ne_nil hsome _
    · rw [Ne, Option.or_eq_none_iff]
      exact fun h => hfound h.1

/-! ### Signs inside brackets -/

theorem setOperation?_eq_none_iff {c : Cursor} {char : Char} {rest : List Char}
    (hc : c.At (char :: rest)) :
    setOperation? c char = none ↔
      ¬((char = '&' ∨ char = '-' ∨ char = '~') ∧ rest.head? = some char) := by
  unfold setOperation?
  rw [hc.next?_eq]
  by_cases hnext : rest.head? = some char
  · rw [if_pos hnext]
    split_ifs <;> simp_all
  · simp [hnext]

/-- The name of a class and the signs behind it. -/
def asciiName? (c : Cursor) : Option (AsciiClass × Cursor) :=
  let name := c.rest.takeWhile (· != ':')
  let final := c.skip name.length
  if final.startsWith [':', ']'] then
    (asciiClassOfName? (String.ofList name)).map fun kind => (kind, final.skip 2)
  else none

theorem asciiName?_at {c : Cursor} {cs : List Char} (hc : c.At cs) :
    (∃ length kind behind, asciiNameLength? cs = some length ∧
        asciiName? c = some (kind, behind) ∧ behind.At (cs.drop length)) ∨
      asciiNameLength? cs = none ∧ asciiName? c = none := by
  unfold asciiNameLength? asciiName?
  rw [hc.1]
  simp only
  rw [(hc.skip _).startsWith_eq]
  cases asciiClassOfName? (String.ofList (cs.takeWhile (· != ':'))) with
  | none =>
    right
    simp
  | some kind =>
    simp only [Option.isSome_some, Bool.true_and, Option.map_some]
    split_ifs
    · left
      refine ⟨_, _, _, rfl, rfl, ?_⟩
      rw [← List.drop_drop]
      exact (hc.skip _).skip 2
    · exact Or.inr ⟨rfl, rfl⟩

theorem asciiClass?_eq {c : Cursor} {more : List Char} (hc : c.At ('[' :: ':' :: more)) :
    asciiClass? c =
      (asciiName? (if more.head? = some '^' then (c.skip 2).advance else c.skip 2)).map
        fun found => (.ascii (found.2.since c.offset) found.1 (more.head? == some '^'),
          found.2) := by
  have hstarts : c.startsWith ['[', ':'] = true := by
    rw [hc.startsWith_eq]
    rfl
  have hinside : (c.skip 2).At more := hc.skip 2
  unfold asciiClass? asciiName?
  rw [if_pos hstarts]
  simp only [hinside.char?_eq, beq_iff_eq]
  split_ifs
  all_goals simp [Option.map_map, Function.comp_def]

/-- **A named class** is read if the text has one, and is no construct. -/
theorem asciiClass?_at {c : Cursor} {rest : List Char} (hc : c.At ('[' :: rest)) :
    (∃ length item behind, asciiLength? rest = some length ∧
        asciiClass? c = some (item, behind) ∧ item.constructs = [] ∧
        behind.At (rest.drop length)) ∨
      asciiLength? rest = none ∧ asciiClass? c = none := by
  by_cases hcolon : rest.head? = some ':'
  · obtain ⟨more, rfl⟩ := List.head?_eq_some_iff.1 hcolon
    have hinside : (c.skip 2).At more := hc.skip 2
    rw [asciiClass?_eq hc, asciiLength?]
    split_ifs with hsign
    · obtain ⟨name, rfl⟩ := List.head?_eq_some_iff.1 hsign
      rw [List.tail_cons]
      obtain ⟨length, kind, behind, hlength, hname, hbehind⟩ | ⟨hlength, hname⟩ :=
        asciiName?_at hinside.advance
      · rw [hlength, hname]
        exact Or.inl ⟨_, _, _, rfl, rfl, rfl, hbehind⟩
      · rw [hlength, hname]
        exact Or.inr ⟨rfl, rfl⟩
    · obtain ⟨length, kind, behind, hlength, hname, hbehind⟩ | ⟨hlength, hname⟩ :=
        asciiName?_at hinside
      · rw [hlength, hname]
        exact Or.inl ⟨_, _, _, rfl, rfl, rfl, hbehind⟩
      · rw [hlength, hname]
        exact Or.inr ⟨rfl, rfl⟩
  · right
    constructor
    · unfold asciiLength?
      split
      · exact absurd rfl hcolon
      · rfl
    · unfold asciiClass?
      rw [hc.startsWith_eq, if_neg]
      intro hprefix
      obtain ⟨more, hmore⟩ := List.isPrefixOf_iff_prefix.1 hprefix
      cases hmore
      exact hcolon rfl

/-! ### Opening brackets -/

/-- The hyphens at the start are literals, and there is something behind them. -/
theorem leadingHyphens_at {start fuel : Nat} {items found : List ClassSet} {c behind : Cursor}
    {cs : List Char} (hc : c.At cs) (hfuel : cs.length ≤ fuel)
    (hitems : ClassSet.constructsOf items = [])
    (h : leadingHyphens start fuel items c = .ok (found, behind)) :
    behind.At (cs.drop (cs.takeWhile (· == '-')).length) ∧ ClassSet.constructsOf found = [] ∧
      (found = [] ↔ items = [] ∧ (cs.takeWhile (· == '-')).length = 0) := by
  induction fuel generalizing items c cs with
  | zero =>
    obtain rfl : cs = [] := List.length_eq_zero_iff.1 (Nat.le_zero.1 hfuel)
    cases h
    exact ⟨hc, hitems, by simp⟩
  | succ fuel ih =>
    rw [leadingHyphens, hc.char?_eq] at h
    by_cases hhyphen : cs.head? = some '-'
    · obtain ⟨more, rfl⟩ := List.head?_eq_some_iff.1 hhyphen
      rw [if_pos hhyphen] at h
      simp only at h
      split at h
      · cases h
      · have hliteral : ClassSet.constructsOf (.literal c.charSpan .plain '-' :: items) = [] := by
          rw [ClassSet.constructsOf, hitems]
          rfl
        obtain ⟨hbehind, hfound, hnil⟩ := ih hc.step (Nat.le_of_succ_le_succ hfuel) hliteral h
        refine ⟨hbehind, hfound, ?_⟩
        rw [hnil]
        simp
    · rw [if_neg hhyphen] at h
      cases h
      have hnone : cs.takeWhile (· == '-') = [] := by
        cases cs with
        | nil => rfl
        | cons d cs =>
          exact List.takeWhile_cons_of_neg fun hd => hhyphen (congrArg some (eq_of_beq hd))
      rw [hnone]
      exact ⟨hc, hitems, by simp⟩

/-- What stands for itself at the start, and the place behind it. -/
theorem leading_at {start : Nat} {found : List ClassSet} {c between : Cursor} {cs : List Char}
    (hc : c.At cs) (h : leadingHyphens start c.rest.length [] c = .ok (found, between)) :
    if (found.isEmpty && between.char? == some ']') = true then
      between.step.At (cs.drop (leadingLength cs))
    else between.At (cs.drop (leadingLength cs)) ∧ ClassSet.constructsOf found = [] := by
  obtain ⟨hbetween, hfound, hnil⟩ :=
    leadingHyphens_at hc (Nat.le_of_eq (congrArg List.length hc.1.symm)) rfl h
  unfold leadingLength
  simp only [Bool.and_eq_true, List.isEmpty_iff, hnil, true_and, beq_iff_eq]
  by_cases hhyphens : (cs.takeWhile (· == '-')).length = 0
  · rw [hhyphens, List.drop_zero] at hbetween
    rw [hbetween.char?_eq]
    split_ifs with hleading
    · obtain ⟨more, rfl⟩ := List.head?_eq_some_iff.1 hleading.2
      exact hbetween.step
    · rw [hhyphens]
      exact ⟨hbetween, hfound⟩
  · rw [if_neg (fun h => hhyphens h.1), if_neg (fun h => hhyphens h.1)]
    exact ⟨hbetween, hfound⟩

/-- A closing bracket at the start is a literal if there are no hyphens. -/
def leadingItems (negated : Bool) (bracket start : Nat) (found : List ClassSet)
    (between : Cursor) : Except Fault (Bool × List ClassSet × Nat × Cursor) := do
  if found.isEmpty && between.char? == some ']' then
    let items := [ClassSet.literal between.charSpan .plain ']']
    if between.step.atEnd then .error ⟨.classUnclosed, between.step.since bracket⟩
    .ok (negated, items, start, between.step)
  else .ok (negated, found, start, between)

theorem openBracket_eq (c : Cursor) :
    openBracket c =
      let inside := if c.step.char? == some '^' then c.step.step else c.step
      if c.step.atEnd then .error ⟨.classUnclosed, c.step.since c.offset⟩
      else if inside.atEnd then .error ⟨.classUnclosed, inside.since c.offset⟩
      else leadingHyphens c.offset inside.rest.length [] inside >>= fun found =>
        leadingItems (c.step.char? == some '^') c.offset inside.offset found.1 found.2 := by
  unfold openBracket leadingItems
  simp only
  split
  · rfl
  · generalize (if (c.step.char? == some '^') = true then c.step.step else c.step) = inside
    split
    · rfl
    · rfl

/-- **An opening bracket** brings no construct. -/
theorem openBracket_at {c behind : Cursor} {rest : List Char} {negated : Bool}
    {items : List ClassSet} {start : Nat} (hc : c.At ('[' :: rest))
    (h : openBracket c = .ok (negated, items, start, behind)) :
    behind.At (rest.drop (openingLength rest)) ∧ ClassSet.constructsOf items = [] := by
  rw [openBracket_eq] at h
  obtain ⟨inside, cs, hif, hinside, hdrop⟩ : ∃ inside cs,
      (if c.step.char? == some '^' then c.step.step else c.step) = inside ∧ inside.At cs ∧
        rest.drop (openingLength rest) = cs.drop (leadingLength cs) := by
    rw [hc.step.char?_eq, openingLength]
    by_cases hsign : rest.head? = some '^'
    · obtain ⟨cs, rfl⟩ := List.head?_eq_some_iff.1 hsign
      exact ⟨_, cs, rfl, hc.step.step, rfl⟩
    · refine ⟨_, rest, rfl, ?_, by rw [if_neg hsign]⟩
      rw [if_neg (by simpa using hsign)]
      exact hc.step
  simp only [hif] at h
  split at h
  · cases h
  split at h
  · cases h
  obtain ⟨⟨found, between⟩, hfound, h⟩ := exists_of_bind_eq_ok h
  have hleading := leading_at hinside hfound
  rw [hdrop]
  unfold leadingItems at h
  split at h
  · next hclose =>
    rw [if_pos hclose] at hleading
    split at h
    · cases h
    · cases h
      exact ⟨hleading, rfl⟩
  · next hclose =>
    rw [if_neg hclose] at hleading
    cases h
    exact hleading

/-! ### Sets of items -/

theorem ClassSet.constructsOf_eq_nil_iff {items : List ClassSet} :
    ClassSet.constructsOf items = [] ↔ ∀ item ∈ items, item.constructs = [] := by
  induction items with
  | nil => simp [ClassSet.constructsOf]
  | cons item items ih => simp [ClassSet.constructsOf, ih]

theorem ClassSet.constructs_ofItems {start : Nat} {items : List ClassSet} :
    (ClassSet.ofItems start items).constructs = [] ↔ ClassSet.constructsOf items = [] := by
  match items with
  | [] => simp [ClassSet.ofItems, ClassSet.constructs, ClassSet.constructsOf]
  | [item] => simp [ClassSet.ofItems, ClassSet.constructsOf]
  | item :: item' :: items =>
    rw [ClassSet.ofItems, ClassSet.constructs, ClassSet.constructsOf_eq_nil_iff,
      ClassSet.constructsOf_eq_nil_iff]
    · simp only [List.mem_reverse]
    · exact nofun
    · exact nofun

/-- An operation is a construct. -/
theorem closeOperation_eq {right : ClassSet} {frames : List ClassFrame}
    (h : (closeOperation right frames).1.constructs = []) :
    closeOperation right frames = (right, frames) := by
  unfold closeOperation at h ⊢
  split
  · cases h
  · rfl

/-! ### Whole expressions -/

/-- **The scan follows the reader**: either nothing has been found, and both go on
from the same place; or both have found something. -/
def Followed (constructs : List Construct) (inside : Bool) (cs : List Char) (behind : Cursor) :
    Prop :=
  (constructs = [] ∧ ∃ rest, behind.At rest ∧ rest.length < cs.length ∧
      firstConstruct? true inside cs = firstConstruct? true false rest) ∨
    constructs ≠ [] ∧ firstConstruct? true inside cs ≠ none

theorem Followed.of_ne {constructs : List Construct} {inside : Bool} {cs : List Char}
    {behind : Cursor} (hconstructs : constructs ≠ [])
    (hfound : firstConstruct? true inside cs ≠ none) : Followed constructs inside cs behind :=
  Or.inr ⟨hconstructs, hfound⟩

/-- Going on behind what is no construct. -/
theorem Followed.of_drop {constructs : List Construct} {inside inside' : Bool} {c : Char}
    {rest : List Char} {n : Nat} {behind : Cursor}
    (h : Followed constructs inside' (rest.drop n) behind)
    (heq : firstConstruct? true inside (c :: rest) = firstConstruct? true inside' (rest.drop n)) :
    Followed constructs inside (c :: rest) behind := by
  have hlength : (rest.drop n).length ≤ (c :: rest).length := by
    rw [List.length_drop, List.length_cons]
    omega
  rw [Followed, heq]
  exact h.imp (fun ⟨hnil, more, hmore, hlt, hscan⟩ =>
    ⟨hnil, more, hmore, Nat.lt_of_lt_of_le hlt hlength, hscan⟩) id

/-- An expression without constructs is one bracket, with nothing open inside it. -/
def SingleBracket (frames : List ClassFrame) : Prop :=
  ∃ before start span negated, frames = [.opened before start span negated]

/-- **A construct inside brackets stays** to the end. -/
theorem bracketLoop_constructs {fuel : Nat} {frames : List ClassFrame} {items : List ClassSet}
    {start : Nat} {c behind : Cursor} {tree : Tree} (hframes : frames ≠ [])
    (h : bracketLoop fuel frames items start c = .ok (tree, behind))
    (htree : tree.constructs = []) :
    SingleBracket frames ∧ ClassSet.constructsOf items = [] := by
  induction fuel generalizing frames items start c with
  | zero => cases h
  | succ fuel ih =>
    rw [bracketLoop] at h
    simp only at h
    split at h
    · cases h
    · -- An opening bracket: a named class, or a bracket inside this one.
      split at h
      · obtain ⟨hsingle, hitems⟩ := ih hframes h
        exact ⟨hsingle, (List.append_eq_nil_iff.1 hitems).2⟩
      · obtain ⟨⟨negated, inside, insideStart, between⟩, hopen, h⟩ := exists_of_bind_eq_ok h
        obtain ⟨⟨before, start', span, negated', hsingle⟩, -⟩ := ih (List.cons_ne_nil _ _) h
        cases hsingle
        exact absurd rfl hframes
    · -- A closing bracket: of the whole expression, or of one inside it.
      split at h
      · next hclose =>
        cases h
        rw [Tree.constructs] at htree
        rw [closeOperation_eq htree] at hclose
        rw [closeOperation_eq htree, ClassSet.constructs_ofItems] at htree
        exact ⟨⟨_, _, _, _, hclose⟩, htree⟩
      · next hmore hclose =>
        obtain ⟨-, hitems⟩ := ih hmore h
        cases hitems
      · cases h
    · split at h
      · obtain ⟨⟨before, start', span, negated, hsingle⟩, -⟩ := ih (List.cons_ne_nil _ _) h
        cases hsingle
      · obtain ⟨⟨item, between⟩, hitem, h⟩ := exists_of_bind_eq_ok h
        obtain ⟨hsingle, hitems⟩ := ih hframes h
        exact ⟨hsingle, (List.append_eq_nil_iff.1 hitems).2⟩

/-- What is opened inside brackets makes a construct. -/
theorem constructs_ne_nil_of_bracketLoop {fuel : Nat} {first second : ClassFrame}
    {frames : List ClassFrame} {items : List ClassSet} {start : Nat} {c behind : Cursor}
    {tree : Tree}
    (h : bracketLoop fuel (first :: second :: frames) items start c = .ok (tree, behind)) :
    tree.constructs ≠ [] := by
  intro htree
  obtain ⟨⟨_, _, _, _, hsingle⟩, -⟩ := bracketLoop_constructs (List.cons_ne_nil _ _) h htree
  cases hsingle

theorem constructsOf_cons_eq_nil {item : ClassSet} {items : List ClassSet}
    (hitem : item.constructs = []) (hitems : ClassSet.constructsOf items = []) :
    ClassSet.constructsOf (item :: items) = [] := by
  rw [ClassSet.constructsOf, hitem, hitems]
  rfl

/-- **Inside brackets** the scan follows the reader. -/
theorem bracketLoop_followed {fuel : Nat} {before items : List ClassSet} {start start' : Nat}
    {span : Span} {negated : Bool} {c behind : Cursor} {cs : List Char} {tree : Tree}
    (hc : c.At cs) (hitems : ClassSet.constructsOf items = [])
    (h : bracketLoop fuel [.opened before start' span negated] items start c =
      .ok (tree, behind)) : Followed tree.constructs true cs behind := by
  -- As long as no construct was read, the stack holds the outermost bracket only.
  induction fuel generalizing items start c cs with
  | zero => cases h
  | succ fuel ih =>
    rw [bracketLoop, hc.skipBlanks_eq] at h
    simp only [hc.char?_eq] at h
    cases cs with
    | nil => cases h
    | cons char rest =>
      rw [List.head?_cons] at h
      split at h
      · next heq => cases heq
      · next heq =>
        -- An opening bracket: a named class, or a construct.
        cases heq
        obtain ⟨length, item, between, hlength, hitem, hnone, hbetween⟩ | ⟨hlength, hitem⟩ :=
          asciiClass?_at hc
        · rw [hitem] at h
          exact (ih hbetween (constructsOf_cons_eq_nil hnone hitems) h).of_drop
            (firstConstruct?_ascii _ hlength)
        · rw [hitem] at h
          obtain ⟨⟨negated', inside, insideStart, between⟩, -, h⟩ := exists_of_bind_eq_ok h
          refine .of_ne (constructs_ne_nil_of_bracketLoop h) ?_
          rw [firstConstruct?_nested _ hlength]
          exact Option.some_ne_none _
      · next heq =>
        -- A closing bracket: the end, since no other bracket is open.
        cases heq
        cases h
        exact Or.inl ⟨ClassSet.constructs_ofItems.2 hitems, rest, hc.advance,
          Nat.lt_succ_self _, firstConstruct?_close _ rest⟩
      · next char' hopen hclose heq =>
        cases heq
        split at h
        · next op hop =>
          refine .of_ne (constructs_ne_nil_of_bracketLoop h) ?_
          rw [firstConstruct?_doubled]
          · exact Option.some_ne_none _
          · by_contra hdoubled
            rw [(setOperation?_eq_none_iff hc).2 hdoubled] at hop
            cases hop
        · next hop =>
          have hscan := firstConstruct?_item true hopen hclose
            ((setOperation?_eq_none_iff hc).1 hop)
          obtain ⟨⟨item, between⟩, hitem, h⟩ := exists_of_bind_eq_ok h
          obtain ⟨hnone, hfound, hbetween⟩ | ⟨hsome, hfound⟩ := classItem_inStep hc hitem
          · refine (ih hbetween (constructsOf_cons_eq_nil hnone hitems) h).of_drop ?_
            rw [hscan, hfound, Option.none_or]
          · refine .of_ne (fun htree => ?_) ?_
            · obtain ⟨-, hmore⟩ := bracketLoop_constructs (List.cons_ne_nil _ _) h htree
              exact hsome (List.append_eq_nil_iff.1 hmore).1
            · rw [hscan, Ne, Option.or_eq_none_iff]
              exact fun h => hfound h.1

theorem bracket_followed {c behind : Cursor} {rest : List Char} {tree : Tree}
    (hc : c.At ('[' :: rest)) (h : bracket c = .ok (tree, behind)) :
    Followed tree.constructs false ('[' :: rest) behind := by
  obtain ⟨⟨negated, items, start, between⟩, hopen, h⟩ := exists_of_bind_eq_ok h
  obtain ⟨hbetween, hitems⟩ := openBracket_at hc hopen
  exact (bracketLoop_followed hbetween hitems h).of_drop (firstConstruct?_bracket _ rest)

end ColumnChecks.Pattern
