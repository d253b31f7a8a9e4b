import Mathlib.Data.List.TakeWhile
import Mathlib.Order.Basic
import ColumnChecks.Proofs.Pattern.Inventory

/-!
# What the quick scan finds

The quick scan of `ColumnChecks.Pattern.unshared?` and the one that follows brackets
the way they are read disagree about brackets inside brackets, and about nothing
else: **where the quick scan finds no construct, the first one there is can only be
such a bracket** (`ColumnChecks.Pattern.nestedOnly_of_constructFrom?`). Up to there both
scans agree about where a bracket expression starts and ends, which is what is
carried along here.
-/

namespace ColumnChecks.Pattern

/-- A scan finds nothing, or a bracket inside brackets first. -/
def NestedOnly (found : Option Construct) : Prop := found = none ∨ found = some .nestedClass

/-! ### Passing over characters -/

/-- The mode of a scan so many characters further on. -/
def ScanMode.pass (n : Nat) : ScanMode → ScanMode
  | .outside => .outside
  | .inside shielded => .inside (shielded - n)

theorem ScanMode.pass_zero (mode : ScanMode) : mode.pass 0 = mode := by
  cases mode <;> rfl

theorem ScanMode.pass_pass (m n : Nat) (mode : ScanMode) :
    (mode.pass m).pass n = mode.pass (m + n) := by
  cases mode with
  | outside => rfl
  | inside shielded =>
    simp only [pass, ScanMode.inside.injEq]
    omega

/-- Characters that were dealt with are passed over. -/
theorem constructFrom?_passed (n : Nat) (mode : ScanMode) (cs : List Char) :
    constructFrom? n mode cs = constructFrom? 0 (mode.pass n) (cs.drop n) := by
  induction n generalizing mode cs with
  | zero => rw [ScanMode.pass_zero, List.drop_zero]
  | succ n ih =>
    cases cs with
    | nil => rfl
    | cons c cs =>
      rw [constructFrom?.eq_def]
      simp only
      rw [if_pos (Nat.succ_pos n), Nat.add_sub_cancel, List.drop_succ_cons, ih]
      cases mode with
      | outside => rfl
      | inside shielded =>
        simp only [ScanMode.pass]
        rw [Nat.sub_sub, Nat.add_comm 1 n]

theorem constructFrom?_backslash (mode : ScanMode) (rest : List Char) :
    constructFrom? 0 mode ('\\' :: rest) =
      (escapedConstruct? rest).or (constructFrom? 0 (mode.pass 2) (rest.drop 1)) := by
  rw [constructFrom?.eq_def]
  simp only [lt_irrefl, if_false, if_true]
  cases escapedConstruct? rest with
  | some construct => rfl
  | none =>
    simp only [Option.none_or]
    rw [constructFrom?_passed]
    cases mode <;> rfl

/-- Characters that mean nothing to the quick scan. -/
def isInert (c : Char) : Bool := !(['\\', '[', ']', '(', '&', '-', '~'].contains c)

theorem ne_of_isInert {c d : Char} (h : isInert c = true) (hd : isInert d = false) : c ≠ d := by
  rintro rfl
  rw [h] at hd
  cases hd

theorem constructFrom?_cons {c : Char} (hc : isInert c = true) (mode : ScanMode)
    (rest : List Char) :
    constructFrom? 0 mode (c :: rest) = constructFrom? 0 (mode.pass 1) rest := by
  rw [constructFrom?.eq_def]
  simp only
  rw [if_neg (lt_irrefl 0), if_neg (ne_of_isInert hc rfl)]
  cases mode with
  | outside =>
    simp only
    rw [if_neg (ne_of_isInert hc rfl), if_neg (ne_of_isInert hc rfl)]
    rfl
  | inside shielded =>
    simp only
    rw [if_neg (fun h => ne_of_isInert hc rfl h.1), if_neg (ne_of_isInert hc rfl), if_neg]
    · rfl
    · rintro ⟨h | h | h, -⟩
      · exact ne_of_isInert hc rfl h
      · exact ne_of_isInert hc rfl h
      · exact ne_of_isInert hc rfl h

theorem constructFrom?_append {pre : List Char} (hpre : ∀ c ∈ pre, isInert c = true)
    (mode : ScanMode) (rest : List Char) :
    constructFrom? 0 mode (pre ++ rest) = constructFrom? 0 (mode.pass pre.length) rest := by
  induction pre generalizing mode with
  | nil => rw [List.nil_append, List.length_nil, ScanMode.pass_zero]
  | cons c pre ih =>
    obtain ⟨hc, hpre⟩ := List.forall_mem_cons.1 hpre
    rw [List.cons_append, constructFrom?_cons hc, ih hpre, ScanMode.pass_pass, List.length_cons,
      Nat.add_comm 1]

theorem isInert_of_isHexDigit {c : Char} (h : isHexDigit c = true) : isInert c = true := by
  rw [isInert, Bool.not_eq_true', ← Bool.not_eq_true, List.contains_iff_mem]
  intro hmem
  have hall : ['\\', '[', ']', '(', '&', '-', '~'].all (!isHexDigit ·) = true := rfl
  have hnot := List.all_eq_true.1 hall c hmem
  rw [h] at hnot
  cases hnot

/-- The quick scan goes through the hexadecimal digits behind an escape sequence. -/
theorem constructFrom?_hexLength (limit : Nat) (mode : ScanMode) (cs : List Char) :
    constructFrom? 0 mode cs =
      constructFrom? 0 (mode.pass (hexLength limit cs)) (cs.drop (hexLength limit cs)) := by
  have hprefix : (cs.take limit).takeWhile isHexDigit ++ cs.drop (hexLength limit cs) = cs :=
    List.prefix_iff_eq_append.1 ((List.takeWhile_prefix _).trans (List.take_prefix _ _))
  conv_lhs => rw [← hprefix]
  exact constructFrom?_append
    (fun c hc => isInert_of_isHexDigit (List.mem_takeWhile_imp hc)) mode _

/-! ### Escape sequences -/

/-- An escape sequence that the quick scan goes through. -/
theorem constructFrom?_escape {mode : ScanMode} {rest : List Char}
    (h : constructFrom? 0 mode ('\\' :: rest) = none) :
    escapedConstruct? rest = none ∧
      ∃ n, 0 < n ∧ constructFrom? 0 (mode.pass n) (rest.drop (escapeLength rest)) = none := by
  rw [constructFrom?_backslash, Option.or_eq_none_iff] at h
  obtain ⟨hescaped, hpass⟩ := h
  refine ⟨hescaped, ?_⟩
  unfold escapeLength
  have hhex : ∀ limit, ∃ n, 0 < n ∧ constructFrom? 0 (mode.pass n)
      ((rest.drop 1).drop (hexLength limit (rest.drop 1))) = none := by
    intro limit
    rw [constructFrom?_hexLength limit, ScanMode.pass_pass] at hpass
    exact ⟨_, Nat.add_pos_left Nat.zero_lt_two _, hpass⟩
  split
  · rw [← List.drop_drop]
    exact hhex 2
  · rw [← List.drop_drop]
    exact hhex 4
  · rw [← List.drop_drop]
    exact hhex 8
  · exact ⟨2, Nat.zero_lt_two, hpass⟩

/-! ### Inside brackets -/

theorem ScanMode.pass_inside {shielded n : Nat} (h : shielded ≤ n) :
    (ScanMode.inside shielded).pass n = .inside 0 := by
  rw [ScanMode.pass, Nat.sub_eq_zero_of_le h]

/-- A character inside brackets that the quick scan goes through, neither of which is
a bracket. -/
theorem constructFrom?_primitive {shielded : Nat} {c : Char} {rest : List Char}
    (h : constructFrom? 0 (.inside shielded) (c :: rest) = none) (hshielded : shielded ≤ 1)
    (hopen : c ≠ '[') (hclose : c ≠ ']') :
    primitiveConstruct? c rest = none ∧
      constructFrom? 0 (.inside 0) (rest.drop (primitiveLength c rest)) = none := by
  unfold primitiveConstruct? primitiveLength
  split_ifs with hescape
  · subst hescape
    obtain ⟨hescaped, n, hn, hpass⟩ := constructFrom?_escape h
    rw [ScanMode.pass_inside (hshielded.trans hn)] at hpass
    exact ⟨hescaped, hpass⟩
  · rw [constructFrom?.eq_def] at h
    simp only at h
    rw [if_neg (lt_irrefl 0), if_neg hescape, if_neg (fun h => hclose h.1), if_neg hopen] at h
    split_ifs at h
    rw [Nat.sub_eq_zero_of_le hshielded] at h
    exact ⟨rfl, h⟩

/-- Two equal signs are reported by the quick scan as well. -/
theorem constructFrom?_doubled {shielded : Nat} {c : Char} {rest : List Char}
    (h : constructFrom? 0 (.inside shielded) (c :: rest) = none)
    (hc : c = '&' ∨ c = '-' ∨ c = '~') : rest.head? ≠ some c := by
  intro hrest
  have hother : c ≠ '\\' ∧ c ≠ ']' ∧ c ≠ '[' := by
    rcases hc with rfl | rfl | rfl <;> decide
  rw [constructFrom?.eq_def] at h
  simp only at h
  rw [if_neg (lt_irrefl 0), if_neg hother.1, if_neg (fun h => hother.2.1 h.1), if_neg hother.2.2,
    if_pos ⟨hc, hrest⟩] at h
  cases h

/-- An item that the quick scan goes through, unless it is a range up to a bracket. -/
theorem constructFrom?_item {shielded : Nat} {c : Char} {rest : List Char}
    (h : constructFrom? 0 (.inside shielded) (c :: rest) = none) (hshielded : shielded ≤ 1)
    (hopen : c ≠ '[') (hclose : c ≠ ']') :
    itemConstruct? false c rest = some .nestedClass ∨
      itemConstruct? false c rest = none ∧
        constructFrom? 0 (.inside 0) (rest.drop (itemLength c rest)) = none := by
  obtain ⟨hlow, hbehind⟩ := constructFrom?_primitive h hshielded hopen hclose
  unfold itemConstruct? itemLength
  simp only [hlow, Option.none_or]
  cases hend : rangeEnd? (rest.drop (primitiveLength c rest)) with
  | none => exact Or.inr ⟨rfl, hbehind⟩
  | some found =>
    obtain ⟨d, more⟩ := found
    simp only [Bool.false_eq_true, if_false]
    split_ifs with hd
    · exact Or.inl rfl
    -- To the quick scan the hyphen and the second end are items of their own.
    right
    unfold rangeEnd? at hend
    split at hend
    · next d' more' heq =>
      split_ifs at hend with hsign
      cases hend
      obtain ⟨hbracket, -⟩ := not_or.1 hsign
      rw [heq] at hbehind
      have hhyphen := (constructFrom?_primitive hbehind (Nat.zero_le 1) (by decide) (by decide)).2
      obtain ⟨hhigh, hmore⟩ := constructFrom?_primitive hhyphen (Nat.zero_le 1) hd hbracket
      refine ⟨hhigh, ?_⟩
      have hdrop : rest.drop (primitiveLength c rest + 2) = more := by
        rw [← List.drop_drop, heq]
        rfl
      rw [← List.drop_drop, hdrop]
      exact hmore
    · cases hend

/-! ### Opening brackets -/

/-- The quick scan is behind an opening bracket, where no closing one can stand. -/
def BehindOpening (shielded : Nat) (cs : List Char) : Prop :=
  shielded ≤ 1 ∧ (shielded = 1 → cs.head? ≠ some ']')

/-- What stands for itself is passed over. -/
theorem constructFrom?_leading {cs : List Char} (h : constructFrom? 0 (.inside 1) cs = none) :
    ∃ shielded, BehindOpening shielded (cs.drop (leadingLength cs)) ∧
      constructFrom? 0 (.inside shielded) (cs.drop (leadingLength cs)) = none := by
  cases cs with
  | nil => exact ⟨1, ⟨le_rfl, nofun⟩, h⟩
  | cons c cs =>
    by_cases hclose : c = ']'
    · subst hclose
      refine ⟨0, ⟨Nat.zero_le 1, nofun⟩, ?_⟩
      rw [constructFrom?.eq_def] at h
      exact h
    by_cases hhyphen : c = '-'
    · subst hhyphen
      have hlength : leadingLength ('-' :: cs) = 1 := by
        have hnext : cs.takeWhile (· == '-') = [] := by
          cases cs with
          | nil => rfl
          | cons d cs =>
            refine List.takeWhile_cons_of_neg fun hd => ?_
            exact constructFrom?_doubled h (Or.inr (Or.inl rfl)) (congrArg some (eq_of_beq hd))
        simp [leadingLength, hnext]
      rw [hlength]
      exact ⟨0, ⟨Nat.zero_le 1, nofun⟩,
        (constructFrom?_primitive h le_rfl (by decide) (by decide)).2⟩
    · have hlength : leadingLength (c :: cs) = 0 := by
        simp [leadingLength, hclose, hhyphen]
      rw [hlength]
      exact ⟨1, ⟨le_rfl, fun _ hhead => hclose (Option.some.inj hhead)⟩, h⟩

theorem constructFrom?_opening {rest : List Char}
    (h : constructFrom? 0 .outside ('[' :: rest) = none) :
    ∃ shielded, BehindOpening shielded (rest.drop (openingLength rest)) ∧
      constructFrom? 0 (.inside shielded) (rest.drop (openingLength rest)) = none := by
  rw [constructFrom?.eq_def] at h
  simp only [lt_irrefl, if_false, if_true] at h
  rw [if_neg (by decide)] at h
  unfold openingLength
  cases rest with
  | nil => exact constructFrom?_leading h
  | cons c cs =>
    rw [List.head?_cons] at h ⊢
    split_ifs at h ⊢ with hsign
    · cases hsign
      rw [constructFrom?_cons (by decide)] at h
      rw [List.tail_cons, List.drop_succ_cons]
      exact constructFrom?_leading h
    · exact constructFrom?_leading h

/-! ### Named classes -/

theorem namedClassLength?_append {pre : List Char} (hpre : ∀ c ∈ pre, c ≠ ':')
    (rest : List Char) : namedClassLength? (pre ++ ':' :: ']' :: rest) = some (pre.length + 2) := by
  induction pre with
  | nil => rfl
  | cons c pre ih =>
    obtain ⟨hc, hpre⟩ := List.forall_mem_cons.1 hpre
    rw [List.cons_append, namedClassLength?, ih hpre]
    · rfl
    · intro more h
      exact absurd h hc

theorem exists_of_asciiNameLength? {cs : List Char} {length : Nat}
    (h : asciiNameLength? cs = some length) :
    ∃ name rest, (∀ c ∈ name, c ≠ ':') ∧ cs = name ++ ':' :: ']' :: rest ∧
      length = name.length + 2 := by
  unfold asciiNameLength? at h
  simp only at h
  split_ifs at h with hname
  cases h
  rw [Bool.and_eq_true] at hname
  obtain ⟨rest, hrest⟩ := List.isPrefixOf_iff_prefix.1 hname.2
  refine ⟨_, rest, fun c hc => ?_, ?_, rfl⟩
  · have := List.mem_takeWhile_imp (p := fun d => d != ':') hc
    exact bne_iff_ne.1 this
  · have hcs := List.prefix_iff_eq_append.1 (List.takeWhile_prefix (l := cs) fun d => d != ':')
    rw [← hrest] at hcs
    exact hcs.symm

/-- Where a named class ends, both scans agree. -/
theorem namedClassLength?_of_asciiLength? {rest : List Char} {length : Nat}
    (h : asciiLength? rest = some length) :
    ∃ more found, rest = ':' :: more ∧ namedClassLength? more = some found ∧
      length = found + 1 := by
  unfold asciiLength? at h
  split at h
  · next more =>
    split_ifs at h with hsign
    · obtain ⟨n, hn, rfl⟩ := Option.map_eq_some_iff.1 h
      obtain ⟨name, rest, hname, hcs, rfl⟩ := exists_of_asciiNameLength? hn
      cases more with
      | nil => cases hsign
      | cons c cs =>
        cases hsign
        rw [List.tail_cons] at hcs
        have hall : ∀ c ∈ '^' :: name, c ≠ ':' := List.forall_mem_cons.2 ⟨by decide, hname⟩
        rw [hcs]
        exact ⟨_, _, rfl, namedClassLength?_append hall rest, rfl⟩
    · obtain ⟨n, hn, rfl⟩ := Option.map_eq_some_iff.1 h
      obtain ⟨name, rest, hname, rfl, rfl⟩ := exists_of_asciiNameLength? hn
      exact ⟨_, _, rfl, namedClassLength?_append hname rest, rfl⟩
  · cases h

/-! ### Both scans -/

theorem constructFrom?_outside {c : Char} {rest : List Char} (hescape : c ≠ '\\') (hopen : c ≠ '[')
    (hgroup : c ≠ '(') :
    constructFrom? 0 .outside (c :: rest) = constructFrom? 0 .outside rest := by
  rw [constructFrom?.eq_def]
  simp only [lt_irrefl, if_false]
  rw [if_neg hescape, if_neg hopen, if_neg hgroup]

theorem constructFrom?_parenthesis (rest : List Char) :
    constructFrom? 0 .outside ('(' :: rest) =
      (parenthesisConstruct? rest).or (constructFrom? 0 .outside rest) := by
  rw [constructFrom?.eq_def]
  simp only [lt_irrefl, if_false, if_true]
  rw [if_neg (by decide), if_neg (by decide)]
  unfold parenthesisConstruct?
  split
  · next more =>
    rw [List.head?_cons, if_pos rfl, List.tail_cons]
    cases groupConstruct? more <;> rfl
  · next hother =>
    rw [if_neg]
    · rfl
    · intro hhead
      obtain ⟨more, rfl⟩ := List.head?_eq_some_iff.1 hhead
      exact hother more rfl

theorem constructFrom?_ascii {shielded length : Nat} {rest : List Char} (hshielded : shielded ≤ 1)
    (h : asciiLength? rest = some length) :
    constructFrom? 0 (.inside shielded) ('[' :: rest) =
      constructFrom? 0 (.inside 0) (rest.drop length) := by
  obtain ⟨more, found, rfl, hfound, rfl⟩ := namedClassLength?_of_asciiLength? h
  rw [constructFrom?.eq_def]
  simp only [lt_irrefl, if_false, if_true]
  rw [if_neg (by decide), if_neg (fun h => absurd h.1 (by decide)), hfound]
  simp only
  rw [constructFrom?_passed, ScanMode.pass_inside (by omega)]

/-- The quick scan is where the other one is. -/
def Agrees : Bool → ScanMode → List Char → Prop
  | false, .outside, _ => True
  | true, .inside shielded, cs => BehindOpening shielded cs
  | _, _, _ => False

theorem Agrees.eq_outside {mode : ScanMode} {cs : List Char} (h : Agrees false mode cs) :
    mode = .outside := by
  cases mode with
  | outside => rfl
  | inside shielded => cases h

theorem Agrees.exists_inside {mode : ScanMode} {cs : List Char} (h : Agrees true mode cs) :
    ∃ shielded, mode = .inside shielded ∧ BehindOpening shielded cs := by
  cases mode with
  | outside => cases h
  | inside shielded => exact ⟨shielded, rfl, h⟩

theorem agrees_outside (cs : List Char) : Agrees false .outside cs := trivial

theorem agrees_inside (cs : List Char) : Agrees true (.inside 0) cs := ⟨Nat.zero_le 1, nofun⟩

/-- **Where the quick scan finds nothing**, the first construct is a bracket inside
brackets, if there is one. -/
theorem nestedOnly_of_constructFrom? {inside : Bool} {mode : ScanMode} {cs : List Char}
    (hagrees : Agrees inside mode cs) (h : constructFrom? 0 mode cs = none) :
    NestedOnly (firstConstruct? false inside cs) := by
  -- The cases are the steps of the full scan: first those outside brackets, where the quick
  -- scan is outside them as well, then those inside.
  fun_induction firstConstruct? false inside cs generalizing mode with
  | case1 => exact Or.inl rfl
  | case2 rest ih =>
    obtain rfl := hagrees.eq_outside
    obtain ⟨hescaped, n, -, hpass⟩ := constructFrom?_escape h
    rw [hescaped, Option.none_or]
    exact ih (agrees_outside _) hpass
  | case3 rest _ ih =>
    obtain rfl := hagrees.eq_outside
    obtain ⟨shielded, hbehind, hpass⟩ := constructFrom?_opening h
    have hagrees : Agrees true (.inside shielded) (rest.drop (openingLength rest)) := hbehind
    exact ih hagrees hpass
  | case4 rest _ _ ih =>
    obtain rfl := hagrees.eq_outside
    rw [constructFrom?_parenthesis, Option.or_eq_none_iff] at h
    rw [h.1, Option.none_or]
    exact ih (agrees_outside _) h.2
  | case5 c rest hescape hopen hgroup ih =>
    obtain rfl := hagrees.eq_outside
    rw [constructFrom?_outside hescape hopen hgroup] at h
    exact ih (agrees_outside _) h
  | case6 rest length hlength ih =>
    obtain ⟨shielded, rfl, hbehind⟩ := hagrees.exists_inside
    rw [constructFrom?_ascii hbehind.1 hlength] at h
    exact ih (agrees_inside _) h
  | case7 => exact Or.inr rfl
  | case8 rest _ ih =>
    obtain ⟨shielded, rfl, hshielded, hclose⟩ := hagrees.exists_inside
    obtain rfl : shielded = 0 := by
      by_contra hne
      exact hclose (by omega) rfl
    rw [constructFrom?.eq_def] at h
    exact ih (agrees_outside _) h
  | case9 c rest hopen hclose hdoubled =>
    obtain ⟨shielded, rfl, -⟩ := hagrees.exists_inside
    exact absurd hdoubled.2 (constructFrom?_doubled h hdoubled.1)
  | case10 c rest hopen hclose _ ih =>
    obtain ⟨shielded, rfl, hbehind⟩ := hagrees.exists_inside
    rcases constructFrom?_item h hbehind.1 hopen hclose with hitem | ⟨hitem, hpass⟩
    · rw [hitem]
      exact Or.inr rfl
    · rw [hitem, Option.none_or]
      exact ih (agrees_inside _) hpass

theorem itemConstruct?_true_eq_none {c : Char} {rest : List Char}
    (h : itemConstruct? false c rest = none) : itemConstruct? true c rest = none := by
  unfold itemConstruct? at h ⊢
  rw [Option.or_eq_none_iff] at h ⊢
  refine ⟨h.1, ?_⟩
  cases hend : rangeEnd? (rest.drop (primitiveLength c rest)) with
  | none => rfl
  | some found =>
    rw [hend] at h
    obtain ⟨d, more⟩ := found
    by_cases hd : d = '['
    · simp [hd] at h
    · simp only [if_neg hd] at h ⊢
      exact h.2

/-- If ranges up to a bracket count as constructs and there is none, then there is
none if they do not. -/
theorem firstConstruct?_true_eq_none {inside : Bool} {cs : List Char}
    (h : firstConstruct? false inside cs = none) : firstConstruct? true inside cs = none := by
  fun_induction firstConstruct? false inside cs with
  | case1 => exact firstConstruct?_nil _ _
  | case2 rest ih =>
    rw [Option.or_eq_none_iff] at h
    rw [firstConstruct?_backslash, h.1, ih h.2]
    rfl
  | case3 rest _ ih => rw [firstConstruct?_bracket, ih h]
  | case4 rest _ _ ih =>
    rw [Option.or_eq_none_iff] at h
    rw [firstConstruct?_parenthesis, h.1, ih h.2]
    rfl
  | case5 c rest hescape hopen hgroup ih =>
    rw [firstConstruct?, if_neg hescape, if_neg hopen, if_neg hgroup, ih h]
  | case6 rest length hlength ih => rw [firstConstruct?_ascii _ hlength, ih h]
  | case7 => cases h
  | case8 rest _ ih => rw [firstConstruct?_close, ih h]
  | case9 => cases h
  | case10 c rest hopen hclose hdoubled ih =>
    rw [Option.or_eq_none_iff] at h
    rw [firstConstruct?_item true hopen hclose hdoubled, itemConstruct?_true_eq_none h.1, ih h.2]
    rfl

end ColumnChecks.Pattern
