import Mathlib.Tactic.Common
import ColumnChecks.Proofs.Pattern.Ordered
import ColumnChecks.Proofs.Text.CharSet

/-!
# Patterns with case ignored

Whether case is ignored decides which characters a set has, not whether a pattern has a
meaning. With Unicode on, a set may have any characters. With Unicode off, it has to be
kept to ASCII, and it is with or without the other case of its letters
(`ColumnChecks.Pattern.Flags.ascii_fold`). So **a pattern has the same faults under all
flags that agree on Unicode** (`ColumnChecks.Pattern.Tree.alike_meaning`), and one that has an
expression with case observed has one with case ignored
(`ColumnChecks.Pattern.exists_expression`). Only the larger sets may be too much for the
engine.
-/

namespace ColumnChecks.Pattern

open Text

/-! ### Computations that fail alike -/

section Results

variable {α β : Type} {R : α → α → Prop} {S : β → β → Prop}

/-- Two computations fail with one fault, or give results in a relation. -/
def Alike (R : α → α → Prop) : Except Fault α → Except Fault α → Prop
  | .ok a, .ok b => R a b
  | .error e, .error e' => e = e'
  | _, _ => False

/-- **Computations that fail alike** may be followed by others that do. -/
theorem Alike.bind {x y : Except Fault α} {f g : α → Except Fault β} (h : Alike R x y)
    (hfg : ∀ a b, R a b → Alike S (f a) (g b)) : Alike S (x >>= f) (y >>= g) := by
  rcases x with e | a <;> rcases y with e' | b
  · exact h
  · exact h.elim
  · exact h.elim
  · exact hfg a b h

theorem Alike.of_eq {x y : Except Fault α} (h : x = y) : Alike Eq x y := by
  cases h
  rcases x with e | a <;> rfl

end Results

/-! ### Sets -/

variable {flags flags' : Flags} {s t : CharSet}

/-- Two sets are kept to ASCII, unless Unicode is on. -/
def AsciiUnless (unicode : Bool) (s t : CharSet) : Prop := unicode = false → s.Ascii ∧ t.Ascii

/-- Named classes are of ASCII characters only. -/
theorem AsciiClass.ascii_chars (kind : AsciiClass) : kind.chars.Ascii := by
  cases kind <;> exact ⟨by decide, by decide⟩

/-- So are the classes with a letter, without Unicode. -/
theorem LetterClass.ascii_chars (kind : LetterClass) : (kind.chars false).Ascii := by
  cases kind <;> exact ⟨by decide, by decide⟩

theorem ascii_singleton {char : Char} (h : ¬0x7F < char.toNat) :
    (CharSet.singleton char).Ascii := by
  refine ⟨⟨Nat.zero_le _, Nat.le_refl _, (Nat.not_lt.1 h).trans (by decide), trivial⟩, ?_⟩
  exact CharSet.isAscii_iff.2 fun x hx => by
    cases List.mem_singleton.1 hx
    exact Nat.lt_succ_of_le (Nat.not_lt.1 h)

/-- The other case of an ASCII letter is an ASCII letter. -/
theorem ascii_foldAsciiCase (h : s.Ascii) : (Unicode.foldAsciiCase s).Ascii := by
  refine CharSet.ascii_ofIntervals (List.forall_mem_append.2
    ⟨CharSet.isAscii_iff.1 h.isAscii, fun x hx => ?_⟩)
  obtain ⟨i, hi, hx⟩ := List.mem_flatMap.1 hx
  rw [List.mem_range] at hi
  rcases List.mem_append.1 hx with hx | hx
  all_goals
    split_ifs at hx
    · cases List.mem_singleton.1 hx
      exact Nat.lt_of_lt_of_le (Nat.add_lt_add_left hi _) (by decide)
    · cases hx

/-- Without Unicode, folding adds ASCII characters only. -/
theorem Flags.ascii_fold (hflags : flags.unicode = false) (h : s.Ascii) :
    (flags.fold s).Ascii := by
  rw [fold, hflags]
  split_ifs with hcase hunicode
  · cases hunicode
  · exact ascii_foldAsciiCase h
  · exact h

/-- No operation leads out of ASCII. -/
theorem SetOperation.ascii_apply (op : SetOperation) (hs : s.Ascii) (ht : t.Ascii) :
    (op.apply s t).Ascii := by
  cases op with
  | intersection => exact hs.inter ht.wellFormed
  | difference => exact hs.diff ht.wellFormed
  | symmetricDifference => exact hs.symmDiff ht

section Unicode

variable (h : flags.unicode = flags'.unicode)

include h

/-- Sets that are alike are alike when case is ignored in either of them. -/
theorem AsciiUnless.fold (hst : AsciiUnless flags.unicode s t) :
    AsciiUnless flags.unicode (flags.fold s) (flags'.fold t) := fun hflags =>
  ⟨flags.ascii_fold hflags (hst hflags).1, flags'.ascii_fold (h ▸ hflags) (hst hflags).2⟩

/-- Where Unicode is off, no set is negated. -/
theorem alike_negate (span : Span) (negated : Bool) (hst : AsciiUnless flags.unicode s t) :
    Alike (AsciiUnless flags.unicode) (flags.negate span negated s)
      (flags'.negate span negated t) := by
  rw [Flags.negate, Flags.negate, ← h]
  cases hflags : flags.unicode with
  | true => cases negated <;> exact nofun
  | false =>
    rw [hflags] at hst
    cases negated with
    | true => exact rfl
    | false =>
      have hascii := hst rfl
      rw [hascii.1.isAscii, hascii.2.isAscii]
      exact hst

/-- A property is known or unknown whatever the case, and only there with Unicode. -/
theorem alike_property (span : Span) (negated : Bool) (query : PropertyQuery) :
    Alike (AsciiUnless flags.unicode) (flags.property span negated query)
      (flags'.property span negated query) := by
  rw [Flags.property, Flags.property, ← h]
  cases hflags : flags.unicode with
  | true =>
    cases query.find with
    | error kind => exact rfl
    | ok s =>
      have hnegate := alike_negate (s := flags.fold s) (t := flags'.fold s) h span negated
      rw [hflags] at hnegate
      exact hnegate nofun
  | false => exact rfl

/-- A class with a letter can only fail by being negated, whatever the case. -/
theorem alike_letter (span : Span) (kind : LetterClass) (negated : Bool) :
    Alike (AsciiUnless flags.unicode) (flags.letter span kind negated)
      (flags'.letter span kind negated) := by
  rw [Flags.letter, Flags.letter, ← h]
  refine alike_negate h span negated fun hflags => ?_
  rw [hflags]
  exact ⟨kind.ascii_chars, kind.ascii_chars⟩

/-- A character is refused for what it is, not for its case. -/
theorem alike_scalar (span : Span) (spelling : Spelling) (char : Char) :
    Alike Eq (flags.scalar span spelling char) (flags'.scalar span spelling char) := by
  rw [Flags.scalar, Flags.scalar, ← h]
  exact .of_eq rfl

/-- A character in brackets is the same under both flags, and ASCII where Unicode is off. -/
theorem alike_classScalar (span : Span) (spelling : Spelling) (char : Char) :
    Alike (fun c c' => c = c' ∧ (flags.unicode = false → ¬0x7F < c.toNat))
      (flags.classScalar span spelling char) (flags'.classScalar span spelling char) := by
  refine (alike_scalar h span spelling char).bind fun c _ hc => ?_
  cases hc
  rw [← h]
  split_ifs with hascii
  · exact rfl
  · refine ⟨rfl, fun hflags hlt => hascii ?_⟩
    rw [hflags, decide_eq_true hlt]
    rfl

end Unicode

mutual

/-- **A set in brackets** has the same faults under all flags that agree on Unicode. -/
theorem ClassSet.alike_chars (h : flags.unicode = flags'.unicode) : ∀ set : ClassSet,
    Alike (AsciiUnless flags.unicode) (set.chars flags) (set.chars flags')
  | .empty _ => fun _ => ⟨⟨trivial, rfl⟩, ⟨trivial, rfl⟩⟩
  | .literal span spelling char =>
    (alike_classScalar h span spelling char).bind fun c _ ⟨hc, hascii⟩ hflags => by
      cases hc
      exact ⟨ascii_singleton (hascii hflags), ascii_singleton (hascii hflags)⟩
  -- The upper end of a range bounds all of it.
  | .range _ low high =>
    (alike_classScalar h low.1 low.2.1 low.2.2).bind fun lo _ ⟨hlo, _⟩ =>
      (alike_classScalar h high.1 high.2.1 high.2.2).bind fun hi _ ⟨hhi, hascii⟩ hflags => by
        cases hlo
        cases hhi
        have hrange : (CharSet.range lo hi).Ascii := CharSet.ascii_ofIntervals fun x hx => by
          cases List.mem_singleton.1 hx
          exact Nat.lt_succ_of_le (Nat.not_lt.1 (hascii hflags))
        exact ⟨hrange, hrange⟩
  | .ascii span kind negated =>
    alike_negate h span negated (AsciiUnless.fold h fun _ => ⟨kind.ascii_chars, kind.ascii_chars⟩)
  | .property span negated query => alike_property h span negated query
  | .letter span kind negated => alike_letter h span kind negated
  | .bracketed span negated set =>
    (alike_chars h set).bind fun _ _ hst => alike_negate h span negated (hst.fold h)
  | .union _ items => alike_unionChars h items
  | .binary _ op left right =>
    (alike_chars h left).bind fun _ _ hleft =>
      (alike_chars h right).bind fun _ _ hright hflags =>
        ⟨op.ascii_apply (hleft.fold h hflags).1 (hright.fold h hflags).1,
          op.ascii_apply (hleft.fold h hflags).2 (hright.fold h hflags).2⟩

theorem ClassSet.alike_unionChars (h : flags.unicode = flags'.unicode) : ∀ items : List ClassSet,
    Alike (AsciiUnless flags.unicode) (ClassSet.unionChars flags items)
      (ClassSet.unionChars flags' items)
  | [] => fun _ => ⟨⟨trivial, rfl⟩, ⟨trivial, rfl⟩⟩
  | item :: items =>
    (alike_chars h item).bind fun _ _ hfirst =>
      (alike_unionChars h items).bind fun _ _ hothers hflags =>
        ⟨(hfirst hflags).1.union (hothers hflags).1, (hfirst hflags).2.union (hothers hflags).2⟩

end

/-! ### Patterns -/

/-- Flags in a pattern set Unicode alike. -/
theorem Flags.unicode_apply (h : flags.unicode = flags'.unicode) (items : List FlagItem) :
    (flags.apply items).unicode = (flags'.apply items).unicode := by
  rw [apply, apply, h]

mutual

/-- **A pattern** has the same faults under all flags that agree on Unicode, and they still
agree after it. -/
theorem Tree.alike_meaning : ∀ (tree : Tree) {flags flags' : Flags},
    flags.unicode = flags'.unicode →
    Alike (fun p q => p.2.unicode = q.2.unicode) (tree.meaning flags) (tree.meaning flags')
  | .empty _, _, _, h => h
  | .setFlags _ items, _, _, h => Flags.unicode_apply h items
  | .literal span spelling char, _, _, h =>
    (alike_scalar h span spelling char).bind fun _ _ _ => h
  | .dot span, flags, flags', h => by
    rw [meaning, meaning, ← h]
    split_ifs
    · exact h
    · exact rfl
  | .assertion _ _, _, _, h => h
  | .property span negated query, _, _, h =>
    (alike_property h span negated query).bind fun _ _ _ => h
  | .letter span kind negated, _, _, h => (alike_letter h span kind negated).bind fun _ _ _ => h
  | .bracketed span negated set, _, _, h =>
    (set.alike_chars h).bind fun _ _ hst =>
      (alike_negate h span negated (hst.fold h)).bind fun _ _ _ => h
  | .repetition _ _ _ body, _, _, h => (body.alike_meaning h).bind fun _ _ hafter => hafter
  | .group _ kind body, _, _, h => by
    cases kind with
    | flags items => exact (body.alike_meaning (Flags.unicode_apply h items)).bind fun _ _ _ => h
    | _ => exact (body.alike_meaning h).bind fun _ _ _ => h
  | .alternation _ branches, _, _, h =>
    (Tree.alike_meanings branches h).bind fun _ _ hafter => hafter
  | .concat _ parts, _, _, h => (Tree.alike_meanings parts h).bind fun _ _ hafter => hafter

theorem Tree.alike_meanings : ∀ (trees : List Tree) {flags flags' : Flags},
    flags.unicode = flags'.unicode →
    Alike (fun p q => p.2.unicode = q.2.unicode) (Tree.meanings flags trees)
      (Tree.meanings flags' trees)
  | [], _, _, h => h
  | tree :: trees, _, _, h =>
    (tree.alike_meaning h).bind fun _ _ hafter =>
      (Tree.alike_meanings trees hafter).bind fun _ _ hfinal => hfinal

end

/-- **A pattern with an expression** has one with case observed and with case ignored. -/
theorem exists_expression {ignoreCase : Bool} {pattern : String} {r : Regex}
    (h : expression ignoreCase pattern = .ok r) (ignoreCase' : Bool) :
    ∃ r', expression ignoreCase' pattern = .ok r' := by
  obtain ⟨tree, after, hread, hdepth, hmeaning⟩ := expression_eq_ok_iff.1 h
  have hunicode : ({ ignoreCase := ignoreCase } : Flags).unicode =
    ({ ignoreCase := ignoreCase' } : Flags).unicode := rfl
  -- Patterns are read before case comes in, and Unicode is on at their beginning.
  have halike := tree.alike_meaning hunicode
  rw [hmeaning] at halike
  cases hmeaning' : tree.meaning { ignoreCase := ignoreCase' } with
  | error fault =>
    rw [hmeaning'] at halike
    exact halike.elim
  | ok found => exact ⟨found.1, expression_eq_ok_iff.2 ⟨tree, found.2, hread, hdepth, hmeaning'⟩⟩

end ColumnChecks.Pattern
