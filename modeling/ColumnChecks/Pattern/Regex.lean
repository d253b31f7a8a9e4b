import ColumnChecks.Text.Blank
import ColumnChecks.Unicode.Class

/-!
# Regular expressions and what they match

A `Regex` is what is left of a pattern when spelling, flags and names are
settled: sets of characters, conditions on places, sequences, choices and
repetitions.

`Regex.Spans` says which stretches of a text an expression matches. A text is
searched for any match at all, so neither greed nor the order of choices
matters. A *place* of a text of `n` characters is a number from `0` to `n`.
-/

namespace ColumnChecks.Pattern

open Text

/-! ### Conditions on places -/

/-- Ways in which a place borders on a word. -/
inductive Boundary where
  | either
  | neither
  | wordStart
  | wordEnd
  /-- No word character before the place. -/
  | startHalf
  /-- No word character behind the place. -/
  | endHalf
  deriving DecidableEq, Repr

/-- A condition on a place. Lines end with a line feed or, with `returns`, also
with a carriage return or with both; words are ASCII or Unicode words. -/
inductive Look where
  | textStart
  | textEnd
  | lineStart (returns : Bool)
  | lineEnd (returns : Bool)
  | boundary (kind : Boundary) (unicode : Bool)
  deriving DecidableEq, Repr

/-- The ASCII word characters. -/
def asciiWord : CharSet := ⟨[(0x30, 0x39), (0x41, 0x5A), (0x5F, 0x5F), (0x61, 0x7A)]⟩

/-- Whether a character belongs to a word. -/
def isWordChar (unicode : Bool) (c : Char) : Bool :=
  if unicode then Unicode.wordCharacters.contains c else asciiWord.contains c

/-- Whether a condition holds between the character before a place and the
character behind it. -/
def Look.holdsBetween (look : Look) (before behind : Option Char) : Bool :=
  match look with
  | .textStart => before.isNone
  | .textEnd => behind.isNone
  | .lineStart false => before.isNone || before == some '\n'
  | .lineEnd false => behind.isNone || behind == some '\n'
  | .lineStart true =>
    before.isNone || before == some '\n' || (before == some '\r' && behind != some '\n')
  | .lineEnd true =>
    behind.isNone || behind == some '\r' || (behind == some '\n' && before != some '\r')
  | .boundary kind unicode =>
    let wordBefore := before.any (isWordChar unicode)
    let wordBehind := behind.any (isWordChar unicode)
    match kind with
    | .either => wordBefore != wordBehind
    | .neither => wordBefore == wordBehind
    | .wordStart => !wordBefore && wordBehind
    | .wordEnd => wordBefore && !wordBehind
    | .startHalf => !wordBefore
    | .endHalf => !wordBehind

/-- Whether a condition holds at a place of a text. -/
def Look.holdsAt (look : Look) (text : List Char) (place : Nat) : Bool :=
  look.holdsBetween (if place = 0 then none else text[place - 1]?) text[place]?

/-! ### Expressions -/

/-- A regular expression. -/
inductive Regex where
  | empty
  | set (chars : CharSet)
  | look (condition : Look)
  | seq (first second : Regex)
  | alt (first second : Regex)
  | repeat (body : Regex) (min : Nat) (max : Option Nat)
  | capture (body : Regex)
  deriving DecidableEq, Repr, Inhabited

/-- Whether `n` steps of a relation lead from one place to another. -/
def Chain (step : Nat → Nat → Prop) : Nat → Nat → Nat → Prop
  | 0, i, j => i = j
  | n + 1, i, j => ∃ k, step i k ∧ Chain step n k j

/-- Whether an expression matches the stretch between two places of a text. -/
def Regex.Spans (text : List Char) : Regex → Nat → Nat → Prop
  | .empty, i, j => i = j
  | .set chars, i, j => j = i + 1 ∧ ∃ c, text[i]? = some c ∧ chars.contains c = true
  | .look condition, i, j => i = j ∧ condition.holdsAt text i = true
  | .seq a b, i, j => ∃ k, a.Spans text i k ∧ b.Spans text k j
  | .alt a b, i, j => a.Spans text i j ∨ b.Spans text i j
  | .repeat a min max, i, j =>
    ∃ n, min ≤ n ∧ (∀ m, max = some m → n ≤ m) ∧ Chain (a.Spans text) n i j
  | .capture a, i, j => a.Spans text i j

/-- Whether an expression matches some stretch of a text. -/
def Regex.Occurs (text : List Char) (r : Regex) : Prop :=
  ∃ i j, i ≤ text.length ∧ r.Spans text i j

namespace Regex

/-! ### Smart constructors -/

/-- One expression after another. -/
def append : Regex → Regex → Regex
  | .empty, s => s
  | r, .empty => r
  | r, s => .seq r s

/-- A sequence; empty parts are left out. -/
def sequence (rs : List Regex) : Regex := rs.foldr append .empty

/-- The sets of expressions that are all sets. -/
def allSets? : List Regex → Option (List CharSet)
  | [] => some []
  | .set s :: rs => (allSets? rs).map (s :: ·)
  | _ => none

/-- A choice between an expression and some others. -/
def alternatives : Regex → List Regex → Regex
  | r, [] => r
  | r, s :: rs => .alt r (alternatives s rs)

/-- A choice; a choice among sets of characters is one set. -/
def choice (rs : List Regex) : Regex :=
  match allSets? rs with
  | some sets => .set (sets.foldl CharSet.union .empty)
  | none =>
    match rs with
    | [] => .set .empty
    | r :: rest => alternatives r rest

/-! ### Lengths -/

/-- The least number of characters that a match can have. -/
def minLength : Regex → Nat
  | .empty | .look _ => 0
  | .set _ => 1
  | .seq a b => a.minLength + b.minLength
  | .alt a b => min a.minLength b.minLength
  | .repeat a least _ => a.minLength * least
  | .capture a => a.minLength

/-- Whether every match is empty. -/
def onlyEmpty : Regex → Bool
  | .empty | .look _ => true
  | .set _ => false
  | .seq a b | .alt a b => a.onlyEmpty && b.onlyEmpty
  | .repeat a _ most => most == some 0 || a.onlyEmpty
  | .capture a => a.onlyEmpty

/-- A repetition. Repeating what is always empty more than once changes
nothing, and neither does repeating exactly once. -/
def repeated (body : Regex) (least : Nat) (most : Option Nat) : Regex :=
  let (least, most) := if body.onlyEmpty then (min least 1, some (min (most.getD 1) 1))
    else (least, most)
  if most = some 0 then .empty
  else if least = 1 ∧ most = some 1 then body
  else .repeat body least most

end Regex

end ColumnChecks.Pattern
