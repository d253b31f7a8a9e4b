import ColumnChecks.Pattern.Regex

/-!
# Searching a text for a match

A set of places is a natural number with a bit for each place. An expression
maps the places where a match may start to those where it may end: a set of
characters moves each place that has such a character one further, a condition
keeps the places where it holds, and a repetition is applied until nothing
changes. A text of `n` characters has `n + 1` places, so every step is a few
operations on numbers of that many bits, whatever the expression.

`Search` is an expression that has been fitted to one text, with the places
where its sets and conditions apply worked out.
-/

namespace ColumnChecks.Pattern

/-- A regular expression fitted to a text. -/
inductive Search where
  | empty
  /-- Move on from the places of a mask. -/
  | advance (mask : Nat)
  /-- Keep the places of a mask. -/
  | hold (mask : Nat)
  | seq (first second : Search)
  | alt (first second : Search)
  | repeat (body : Search) (min : Nat) (more : Nat)

namespace Search

/-- The number with a bit for each true entry, first entry lowest. -/
def maskOf : List Bool → Nat
  | [] => 0
  | b :: bs => 2 * maskOf bs + (if b then 1 else 0)

/-- The places whose next character satisfies a test. -/
def charMask (p : Char → Bool) (text : List Char) : Nat := maskOf (text.map p)

/-- The places between the characters of a text, where a condition on the
characters on both sides holds. -/
def placeMask (p : Option Char → Option Char → Bool) (before : Option Char) :
    List Char → List Bool
  | [] => [p before none]
  | c :: rest => p before (some c) :: placeMask p (some c) rest

/-- Apply a map so many times, stopping when it changes nothing. -/
def times (f : Nat → Nat) : Nat → Nat → Nat
  | 0, places => places
  | n + 1, places =>
    let next := f places
    if next = places then places else times f n next

/-- All places reached by applying a map at most so many times. -/
def reach (f : Nat → Nat) : Nat → Nat → Nat
  | 0, places => places
  | n + 1, places =>
    let next := places ||| f places
    if next = places then places else reach f n next

/-- The places where a match may end that starts at one of the given places. -/
def ends : Search → Nat → Nat
  | .empty, places => places
  | .advance mask, places => (places &&& mask) <<< 1
  | .hold mask, places => places &&& mask
  | .seq a b, places => b.ends (a.ends places)
  | .alt a b, places => a.ends places ||| b.ends places
  | .repeat a least more, places => reach a.ends more (times a.ends least places)

end Search

/-- Fit an expression to a text. Without an upper limit, as many further rounds
as there are places reach all there is to reach. -/
def Regex.fit (text : List Char) : Regex → Search
  | .empty => .empty
  | .set chars => .advance (Search.charMask chars.contains text)
  | .look condition =>
    .hold (Search.maskOf (Search.placeMask condition.holdsBetween none text))
  | .seq a b => .seq (a.fit text) (b.fit text)
  | .alt a b => .alt (a.fit text) (b.fit text)
  | .repeat a least most =>
    .repeat (a.fit text) least (match most with
      | some most => most - least
      | none => text.length + 1)
  | .capture a => a.fit text

/-- Whether an expression matches some stretch of a text. -/
def Regex.occursIn (r : Regex) (text : List Char) : Bool :=
  (r.fit text).ends (Nat.pow 2 (text.length + 1) - 1) != 0

end ColumnChecks.Pattern
