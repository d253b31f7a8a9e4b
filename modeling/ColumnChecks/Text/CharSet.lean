/-!
# Sets of characters

A set of characters is a list of closed intervals of code points. The intervals
are kept in ascending order, apart from each other and never touching, so a set
has one written form and its complement is read off the gaps.

The operations are those of a bracket expression: union, complement,
intersection, difference and symmetric difference. Only the first two walk the
intervals; the others are what Boolean algebra makes of them.
-/

namespace ColumnChecks.Text

/-- A set of characters as ascending, separated, closed intervals of code
points. -/
structure CharSet where
  intervals : List (Nat × Nat)
  deriving DecidableEq, Repr, Inhabited

namespace CharSet

/-- The greatest code point. -/
def maxCode : Nat := 0x10FFFF

/-- Add one interval to an ascending, separated list. -/
def insertInterval (lo hi : Nat) : List (Nat × Nat) → List (Nat × Nat)
  | [] => [(lo, hi)]
  | (lo', hi') :: rest =>
    if hi + 1 < lo' then (lo, hi) :: (lo', hi') :: rest
    else if hi' + 1 < lo then (lo', hi') :: insertInterval lo hi rest
    else insertInterval (min lo lo') (max hi hi') rest

/-- The set that some intervals cover; intervals whose ends are in the wrong
order are empty. -/
def ofIntervals (xs : List (Nat × Nat)) : CharSet :=
  ⟨((xs.filter fun x => x.1 ≤ x.2).mergeSort fun a b => a.1 ≤ b.1).foldr
    (fun x acc => insertInterval x.1 x.2 acc) []⟩

def empty : CharSet := ⟨[]⟩

/-- Every character: the code points outside the surrogate block. -/
def all : CharSet := ⟨[(0, 0xD7FF), (0xE000, maxCode)]⟩

/-- The ASCII characters. -/
def ascii : CharSet := ⟨[(0, 0x7F)]⟩

def singleton (c : Char) : CharSet := ⟨[(c.toNat, c.toNat)]⟩

/-- The characters between two characters, both included. -/
def range (lo hi : Char) : CharSet := ofIntervals [(lo.toNat, hi.toNat)]

/-- Whether a code point is in the set. -/
def containsCode (s : CharSet) (n : Nat) : Bool :=
  s.intervals.any fun x => x.1 ≤ n && n ≤ x.2

/-- Whether a character is in the set. -/
def contains (s : CharSet) (c : Char) : Bool := s.containsCode c.toNat

def isEmpty (s : CharSet) : Bool := s.intervals.isEmpty

/-- The only character of a set that has exactly one. -/
def single? (s : CharSet) : Option Nat :=
  match s.intervals with
  | [(lo, hi)] => if lo = hi then some lo else none
  | _ => none

def union (s t : CharSet) : CharSet := ofIntervals (s.intervals ++ t.intervals)

/-- The gaps of an ascending list from a given code point on. -/
def gapsFrom (start : Nat) : List (Nat × Nat) → List (Nat × Nat)
  | [] => if start ≤ maxCode then [(start, maxCode)] else []
  | (lo, hi) :: rest =>
    if start < lo then (start, lo - 1) :: gapsFrom (hi + 1) rest else gapsFrom (hi + 1) rest

/-- The part of an interval that lies outside the surrogate block. -/
def dropSurrogates (x : Nat × Nat) : List (Nat × Nat) :=
  [(x.1, min x.2 0xD7FF), (max x.1 0xE000, x.2)].filter fun y => y.1 ≤ y.2

/-- The characters that are not in the set. -/
def complement (s : CharSet) : CharSet :=
  ⟨(gapsFrom 0 s.intervals).flatMap dropSurrogates⟩

def inter (s t : CharSet) : CharSet := (s.complement.union t.complement).complement

def diff (s t : CharSet) : CharSet := s.inter t.complement

def symmDiff (s t : CharSet) : CharSet := (s.union t).diff (s.inter t)

/-- Whether every character of the set is ASCII. -/
def isAscii (s : CharSet) : Bool := s.intervals.all fun x => x.2 < 0x80

end CharSet

end ColumnChecks.Text
