import ColumnChecks.Pattern.Meaning

/-!
# The size of a compiled expression

An expression is run by two automata over the bytes of UTF-8, one forward and one backward,
and is refused when either takes more than `sizeLimit` bytes. **Whether a pattern is refused
for its size is a parameter** (`SizeTest`): how large an automaton becomes depends on how the
engine goes about building it, and what is true of patterns and rules is true of every
engine.

The program has to decide it, though, and counts the bytes without building the automata
(`SizeTest.counted`). A state takes `stateBytes`; a choice between states and a choice between
byte ranges take more for each branch. A counted repetition stands for that many copies of
its body. Going forward, a set of characters becomes the smallest automaton that shares ends
of byte sequences; going backward, one that shares their beginnings. In front of it all
stands a loop over any bytes, unless the expression only matches at an end of the text.
-/

namespace ColumnChecks.Pattern

open Text

/-- The greatest size of an automaton. -/
def sizeLimit : Nat := 10 * 1024 * 1024

/-- **The size test of an engine**: whether the automata of a pattern, with case ignored or
not, are within the limit. -/
class SizeTest where
  allows (ignoreCase : Bool) (pattern : String) : Bool

/-! ### States -/

/-- The bytes of a state. -/
def stateBytes : Nat := 32

/-- The bytes of each branch of a choice between states. -/
def branchBytes : Nat := 4

/-- The bytes of each branch of a choice between byte ranges. -/
def rangeBytes : Nat := 8

/-! ### Byte sequences -/

/-- The greatest code points that take one, two and three bytes. -/
def lengthBounds : List Nat := [0x7F, 0x7FF, 0xFFFF]

/-- Split an interval behind the given code points. -/
def splitBehind (lo hi : Nat) : List Nat → List (Nat × Nat)
  | [] => [(lo, hi)]
  | bound :: bounds =>
    if lo ≤ bound ∧ bound < hi then (lo, bound) :: splitBehind (bound + 1) hi bounds
    else splitBehind lo hi bounds

/-- Split an interval so that, in each piece, either the two ends agree above
the last `6 * level` bits or the piece takes all values of those bits. -/
def splitAligned (level : Nat) (x : Nat × Nat) : List (Nat × Nat) :=
  let block := Nat.pow 64 level
  let (lo, hi) := x
  if lo / block = hi / block then [x]
  else
    let head := if lo % block = 0 then [] else [(lo, lo / block * block + block - 1)]
    let lo := if lo % block = 0 then lo else lo / block * block + block
    let tail := if hi % block = block - 1 then [] else [(hi / block * block, hi)]
    let stop := if hi % block = block - 1 then hi + 1 else hi / block * block
    head ++ (if lo < stop then [(lo, stop - 1)] else []) ++ tail

/-- The UTF-8 bytes of a code point. -/
def utf8Bytes (n : Nat) : List Nat :=
  if n < 0x80 then [n]
  else if n < 0x800 then [0xC0 + n / 64, 0x80 + n % 64]
  else if n < 0x10000 then [0xE0 + n / 4096, 0x80 + n / 64 % 64, 0x80 + n % 64]
  else [0xF0 + n / 262144, 0x80 + n / 4096 % 64, 0x80 + n / 64 % 64, 0x80 + n % 64]

/-- Sequences of byte ranges that cover the UTF-8 forms of a set, in order. -/
def byteSequences (s : CharSet) : List (List (Nat × Nat)) :=
  let intervals := s.intervals.flatMap CharSet.dropSurrogates
  let sized := intervals.flatMap fun x => splitBehind x.1 x.2 lengthBounds
  let aligned := sized.flatMap fun x =>
    if x.2 < 0x80 then [x]
    else (splitAligned 3 x).flatMap fun x => (splitAligned 2 x).flatMap (splitAligned 1)
  aligned.map fun x => (utf8Bytes x.1).zip (utf8Bytes x.2)

/-- Group sequences that follow each other and start with the same range: the
ranges, each with the sequences behind it. -/
def groupByFirst : List (List (Nat × Nat)) → List ((Nat × Nat) × List (List (Nat × Nat)))
  | [] => []
  | [] :: seqs => groupByFirst seqs
  | (first :: rest) :: seqs =>
    match groupByFirst seqs with
    | (range, rests) :: groups =>
      if range = first then (range, rest :: rests) :: groups
      else (first, [rest]) :: (range, rests) :: groups
    | [] => [(first, [rest])]

/-- The nodes of the tree of byte sequences, each given by the sequences that
lead on from it. Nodes at the end are left out. -/
def sequenceNodes : Nat → List (List (Nat × Nat)) → List (List (List (Nat × Nat)))
  | 0, _ => []
  | fuel + 1, seqs =>
    let behind := ((groupByFirst seqs).map (·.2)).filter fun seqs => seqs != [[]]
    seqs :: behind.flatMap (sequenceNodes fuel)

/-- The size of a set of characters, going forward or backward. A set of one
character is the sequence of its bytes; sets of ASCII characters take one
state. -/
def setBytes (backward : Bool) (s : CharSet) : Nat :=
  match s.single? with
  | some n => stateBytes * (utf8Bytes n).length
  | none =>
    if s.isEmpty then stateBytes
    else if s.isAscii then 2 * stateBytes + rangeBytes * s.intervals.length
    else
      let seqs := byteSequences s
      if backward then
        let beginnings := (sequenceNodes 5 seqs).map fun node => (groupByFirst node).length
        2 * stateBytes + branchBytes * seqs.length + stateBytes * beginnings.foldl (· + ·) 0
      else
        let nodes := (sequenceNodes 5 seqs).eraseDups
        let nodeBytes := nodes.map fun node => stateBytes + rangeBytes * (groupByFirst node).length
        stateBytes + nodeBytes.foldl (· + ·) 0

/-! ### Common beginnings

Alternatives that all begin alike are taken for one sequence: what they share, and a choice
between the rests. Characters that stand side by side are only shared as a whole. -/

/-- Whether an expression is a run of single characters. -/
def Regex.isRun : Regex → Bool
  | .set s => s.single?.isSome
  | .seq (.set s) rest => s.single?.isSome && rest.isRun
  | _ => false

/-- Put an expression in front of the parts of a sequence. -/
def Regex.addPart (r : Regex) : List Regex → List Regex
  | [] => [r]
  | part :: parts => if r.isRun && part.isRun then .seq r part :: parts else r :: part :: parts

/-- The parts of a sequence in front of others. -/
def Regex.partsBefore : Regex → List Regex → List Regex
  | .seq a b, parts => a.partsBefore (b.partsBefore parts)
  | .empty, parts => parts
  | r, parts => r.addPart parts

/-- The beginning that two lists share. -/
def sharedBeginning : List Regex → List Regex → List Regex
  | r :: rs, s :: ss => if r = s then r :: sharedBeginning rs ss else []
  | _, _ => []

/-- A choice with the common beginning of its alternatives taken out. Only sequences have
one. -/
def Regex.factored (rs : List Regex) : Regex :=
  match rs.map fun r => r.partsBefore [] with
  | first :: second :: others =>
    let shared := (second :: others).foldl sharedBeginning first
    if shared.isEmpty || (first :: second :: others).any (·.length < 2) then .choice rs
    else
      let rests := (first :: second :: others).map fun parts => sequence (parts.drop shared.length)
      sequence (shared ++ [choice rests])
  | _ => .choice rs

/-- The alternatives of an expression, with the common beginnings inside them taken out. -/
def Regex.factoredBranches : Regex → List Regex
  | .alt a b => a.factoredBranches ++ b.factoredBranches
  | .seq a b => [.seq (factored a.factoredBranches) (factored b.factoredBranches)]
  | .repeat a least most => [.repeat (factored a.factoredBranches) least most]
  | .capture a => [.capture (factored a.factoredBranches)]
  | r => [r]

/-! ### Expressions -/

/-- The number of alternatives of a choice. -/
def Regex.branches : Regex → Nat
  | .alt a b => a.branches + b.branches
  | _ => 1

/-- The size of an expression that may be one of several alternatives. -/
def Regex.innerBytes (backward : Bool) : Regex → Nat
  | .empty | .look _ => stateBytes
  | .set s => setBytes backward s
  | .seq a b =>
    let left := a.innerBytes backward + (if a.branches = 1 then 0 else
      2 * stateBytes + branchBytes * a.branches)
    let right := b.innerBytes backward + (if b.branches = 1 then 0 else
      2 * stateBytes + branchBytes * b.branches)
    left + right
  | .alt a b => a.innerBytes backward + b.innerBytes backward
  | .capture a =>
    a.innerBytes backward + (if a.branches = 1 then 0 else
      2 * stateBytes + branchBytes * a.branches) + (if backward then 0 else 2 * stateBytes)
  | .repeat a least most =>
    let body := a.innerBytes backward + (if a.branches = 1 then 0 else
      2 * stateBytes + branchBytes * a.branches)
    let copies := if least = 0 then stateBytes else least * body
    let loop := stateBytes + 2 * branchBytes
    match most with
    | some most =>
      if least = 0 ∧ most = 1 then body + 2 * stateBytes + 2 * branchBytes
      else if most ≤ least then copies
      else copies + stateBytes + (most - least) * (body + stateBytes + 2 * branchBytes)
    | none =>
      if least = 0 then
        if a.minLength = 0 then body + 2 * loop + stateBytes else body + loop
      else copies + loop

/-- Whether an expression only matches at the start of a text or, going backward, at its
end. -/
def Regex.isAnchored (backward : Bool) : Regex → Bool
  | .look condition => condition == (if backward then .textEnd else .textStart)
  | .seq a b =>
    if backward then b.isAnchored true || (b.onlyEmpty && a.isAnchored true)
    else a.isAnchored false || (a.onlyEmpty && b.isAnchored false)
  | .alt a b => a.isAnchored backward && b.isAnchored backward
  | .repeat a least _ => decide (0 < least) && a.isAnchored backward
  | .capture a => a.isAnchored backward
  | .empty | .set _ => false

/-- The size of an expression: that of its states, of the one that ends a match, and of those
in front of it all. -/
def Regex.bytes (backward : Bool) (r : Regex) : Nat :=
  let body : Regex := .capture (factored r.factoredBranches)
  let start := if r.isAnchored backward then stateBytes
    else 3 * stateBytes + 2 * branchBytes + rangeBytes
  start + body.innerBytes backward + stateBytes

/-- The size test of the program counts the bytes of both automata. -/
instance SizeTest.counted : SizeTest where
  allows ignoreCase pattern :=
    match expression ignoreCase pattern with
    | .ok r => decide (r.bytes false ≤ sizeLimit) && decide (r.bytes true ≤ sizeLimit)
    | .error _ => false

end ColumnChecks.Pattern
