import ColumnChecks.Unicode.Class
import ColumnChecks.Unicode.FoldTable

/-!
# Letters that differ only in case

Two characters are the same letter when they fold to the same character. The
standard's simple folding maps one character to one character, so the dotted
capital I and the dotless small i are on their own.
-/

namespace ColumnChecks.Unicode

open Text

/-- A run of pairs that differ only in case: its first character, its length,
its step and the distance within a pair. -/
structure FoldRun where
  first : Nat
  count : Nat
  step : Nat
  distance : Nat

/-- The runs that four numbers each describe. -/
def foldRunsOf : List Nat → List FoldRun
  | first :: count :: step :: distance :: rest =>
    ⟨first, count, step, distance⟩ :: foldRunsOf rest
  | _ => []

/-- All runs of pairs. -/
def foldRuns : List FoldRun := foldRunsOf (numbersOf foldTable)

/-- The pairs of a run. -/
def FoldRun.pairs (run : FoldRun) : List (Nat × Nat) :=
  (List.range run.count).map fun i =>
    (run.first + i * run.step, run.first + i * run.step + run.distance)

/-- The pairs of characters that differ only in case. -/
def foldPairs : List (Nat × Nat) := foldRuns.flatMap FoldRun.pairs

/-- The characters of a set and those that differ from one of them only in
case. -/
def foldCase (s : CharSet) : CharSet :=
  let partners := foldPairs.flatMap fun (a, b) =>
    (if s.containsCode a then [(b, b)] else []) ++ (if s.containsCode b then [(a, a)] else [])
  if partners.isEmpty then s else CharSet.ofIntervals (s.intervals ++ partners)

/-- The ASCII letters of a set and their counterparts in the other case, and the
other characters of the set. -/
def foldAsciiCase (s : CharSet) : CharSet :=
  let partners := (List.range 26).flatMap fun i =>
    (if s.containsCode (0x41 + i) then [(0x61 + i, 0x61 + i)] else [])
      ++ (if s.containsCode (0x61 + i) then [(0x41 + i, 0x41 + i)] else [])
  CharSet.ofIntervals (s.intervals ++ partners)

end ColumnChecks.Unicode
