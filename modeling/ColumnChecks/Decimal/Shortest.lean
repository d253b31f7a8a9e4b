import ColumnChecks.Decimal.Basic

/-!
# The fewest digits that read back

A double stands for all reals that round to it. Its **shortest digits** are the
digits of a decimal numeral in that interval, as few as possible, and among
those the ones nearest to the double itself. When two are equally near, a
`Tie` decides.

The search takes one, two, … digits. On the grid of so many digits only the two
neighbours of the double need a test: if any point of the grid lies in the
interval, one of those does. Seventeen digits always suffice.
-/

namespace ColumnChecks.Decimal

/-- Which of two equally near digit strings is taken. -/
inductive Tie where
  /-- The greater one. -/
  | up
  /-- The one whose last digit is even. -/
  | even
  deriving DecidableEq, Repr

/-- A positive decimal numeral: `digits * 10 ^ power`. -/
structure Digits where
  digits : Nat
  power : Int
  deriving DecidableEq, Repr

namespace Digits

/-- Decimal digits are looked for in multiples of `10 ^ (-depth)`, finer than
seventeen digits of the smallest double. -/
def depth : Nat := 341

/-- Twice a magnitude in multiples of `10 ^ (-depth) / unitsPerOne`. -/
def scaled (rank : Nat) : Nat := units rank * Nat.pow 10 depth

/-- Whether a multiple of `10 ^ (-depth)` rounds to the double of a rank. -/
def reads (rank point : Nat) : Bool :=
  let low := scaled (rank - 1) + scaled rank
  let high := scaled rank + scaled (rank + 1)
  let value := 2 * point * unitsPerOne
  if rank % 2 = 0 then low ≤ value && value ≤ high else low < value && value < high

/-- The better of the two neighbours on the grid of a given spacing, in
multiples of that spacing, if one of them reads back. -/
def candidate (tie : Tie) (rank spacing : Nat) : Option Nat :=
  let below := scaled rank / unitsPerOne / spacing
  let above := below + 1
  let takeBelow := reads rank (below * spacing)
  let takeAbove := reads rank (above * spacing)
  if takeBelow && takeAbove then
    let value := 2 * scaled rank
    let middle := (below + above) * spacing * unitsPerOne
    if value < middle then some below
    else if middle < value then some above
    else match tie with
      | .up => some above
      | .even => some (if below % 2 = 0 then below else above)
  else if takeBelow then some below
  else if takeAbove then some above
  else none

/-- The first hit among the grids of more and more digits. -/
def search (tie : Tie) (rank top : Nat) : Nat → Digits
  | 0 => ⟨scaled rank / unitsPerOne, -depth⟩
  | left + 1 =>
    let places := top - (17 - left)
    match candidate tie rank (Nat.pow 10 places) with
    | some digits => ⟨digits, (places : Int) - depth⟩
    | none => search tie rank top left

/-- The numeral without trailing zeros. -/
def dropZeros : Nat → Digits → Digits
  | 0, d => d
  | fuel + 1, d =>
    if d.digits ≠ 0 ∧ d.digits % 10 = 0 then dropZeros fuel ⟨d.digits / 10, d.power + 1⟩ else d

/-- The shortest digits of a positive, finite magnitude. -/
def shortest (tie : Tie) (rank : Nat) : Digits :=
  let top := (Nat.toDigits 10 (scaled rank / unitsPerOne)).length
  dropZeros 20 (search tie rank top 17)

end Digits

end ColumnChecks.Decimal
