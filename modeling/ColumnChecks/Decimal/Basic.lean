/-!
# Binary double-precision numbers, exactly

A decimal value of a rule or a row is a double: a sign and a magnitude from the
finite grid of the doubles, with infinity at its end, or no number at all.

The magnitudes are counted rather than packed. In ascending order they are
numbered from zero, and this **rank** is all that is stored. Two magnitudes
compare as their ranks do; the neighbours of a magnitude are the ranks beside
it; and the magnitude itself is the natural number `Decimal.units` of the
smallest positive double, `2 ^ (-1074)`. Rounding, comparing and taking
remainders are then arithmetic on natural numbers, with no rounding of their
own.
-/

namespace ColumnChecks

/-- The rank of infinity: the number of finite magnitudes. -/
def Decimal.infinityRank : Nat := 2047 * Nat.pow 2 52

/-- A double: not a number, or a sign and the rank of a magnitude. -/
inductive Decimal where
  | nan
  | number (negative : Bool) (rank : Fin (Decimal.infinityRank + 1))
  deriving DecidableEq, Repr, Inhabited

namespace Decimal

/-! ### Magnitudes -/

/-- How many binary places above the finest grid the magnitude of a rank lies. -/
def scale (rank : Nat) : Nat := rank / Nat.pow 2 52 - 1

/-- The magnitude of a rank on the grid of its own scale. -/
def significand (rank : Nat) : Nat :=
  if rank < Nat.pow 2 52 then rank else Nat.pow 2 52 + rank % Nat.pow 2 52

/-- The magnitude of a rank, in units of the smallest positive double. -/
def units (rank : Nat) : Nat := significand rank * Nat.pow 2 (scale rank)

/-- The number of units in one. -/
def unitsPerOne : Nat := Nat.pow 2 1074

/-! ### Rounding -/

/-- The natural number nearest to a quotient; a half goes to the even one. -/
def roundHalfEven (num den : Nat) : Nat :=
  let floor := num / den
  let rest := 2 * (num % den)
  if rest < den then floor
  else if den < rest then floor + 1
  else floor + floor % 2

/-- The rank of the double nearest to a quotient of units, half to even. A
quotient past the last finite double by half a step or more has the rank of
infinity. -/
def nearestRank (num den : Nat) : Fin (infinityRank + 1) :=
  let shift := (num / den).log2 - 52
  let rank := shift * Nat.pow 2 52 + roundHalfEven num (den * Nat.pow 2 shift)
  ⟨min rank infinityRank, Nat.lt_succ_of_le (Nat.min_le_right _ _)⟩

/-- The double nearest to a quotient of natural numbers, with a sign. -/
def ofRatio (negative : Bool) (num den : Nat) : Decimal :=
  .number negative (nearestRank (num * unitsPerOne) den)

/-- The double nearest to an integer. -/
def ofInt (i : Int) : Decimal := ofRatio (decide (i < 0)) i.natAbs 1

/-! ### Special values -/

/-- Zero, which has a sign of its own. -/
def signedZero (negative : Bool) : Decimal := .number negative 0

def negativeZero : Decimal := signedZero true

def infinity (negative : Bool) : Decimal :=
  .number negative ⟨infinityRank, Nat.lt_succ_self _⟩

def isFinite : Decimal → Bool
  | .nan => false
  | .number _ rank => rank.val < infinityRank

/-- Whether a double is an integer. -/
def isWhole : Decimal → Bool
  | .nan => false
  | .number _ rank => rank.val < infinityRank && units rank % unitsPerOne == 0

/-! ### Order -/

/-- The place of a number on the line of the doubles. Both zeros have place
zero. -/
def place (negative : Bool) (rank : Nat) : Int := if negative then -(rank : Int) else rank

/-- The order of two doubles; there is none when one is no number. -/
def compare? : Decimal → Decimal → Option Ordering
  | .number s r, .number s' r' => some (compare (place s r) (place s' r'))
  | _, _ => none

/-- Equality as numbers: the two zeros are equal, and what is no number equals
nothing. -/
def numEq (x y : Decimal) : Bool := x.compare? y == some .eq

/-! ### Remainder -/

/-- The remainder of a division that rounds the quotient toward zero. It is
exact, and has the sign of the dividend. -/
def remainder : Decimal → Decimal → Decimal
  | .number s r, .number _ r' =>
    if r.val = infinityRank ∨ r'.val = 0 then .nan
    else if r'.val = infinityRank then .number s r
    else .number s (nearestRank (units r % units r') 1)
  | _, _ => .nan

end Decimal

end ColumnChecks
