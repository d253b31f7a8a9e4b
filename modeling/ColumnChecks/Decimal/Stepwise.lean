import ColumnChecks.Decimal.Reading

/-!
# Reading a double step by step

JSON texts are read with machine arithmetic. The digits of a numeral are taken into a word
of 64 bits as long as they fit there, and the others only count as powers of ten; the word
is rounded to a double, and this double is multiplied by a power of ten or divided by one.
**Every step rounds**, so what is read may be a neighbour of the double that is nearest to
the numeral: `0.9452706955539223` is read as `0.9452706955539224`.
-/

namespace ColumnChecks.Decimal

/-! ### Steps of arithmetic -/

/-- The product of two magnitudes, rounded. -/
def productRank (rank factor : Nat) : Fin (infinityRank + 1) :=
  nearestRank (units rank * units factor) unitsPerOne

/-- The quotient of two magnitudes, rounded. -/
def quotientRank (rank divisor : Nat) : Fin (infinityRank + 1) :=
  nearestRank (units rank * unitsPerOne) (units divisor)

/-- The double nearest to a natural number. -/
def naturalRank (n : Nat) : Fin (infinityRank + 1) := nearestRank (n * unitsPerOne) 1

/-- The double nearest to a power of ten. -/
def tenPowerRank (exponent : Nat) : Fin (infinityRank + 1) := naturalRank (Nat.pow 10 exponent)

/-! ### Powers of ten -/

/-- The greatest power of ten that is a double. -/
def greatestPower : Nat := 308

/-- Divide by the greatest power of ten again and again, unless nothing is left. -/
def divideOften : Nat → Fin (infinityRank + 1) → Fin (infinityRank + 1)
  | 0, rank => rank
  | rounds + 1, rank =>
    if rank.val = 0 then rank
    else divideOften rounds (quotientRank rank (tenPowerRank greatestPower))

/-- Divide by a power of ten, in as many steps as that takes. -/
def divideByPower (rank : Fin (infinityRank + 1)) (places : Nat) : Fin (infinityRank + 1) :=
  let rounds := (places - 1) / greatestPower
  quotientRank (divideOften rounds rank) (tenPowerRank (places - rounds * greatestPower))

/-- Multiply by a power of ten; what is beyond all doubles is infinite, except for nothing
at all. -/
def multiplyByPower (rank : Fin (infinityRank + 1)) (places : Nat) : Fin (infinityRank + 1) :=
  if places ≤ greatestPower then productRank rank (tenPowerRank places)
  else if rank.val = 0 then rank
  else ⟨infinityRank, Nat.lt_succ_self _⟩

/-- `word * 10 ^ power` with a sign, as the steps find it. -/
def scaleWord (negative : Bool) (word : Nat) (power : Int) : Decimal :=
  .number negative
    (if 0 ≤ power then multiplyByPower (naturalRank word) power.natAbs
    else divideByPower (naturalRank word) power.natAbs)

/-! ### Numerals -/

/-- Take digits into a word behind those that it has, up to the first one that does not
fit: the word, and the digits from there on. -/
def takeDigits (word : Nat) : List Char → Nat × List Char
  | [] => (word, [])
  | c :: cs =>
    let next := word * 10 + (c.toNat - '0'.toNat)
    if next < UInt64.size then takeDigits next cs else (word, c :: cs)

/-- A numeral with a sign, by the digits on both sides of the point and the exponent. The
first digit behind the point is tried even when some before the point did not fit. -/
def ofParts (negative : Bool) (whole fraction : List Char) (exponent : Int) : Decimal :=
  let (word, more) := takeDigits 0 whole
  let (word, ignored) := takeDigits word fraction
  scaleWord negative word (exponent + more.length - (fraction.length - ignored.length : Nat))

end ColumnChecks.Decimal
