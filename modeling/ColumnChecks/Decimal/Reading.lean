import ColumnChecks.Decimal.Basic

/-!
# Reading a double

A numeral denotes a rational number, and is read as the double nearest to it,
half to even. Numerals with exponents far outside the range of the doubles are
decided by their size alone, so no power of ten is computed that is longer than
the numeral needs.
-/

namespace ColumnChecks.Decimal

/-- The number that a list of decimal digits denotes. -/
def natOfDigits (digits : List Char) : Nat :=
  digits.foldl (fun n c => n * 10 + (c.toNat - '0'.toNat)) 0

/-- The double nearest to `digits * 10 ^ power`, with a sign. -/
def ofDigits (negative : Bool) (digits : Nat) (power : Int) : Decimal :=
  if digits = 0 then signedZero negative
  else
    let point : Int := (Nat.toDigits 10 digits).length + power
    if 400 < point then infinity negative
    else if point < -400 then signedZero negative
    else if 0 ≤ power then ofRatio negative (digits * Nat.pow 10 power.natAbs) 1
    else ofRatio negative digits (Nat.pow 10 power.natAbs)

/-- The integer that digits with an optional sign denote. -/
def signedDigits? (cs : List Char) : Option Int :=
  let (negative, digits) := match cs with
    | '-' :: rest => (true, rest)
    | '+' :: rest => (false, rest)
    | _ => (false, cs)
  if digits.isEmpty || !digits.all Char.isDigit then none
  else some (if negative then -(natOfDigits digits : Int) else natOfDigits digits)

/-- The double of an unsigned numeral: digits, with or without a point among
them or beside them, and perhaps an exponent. -/
def ofUnsignedText? (negative : Bool) (cs : List Char) : Option Decimal :=
  let mantissa := cs.takeWhile fun c => c != 'e' && c != 'E'
  let exponent? := match cs.dropWhile fun c => c != 'e' && c != 'E' with
    | [] => some 0
    | _ :: rest => signedDigits? rest
  let whole := mantissa.takeWhile (· != '.')
  let fraction := (mantissa.dropWhile (· != '.')).drop 1
  let digits := whole ++ fraction
  if digits.isEmpty || !digits.all Char.isDigit then none
  else exponent?.map fun exponent =>
    ofDigits negative (natOfDigits digits) (exponent - fraction.length)

/-- The double that a text denotes: a numeral with an optional sign, or one of
the names of infinity and of what is no number, in any case. -/
def ofText? (text : String) : Option Decimal :=
  let (negative, cs) := match text.toList with
    | '-' :: rest => (true, rest)
    | '+' :: rest => (false, rest)
    | cs => (false, cs)
  let name := String.ofList (cs.map Char.toLower)
  if name = "inf" ∨ name = "infinity" then some (infinity negative)
  else if name = "nan" then some .nan
  else ofUnsignedText? negative cs

end ColumnChecks.Decimal
