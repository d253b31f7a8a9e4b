import ColumnChecks.Decimal.Shortest

/-!
# Writing a double

Every form of a double shows its shortest digits. The forms differ in where they
give up positional notation for an exponent, in whether a whole number keeps
`.0`, in the sign of an exponent and in how a tie between digits is broken; a
`Layout` records these decisions. `plain` is the form of SQL and of messages,
`json` that of JSON texts and `diagnostic` that of values inside diagnostics.
-/

namespace ColumnChecks.Decimal

/-- The decisions that fix the written form of a double. -/
structure Layout where
  tie : Tie
  /-- The powers of ten of the leading digit that are written without an
  exponent; with none given, all are. -/
  positional : Option (Int × Int)
  /-- Whether a whole number without an exponent ends in `.0`. -/
  pointZero : Bool
  /-- Whether an exponent that is not negative has a plus sign. -/
  plus : Bool
  /-- Whether infinities and what is no number have names; else they are
  `null`. -/
  named : Bool

/-- No exponent at all and no fraction that says nothing. -/
def plain : Layout := ⟨.up, none, false, false, true⟩

/-- JSON texts have an exponent below `1e-5` and from `1e16` on. -/
def json : Layout := ⟨.even, some (-5, 15), true, true, false⟩

/-- Diagnostics have an exponent below `1e-4` and from `1e16` on. -/
def diagnostic : Layout := ⟨.up, some (-4, 15), true, false, true⟩

/-- Digits with a point after the first `point` places, zeros filled in. -/
def writePositional (pointZero : Bool) (digits : List Char) (point : Int) : List Char :=
  if point ≤ 0 then
    '0' :: '.' :: (List.replicate point.natAbs '0' ++ digits)
  else if digits.length ≤ point.natAbs then
    digits ++ List.replicate (point.natAbs - digits.length) '0'
      ++ (if pointZero then ['.', '0'] else [])
  else digits.take point.natAbs ++ '.' :: digits.drop point.natAbs

/-- One digit, the others after a point, and the exponent. -/
def writeExponent (plus : Bool) (digits : List Char) (exponent : Int) : List Char :=
  let fraction := digits.drop 1
  digits.take 1 ++ (if fraction.isEmpty then [] else '.' :: fraction)
    ++ 'e' :: ((if plus && decide (0 ≤ exponent) then ['+'] else [])
    ++ (toString exponent).toList)

/-- A positive, finite magnitude. -/
def Layout.writeMagnitude (layout : Layout) (rank : Nat) : List Char :=
  let shortest := Digits.shortest layout.tie rank
  let digits := Nat.toDigits 10 shortest.digits
  let point : Int := digits.length + shortest.power
  let isPositional := match layout.positional with
    | none => true
    | some (least, greatest) => decide (least ≤ point - 1) && decide (point - 1 ≤ greatest)
  if isPositional then writePositional layout.pointZero digits point
  else writeExponent layout.plus digits (point - 1)

/-- The written form of a double. -/
def Layout.write (layout : Layout) : Decimal → String
  | .nan => if layout.named then "NaN" else "null"
  | .number negative rank =>
    let mark := if negative then ['-'] else []
    if rank.val = infinityRank then
      (if layout.named then String.ofList (mark ++ ['i', 'n', 'f']) else "null")
    else if rank.val = 0 then
      String.ofList (mark ++ '0' :: (if layout.pointZero then ['.', '0'] else []))
    else String.ofList (mark ++ layout.writeMagnitude rank)

end ColumnChecks.Decimal
