import Treewalk.Number.Binary64

/-!
Decimal text of double-precision numbers. `Decimal.shortest` finds the fewest digits that read back
as the same number, nearest to it among those; `Layout` says where the point and the exponent go;
`Decimal.value` reads a decimal back, rounding once.
-/

set_option autoImplicit false
set_option relaxedAutoImplicit false

namespace Treewalk

/-- A positive decimal: its digits as a natural number, and the power of ten of the first digit. -/
structure Decimal where
  digits : Nat
  leading : Int
deriving DecidableEq, Repr, Inhabited

namespace Decimal

/-- The digits of a natural number, most significant first. -/
def digitChars (n : Nat) : List Char := Nat.toDigits 10 n

/-- How many decimal digits a natural number has. -/
def digitCount (n : Nat) : Nat := (digitChars n).length

/-- The greatest power of ten that does not exceed a positive quotient. -/
def floorLog10 (numerator denominator : Nat) : Int :=
  if denominator ≤ numerator then (digitCount (numerator / denominator) : Int) - 1
  else
    let inverse := (denominator + numerator - 1) / numerator
    if inverse = 1 then 0 else -(digitCount (inverse - 1) : Int)

/-- The number nearest to `digits` times a power of ten. Magnitudes beyond the range of numbers are
cut off before the power is computed. -/
def value (isNegative : Bool) (digits : Nat) (power : Int) : Binary64 :=
  if digits = 0 then Binary64.zero isNegative
  else
    let magnitude := (digitCount digits : Int) + power
    if 400 < magnitude then Binary64.infinity isNegative
    else if magnitude < -400 then Binary64.zero isNegative
    else if 0 ≤ power then Binary64.ofRatio isNegative (digits * Nat.pow 10 power.toNat) 1
    else Binary64.ofRatio isNegative digits (Nat.pow 10 (-power).toNat)

/-- Drops the zeros at the end of a digit string. -/
def trimZeros : Nat → Nat → Nat
  | 0, digits => digits
  | fuel + 1, digits => if digits % 10 = 0 then trimZeros fuel (digits / 10) else digits

/-- The distance of `candidate` from `numerator / denominator`, times the denominator. -/
def distance (numerator denominator candidate : Nat) : Nat :=
  let target := candidate * denominator
  if target ≤ numerator then numerator - target else target - numerator

/-- Of the two neighbours of a positive finite number on the grid of `count` digits, one that reads
back as the number: the nearer if both do, the even one in a tie. -/
def onGrid? (x : Binary64) (numerator denominator : Nat) (leading : Int) (count : Nat) :
    Option Nat :=
  let unit : Int := leading - count + 1
  let scaledNumerator := if 0 ≤ unit then numerator else numerator * Nat.pow 10 (-unit).toNat
  let scaledDenominator := if 0 ≤ unit then denominator * Nat.pow 10 unit.toNat else denominator
  let lower := scaledNumerator / scaledDenominator
  let upper := lower + 1
  let readsBack (candidate : Nat) : Bool := value false candidate unit == x
  match readsBack lower, readsBack upper with
  | true, true =>
    let above := distance scaledNumerator scaledDenominator upper
    let below := distance scaledNumerator scaledDenominator lower
    if above < below || (above = below && upper % 2 = 0) then some upper else some lower
  | true, false => some lower
  | false, true => some upper
  | false, false => none

/-- Searches grids of growing fineness, from `count` digits on. -/
def search (x : Binary64) (numerator denominator : Nat) (leading : Int) : Nat → Nat → Decimal
  | 0, count => ⟨(onGrid? x numerator denominator leading count).getD 0, leading⟩
  | fuel + 1, count =>
    match onGrid? x numerator denominator leading count with
    | some digits => ⟨digits, leading + ((digitCount digits : Int) - count)⟩
    | none => search x numerator denominator leading fuel (count + 1)

/-- The fewest digits that read back as the magnitude of a finite number that is not zero. -/
def shortest (x : Binary64) : Decimal :=
  let magnitude := Binary64.ofFields false x.exponentField x.fractionField
  let numerator := if 0 ≤ x.scale then x.significand * Nat.pow 2 x.scale.toNat else x.significand
  let denominator := if 0 ≤ x.scale then 1 else Nat.pow 2 (-x.scale).toNat
  let found := search magnitude numerator denominator (floorLog10 numerator denominator) 17 1
  ⟨trimZeros 17 found.digits, found.leading⟩

/-! ### Layout -/

/-- How a number is written: the powers of ten of the first digit between which it is written
positionally, the mark before an exponent, the least number of exponent digits, whether an exponent
form without a point gets one, and the words for the three special numbers. -/
structure Layout where
  leastPositional : Int
  leastScientific : Int
  exponentDigits : Nat
  pointBeforeExponent : Bool
  positiveInfinity : String
  negativeInfinity : String
  notANumber : String
deriving Repr

/-- Writes an exponent with its sign and at least `least` digits. -/
def exponentText (least : Nat) (exponent : Int) : String :=
  let digits := digitChars exponent.natAbs
  let padding := List.replicate (least - digits.length) '0'
  (if exponent < 0 then "-" else "+") ++ String.ofList (padding ++ digits)

/-- Writes a decimal; at least one digit follows a point. -/
def write (layout : Layout) (d : Decimal) : String :=
  let digits := digitChars d.digits
  if d.leading < layout.leastPositional || layout.leastScientific ≤ d.leading then
    let mantissa :=
      match digits with
      | [] => "0"
      | first :: rest =>
        if rest.isEmpty then
          String.ofList [first] ++ (if layout.pointBeforeExponent then ".0" else "")
        else String.ofList (first :: '.' :: rest)
    mantissa ++ "e" ++ exponentText layout.exponentDigits d.leading
  else if d.leading < 0 then
    "0." ++ String.ofList (List.replicate (-d.leading - 1).toNat '0' ++ digits)
  else
    let whole := d.leading.toNat + 1
    let padded := digits ++ List.replicate (whole - digits.length) '0'
    let fraction := padded.drop whole
    String.ofList (padded.take whole) ++ "." ++
      (if fraction.isEmpty then "0" else String.ofList fraction)

end Decimal

namespace Binary64

/-- The text of a number under a layout. -/
def text (layout : Decimal.Layout) (x : Binary64) : String :=
  if x.isNaN then layout.notANumber
  else if x.isInfinite then
    if x.negative then layout.negativeInfinity else layout.positiveInfinity
  else
    let magnitude := if x.isZero then "0.0" else (Decimal.shortest x).write layout
    if x.negative then "-" ++ magnitude else magnitude

end Binary64

end Treewalk
