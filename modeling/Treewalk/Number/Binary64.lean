/-!
Double-precision numbers. A number is kept as its bit pattern, so two numbers are equal exactly when
their patterns agree; the numeric comparison is a separate operation that follows the usual order,
in which a not-a-number is unordered and the two zeros coincide. Every finite number is a significand
times a power of two, and `ofRatio` rounds an exact quotient to the nearest number, ties to even.
-/

set_option autoImplicit false
set_option relaxedAutoImplicit false

namespace Treewalk

/-- A double-precision number, held as its bit pattern. -/
structure Binary64 where
  bits : UInt64
deriving DecidableEq, Repr, Inhabited

namespace Binary64

/-! ### Fields of the pattern -/

/-- The sign bit. -/
def negative (x : Binary64) : Bool := Nat.pow 2 63 ≤ x.bits.toNat

/-- The eleven exponent bits. -/
def exponentField (x : Binary64) : Nat := x.bits.toNat / Nat.pow 2 52 % Nat.pow 2 11

/-- The fifty-two fraction bits. -/
def fractionField (x : Binary64) : Nat := x.bits.toNat % Nat.pow 2 52

/-- A pattern that stands for no number. -/
def isNaN (x : Binary64) : Bool := x.exponentField == 2047 && x.fractionField != 0

/-- Plus or minus infinity. -/
def isInfinite (x : Binary64) : Bool := x.exponentField == 2047 && x.fractionField == 0

/-- A number that is neither infinite nor a not-a-number. -/
def isFinite (x : Binary64) : Bool := x.exponentField != 2047

/-- Plus or minus zero. -/
def isZero (x : Binary64) : Bool := x.exponentField == 0 && x.fractionField == 0

/-- The significand of a finite number's magnitude. -/
def significand (x : Binary64) : Nat :=
  if x.exponentField = 0 then x.fractionField else x.fractionField + Nat.pow 2 52

/-- The power of two that the significand of a finite number is multiplied by. -/
def scale (x : Binary64) : Int :=
  if x.exponentField = 0 then -1074 else (x.exponentField : Int) - 1075

/-! ### Constants -/

/-- Assembles a pattern from its three fields. -/
def ofFields (isNegative : Bool) (exponent fraction : Nat) : Binary64 :=
  ⟨UInt64.ofNat ((if isNegative then Nat.pow 2 63 else 0) + exponent * Nat.pow 2 52 + fraction)⟩

/-- Zero with the given sign. -/
def zero (isNegative : Bool) : Binary64 := ofFields isNegative 0 0

/-- Infinity with the given sign. -/
def infinity (isNegative : Bool) : Binary64 := ofFields isNegative 2047 0

/-- The quiet not-a-number. -/
def nan : Binary64 := ofFields false 2047 (Nat.pow 2 51)

/-- A not-a-number with a label that tells it apart from others; no arithmetic depends on it. -/
def labelledNaN (label : Nat) : Binary64 := ofFields false 2047 (Nat.pow 2 51 + label)

/-- Whether a pattern is a not-a-number with a label. -/
def isLabelled (x : Binary64) : Bool := x.isNaN && x.fractionField % Nat.pow 2 51 != 0

/-! ### Exact rounding -/

/-- The greatest power of two that does not exceed a positive quotient. -/
def floorLog2 (numerator denominator : Nat) : Int :=
  let guess : Int := (numerator.log2 : Int) - (denominator.log2 : Int)
  let reached :=
    if 0 ≤ guess then denominator * Nat.pow 2 guess.toNat ≤ numerator
    else denominator ≤ numerator * Nat.pow 2 (-guess).toNat
  if reached then guess else guess - 1

/-- A quotient rounded to the nearest natural number, a half going to the even neighbour. -/
def roundHalfEven (numerator denominator : Nat) : Nat :=
  let whole := numerator / denominator
  let rest := numerator % denominator
  if 2 * rest < denominator then whole
  else if denominator < 2 * rest then whole + 1
  else if whole % 2 = 0 then whole else whole + 1

/-- The number nearest to a quotient of naturals, ties to even; infinite when the quotient is too
large. The denominator is positive. -/
def ofRatio (isNegative : Bool) (numerator denominator : Nat) : Binary64 :=
  if numerator = 0 then zero isNegative
  else
    let power := max (floorLog2 numerator denominator - 52) (-1074)
    let rounded :=
      if 0 ≤ power then roundHalfEven numerator (denominator * Nat.pow 2 power.toNat)
      else roundHalfEven (numerator * Nat.pow 2 (-power).toNat) denominator
    let carried := rounded = Nat.pow 2 53
    let digits := if carried then Nat.pow 2 52 else rounded
    let power := if carried then power + 1 else power
    if digits < Nat.pow 2 52 then ofFields isNegative 0 digits
    else
      let exponent := (power + 1075).toNat
      if 2047 ≤ exponent then infinity isNegative
      else ofFields isNegative exponent (digits - Nat.pow 2 52)

/-- The number nearest to an integer; infinite when the integer is too large. -/
def ofInt (i : Int) : Binary64 := ofRatio (decide (i < 0)) i.natAbs 1

/-- The number nearest to an integer, if it is finite. -/
def ofInt? (i : Int) : Option Binary64 :=
  let x := ofInt i
  if x.isFinite then some x else none

/-- The quotient of two integers rounded once, if it is finite. The divisor is not zero; its sign also
decides the sign of a quotient that is zero. -/
def ofQuotient? (dividend divisor : Int) : Option Binary64 :=
  let isNegative := decide (dividend < 0) != decide (divisor < 0)
  let x := ofRatio isNegative dividend.natAbs divisor.natAbs
  if x.isFinite then some x else none

/-! ### Exact comparison -/

/-- The signed significand of a finite number over the common power of two `power`, which is at most
the number's own scale. -/
def scaledTo (x : Binary64) (power : Int) : Int :=
  let magnitude : Int := (x.significand : Int) * Int.pow 2 (x.scale - power).toNat
  if x.negative then -magnitude else magnitude

/-- The order of two numbers by value; unordered when either is a not-a-number. -/
def compare? (x y : Binary64) : Option Ordering :=
  if x.isNaN || y.isNaN then none
  else if x.isInfinite || y.isInfinite then
    let rank (z : Binary64) : Int := if z.isInfinite then (if z.negative then -1 else 1) else 0
    some (compare (rank x) (rank y))
  else
    let power := min x.scale y.scale
    some (compare (x.scaledTo power) (y.scaledTo power))

/-- The order of a number and an integer by value, without rounding the integer. -/
def compareInt? (x : Binary64) (i : Int) : Option Ordering :=
  if x.isNaN then none
  else if x.isInfinite then some (if x.negative then .lt else .gt)
  else
    let power := min x.scale 0
    some (compare (x.scaledTo power) (i * Int.pow 2 (-power).toNat))

/-- The integer that a number equals, if it equals one. -/
def toInt? (x : Binary64) : Option Int :=
  if !x.isFinite then none
  else
    let magnitude :=
      if 0 ≤ x.scale then some (x.significand * Nat.pow 2 x.scale.toNat)
      else
        let unit := Nat.pow 2 (-x.scale).toNat
        if x.significand % unit = 0 then some (x.significand / unit) else none
    magnitude.map fun m => if x.negative then -(m : Int) else (m : Int)

/-! ### Arithmetic -/

/-- The number of a native double. -/
def ofFloat (x : Float) : Binary64 := ⟨x.toBits⟩

/-- The native double of a number. -/
def toFloat (x : Binary64) : Float := Float.ofBits x.bits

def add (x y : Binary64) : Binary64 := ofFloat (x.toFloat + y.toFloat)

def sub (x y : Binary64) : Binary64 := ofFloat (x.toFloat - y.toFloat)

def mul (x y : Binary64) : Binary64 := ofFloat (x.toFloat * y.toFloat)

def div (x y : Binary64) : Binary64 := ofFloat (x.toFloat / y.toFloat)

def pow (x y : Binary64) : Binary64 := ofFloat (x.toFloat.pow y.toFloat)

/-- The number with the opposite sign. -/
def neg (x : Binary64) : Binary64 :=
  if x.isNaN then x else ofFields (!x.negative) x.exponentField x.fractionField

/-- The remainder that has the sign of the divisor; the divisor is not zero. The truncated remainder
is exact, and is moved by one divisor when the signs differ. -/
def mod (x y : Binary64) : Binary64 :=
  if x.isNaN || y.isNaN || x.isInfinite then nan
  else if y.isInfinite then
    if x.isZero then zero y.negative
    else if x.negative == y.negative then x else y
  else
    let power := min x.scale y.scale
    let rest := (x.scaledTo power).natAbs % (y.scaledTo power).natAbs
    if rest = 0 then zero y.negative
    else
      let truncated :=
        if 0 ≤ power then ofRatio x.negative (rest * Nat.pow 2 power.toNat) 1
        else ofRatio x.negative rest (Nat.pow 2 (-power).toNat)
      if x.negative == y.negative then truncated else add truncated y

end Binary64

/-- A number: an integer of any size, or a double-precision number. -/
inductive Number where
  | int (value : Int)
  | float (value : Binary64)
deriving DecidableEq, Repr, Inhabited

end Treewalk
