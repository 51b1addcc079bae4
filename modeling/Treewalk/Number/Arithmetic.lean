import Treewalk.Failure

/-!
Arithmetic on numbers, which are integers of any size or double-precision numbers. An operation on
two integers is exact where the result is an integer; as soon as one operand is a double-precision
number, the other one is rounded to one first. Comparison never rounds.
-/

set_option autoImplicit false
set_option relaxedAutoImplicit false

namespace Treewalk

namespace Number

/-- The double-precision number nearest to a number; an integer may be too large to have one. -/
def toBinary64 : Number → Except Cause Binary64
  | int i =>
    match Binary64.ofInt? i with
    | some x => .ok x
    | none => .error (.plain .overflow)
  | float x => .ok x

/-- Whether a number is zero. -/
def isZero : Number → Bool
  | int i => i == 0
  | float x => x.isZero

/-- Rounds both operands and applies a total operation. -/
def lift (operation : Binary64 → Binary64 → Binary64) (a b : Number) : Except Cause Number := do
  let x ← a.toBinary64
  let y ← b.toBinary64
  .ok (float (operation x y))

def add : Number → Number → Except Cause Number
  | int i, int j => .ok (int (i + j))
  | a, b => lift Binary64.add a b

def sub : Number → Number → Except Cause Number
  | int i, int j => .ok (int (i - j))
  | a, b => lift Binary64.sub a b

def mul : Number → Number → Except Cause Number
  | int i, int j => .ok (int (i * j))
  | a, b => lift Binary64.mul a b

/-- The quotient as a double-precision number; two integers are divided exactly and rounded once. -/
def div : Number → Number → Except Cause Number
  | int i, int j =>
    if j = 0 then .error (.plain .division)
    else
      match Binary64.ofQuotient? i j with
      | some x => .ok (float x)
      | none => .error (.plain .overflow)
  | a, b => do
    let x ← a.toBinary64
    let y ← b.toBinary64
    if y.isZero then .error (.plain .division) else .ok (float (x.div y))

/-- The remainder that has the sign of the divisor. -/
def mod : Number → Number → Except Cause Number
  | int i, int j => if j = 0 then .error (.plain .division) else .ok (int (Int.fmod i j))
  | a, b => do
    let x ← a.toBinary64
    let y ← b.toBinary64
    if y.isZero then .error (.plain .division) else .ok (float (x.mod y))

/-- A power of double-precision numbers: zero has no negative finite powers, a negative base has no real
power that is not an integer, and a finite power that is too large overflows, whether it is real or
not. -/
def floatPow (x y : Binary64) : Except Cause Number :=
  if x.isZero && y.negative && y.isFinite && !y.isZero then .error (.plain .division)
  else
    let isUnreal := x.negative && !x.isZero && x.isFinite && y.isFinite && y.toInt?.isNone
    let power := (if isUnreal then x.neg else x).pow y
    if power.isInfinite && x.isFinite && y.isFinite then .error (.plain .overflow)
    else if isUnreal then .error (.plain .type)
    else .ok (float power)

/-- A power of an integer. Those of zero, one and minus one need no multiplication, however large the
exponent is. -/
def integerPow (i : Int) (exponent : Nat) : Int :=
  if i = 1 || exponent = 0 then 1
  else if i = 0 then 0
  else if i = -1 then (if exponent % 2 = 0 then 1 else -1)
  else Int.pow i exponent

/-- A power; integers to the power of a natural number are exact. -/
def pow : Number → Number → Except Cause Number
  | int i, int j =>
    if 0 ≤ j then .ok (int (integerPow i j.toNat))
    else do
      let x ← (int i).toBinary64
      let y ← (int j).toBinary64
      floatPow x y
  | a, b => do
    let x ← a.toBinary64
    let y ← b.toBinary64
    floatPow x y

def neg : Number → Number
  | int i => int (-i)
  | float x => float x.neg

/-- The order of two numbers by value; unordered when either is a not-a-number. -/
def compare? : Number → Number → Option Ordering
  | int i, int j => some (compare i j)
  | float x, float y => x.compare? y
  | float x, int j => x.compareInt? j
  | int i, float y => (y.compareInt? i).map Ordering.swap

/-- Whether a machine word of sixty-four bits holds an integer. Only such integers count or number the
items of a sequence. -/
def fitsWord (i : Int) : Bool := -Int.pow 2 63 ≤ i && i < Int.pow 2 63

/-! ### Bits -/

/-- The bitwise combination of two integers in two's complement, from that of their low bits. -/
def bitwise (operation : Bool → Bool → Bool) (i j : Int) : Int :=
  let complement (k : Int) : Nat := if k < 0 then (-k - 1).toNat else k.toNat
  let flipI := decide (i < 0)
  let flipJ := decide (j < 0)
  let flipResult := operation flipI flipJ
  let magnitude :=
    Nat.bitwise (fun a b => (operation (a != flipI) (b != flipJ)) != flipResult)
      (complement i) (complement j)
  if flipResult then -(magnitude : Int) - 1 else (magnitude : Int)

/-- The number of places from which on a shifted integer overflows: integers are written in digits of
thirty bits, of which there are fewer than two to the sixty-first. -/
def placeBound : Nat := 30 * Nat.pow 2 61

/-- Shifts towards higher places; zero stays zero. -/
def shiftLeft (i j : Int) : Except Cause Int :=
  if j < 0 then .error (.plain .value)
  else if i = 0 then .ok 0
  else if placeBound ≤ j.toNat then .error (.plain .overflow)
  else .ok (i * Int.pow 2 j.toNat)

/-- Shifts towards lower places, rounding down. -/
def shiftRight (i j : Int) : Except Cause Int :=
  if j < 0 then .error (.plain .value)
  else if i.natAbs.log2 < j.toNat then .ok (if i < 0 then -1 else 0)
  else .ok (Int.fdiv i (Int.pow 2 j.toNat))

/-- The number of bits of an integer's magnitude. -/
def bitLength (i : Int) : Nat := if i = 0 then 0 else i.natAbs.log2 + 1

/-- The integer part of a number, towards zero; infinities and the not-a-number have none. -/
def truncate : Number → Except Cause Int
  | int i => .ok i
  | float x =>
    if x.isNaN then .error (.plain .value)
    else if x.isInfinite then .error (.plain .overflow)
    else
      let magnitude :=
        if 0 ≤ x.scale then x.significand * Nat.pow 2 x.scale.toNat
        else x.significand / Nat.pow 2 (-x.scale).toNat
      .ok (if x.negative then -(magnitude : Int) else (magnitude : Int))

end Number

end Treewalk
