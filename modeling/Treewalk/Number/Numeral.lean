import Treewalk.Number.Decimal
import Treewalk.Text.Blank
import Treewalk.Text.Digit

/-!
Numerals: numbers written as text. Blanks may stand around a numeral, its digits may be those of any
script, and single underscores may stand between digits. An integer may be written to another base than
ten, with letters for the digits above nine.
-/

set_option autoImplicit false
set_option relaxedAutoImplicit false

namespace Treewalk

namespace Numeral

/-- Whether a character may stand around a numeral: a blank that is no control separator. -/
def isMargin (c : Char) : Bool := Text.isBlank c && !(28 ≤ c.toNat && c.toNat ≤ 31)

/-- What stands between the margins of a numeral. -/
def body (cs : List Char) : List Char :=
  ((cs.dropWhile isMargin).reverse.dropWhile isMargin).reverse

/-- An ASCII letter in lower case. -/
def lowerAscii (c : Char) : Char :=
  if 65 ≤ c.toNat && c.toNat ≤ 90 then Char.ofNat (c.toNat + 32) else c

/-- The value of a digit of any script, or of an ASCII letter, where ten follows on nine. -/
def digitValue? (c : Char) : Option Nat :=
  (Text.digitValue? c).orElse fun _ =>
    let code := (lowerAscii c).toNat
    if 97 ≤ code && code ≤ 122 then some (code - 87) else none

/-- Reads digits to a base, with single underscores between digits allowed. The flag says whether a
digit stands just before. -/
def digits? (base : Nat) : Bool → List Char → Option (List Nat)
  | previous, [] => if previous then some [] else none
  | previous, c :: rest =>
    if c = '_' then
      if previous then digits? base false rest else none
    else
      match digitValue? c with
      | none => none
      | some d => if d < base then (digits? base true rest).map (d :: ·) else none

/-- The natural number of a digit list. -/
def ofDigits (base : Nat) (digits : List Nat) : Nat :=
  digits.foldl (fun total d => total * base + d) 0

/-- Splits off a sign. -/
def sign : List Char → Bool × List Char
  | '-' :: rest => (true, rest)
  | '+' :: rest => (false, rest)
  | cs => (false, cs)

/-- A natural number with a sign. -/
def signed (isNegative : Bool) (magnitude : Nat) : Int :=
  if isNegative then -(magnitude : Int) else (magnitude : Int)

/-- How many digits an integer may have where it is read or written to a base that is no power of
two. -/
def digitLimit : Nat := 4300

/-- The bases that are powers of two. -/
def binaryBases : List Nat := [2, 4, 8, 16, 32]

/-- Reads a natural number to a base; there may not be too many digits. -/
def naturalTo? (base : Nat) (cs : List Char) : Option Nat :=
  match digits? base false cs with
  | some digits =>
    if digits.length ≤ digitLimit || binaryBases.contains base then some (ofDigits base digits)
    else none
  | none => none

/-- Reads an integer: blanks around it, a sign, digits with single underscores between them. -/
def int? (s : String) : Option Int :=
  let (isNegative, digits) := sign (body s.toList)
  (naturalTo? 10 digits).map (signed isNegative)

/-! ### Other bases -/

/-- The base that a letter after a zero announces. -/
def announced? (c : Char) : Option Nat :=
  if c = 'x' || c = 'X' then some 16
  else if c = 'o' || c = 'O' then some 8
  else if c = 'b' || c = 'B' then some 2
  else none

/-- Whether a numeral has a zero at its front. -/
def leadsWithZero (cs : List Char) : Bool := cs.head?.bind digitValue? == some 0

/-- The base that a numeral announces: by a zero at its front and a letter after it. -/
def announcement? (cs : List Char) : Option Nat :=
  if leadsWithZero cs then (cs.drop 1).head?.bind announced? else none

/-- What follows on the announcement of a base; an underscore may stand between them. -/
def afterAnnouncement (cs : List Char) : List Char :=
  match cs.drop 2 with
  | '_' :: rest => rest
  | rest => rest

/-- Reads a natural number to a base, which may also be announced. To the base zero, an announced base
holds, and without one ten does, where a number other than zero has no zero at its front. -/
def natural? (base : Nat) (cs : List Char) : Option Nat :=
  match announcement? cs with
  | some own =>
    if base = 0 || base = own then naturalTo? own (afterAnnouncement cs)
    else naturalTo? base cs
  | none =>
    if base = 0 then
      match naturalTo? 10 cs with
      | some n => if leadsWithZero cs && n != 0 then none else some n
      | none => none
    else naturalTo? base cs

/-- Reads an integer to a base. -/
def intTo? (base : Nat) (s : String) : Option Int :=
  let (isNegative, digits) := sign (body s.toList)
  (natural? base digits).map (signed isNegative)

/-! ### Decimal numerals -/

/-- The digits of one part of a decimal numeral, where a part may be empty. -/
def part? (cs : List Char) : Option (List Nat) := if cs.isEmpty then some [] else digits? 10 false cs

/-- Reads the exponent after its mark. -/
def exponent? (cs : List Char) : Option Int :=
  let (isNegative, digits) := sign cs
  (digits? 10 false digits).map fun digits => signed isNegative (ofDigits 10 digits)

/-- Whether a character marks an exponent. -/
def isExponentMark (c : Char) : Bool := c == 'e' || c == 'E'

/-- Reads an unsigned decimal numeral: digits with an optional point and exponent. -/
def decimal? (isNegative : Bool) (cs : List Char) : Option Binary64 :=
  let mantissa := cs.takeWhile (fun c => !isExponentMark c)
  let afterMantissa := cs.drop mantissa.length
  let whole := mantissa.takeWhile (· != '.')
  let fraction := (mantissa.drop whole.length).drop 1
  let power? :=
    match afterMantissa with
    | [] => some 0
    | _ :: rest => exponent? rest
  match part? whole, part? fraction, power? with
  | some wholeDigits, some fractionDigits, some power =>
    let digits := wholeDigits ++ fractionDigits
    if digits.isEmpty then none
    else some (Decimal.value isNegative (ofDigits 10 digits) (power - fractionDigits.length))
  | _, _, _ => none

/-- Reads a floating-point number: blanks around it, a sign, and a decimal numeral or the name of an
infinity or of the not-a-number. -/
def float? (s : String) : Option Binary64 :=
  let (isNegative, magnitude) := sign (body s.toList)
  let word := String.ofList (magnitude.map lowerAscii)
  if word = "inf" || word = "infinity" then some (Binary64.infinity isNegative)
  else if word = "nan" then some Binary64.nan
  else decimal? isNegative magnitude

end Numeral

end Treewalk
