import Treewalk.Text.Digit
import Treewalk.Text.Printable

/-!
Quoted forms of texts. `inspected` is the form of the inspection printer: double quotes, with only
the backslash, the double quote and the line feed escaped. `literal` is the form of data literals:
single quotes unless the text holds a single quote and no double one, with every character that is
not printable escaped. `literalBytes` is the literal form of a byte string.
-/

set_option autoImplicit false
set_option relaxedAutoImplicit false

namespace Treewalk.Text

/-- The single quotation mark. -/
def singleQuote : Char := Char.ofNat 39

/-- The double quotation mark. -/
def doubleQuote : Char := Char.ofNat 34

/-- The backslash. -/
def backslash : Char := Char.ofNat 92

/-- The line feed. -/
def lineFeed : Char := Char.ofNat 10

/-! ### Inspection form -/

/-- One character of the inspection form. -/
def inspectedChar (c : Char) : List Char :=
  if c = backslash then [backslash, backslash]
  else if c = doubleQuote then [backslash, doubleQuote]
  else if c = lineFeed then [backslash, 'n']
  else [c]

/-- The inspection form of a text. -/
def inspected (s : String) : String :=
  String.ofList (doubleQuote :: s.toList.flatMap inspectedChar ++ [doubleQuote])

/-! ### Literal form -/

/-- A natural number in lower-case hexadecimal, padded with zeros to a width. -/
def hexPadded (width n : Nat) : List Char :=
  let digits := Nat.toDigits 16 n
  List.replicate (width - digits.length) '0' ++ digits

/-- One character of the literal form between the given quotation marks. -/
def literalChar (quote c : Char) : List Char :=
  let code := c.toNat
  if c = quote || c = backslash then [backslash, c]
  else if code = 9 then [backslash, 't']
  else if code = 10 then [backslash, 'n']
  else if code = 13 then [backslash, 'r']
  else if isPrintable c then [c]
  else if code < 256 then backslash :: 'x' :: hexPadded 2 code
  else if code < 65536 then backslash :: 'u' :: hexPadded 4 code
  else backslash :: 'U' :: hexPadded 8 code

/-- The quotation mark of the literal form: double exactly when the text holds a single one and no
double one. -/
def literalQuote (cs : List Char) : Char :=
  if cs.contains singleQuote && !cs.contains doubleQuote then doubleQuote else singleQuote

/-- The literal form of a text. -/
def literal (s : String) : String :=
  let quote := literalQuote s.toList
  String.ofList (quote :: s.toList.flatMap (literalChar quote) ++ [quote])

/-- One byte of the literal form between the given quotation marks. -/
def literalByte (quote : Char) (byte : UInt8) : List Char :=
  let c := Char.ofNat byte.toNat
  if byte.toNat < 127 then literalChar quote c
  else backslash :: 'x' :: hexPadded 2 byte.toNat

/-- The literal form of a byte string. -/
def literalBytes (data : List UInt8) : String :=
  let quote := literalQuote (data.map fun byte => Char.ofNat byte.toNat)
  String.ofList ('b' :: quote :: data.flatMap (literalByte quote) ++ [quote])

end Treewalk.Text
