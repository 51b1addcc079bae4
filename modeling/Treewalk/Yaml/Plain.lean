import Treewalk.Spelling
import Treewalk.Text.Search

/-!
Plain scalars: what unquoted text stands for. `sense` decides by the form of the text alone whether it
is a truth value, a number, nothing at all, the mark of a merged map, or simply text; `value` is the raw
data that it stands for. The writer asks the same question to see whether text has to be quoted.
-/

set_option autoImplicit false
set_option relaxedAutoImplicit false

namespace Treewalk.Yaml

/-- What a plain scalar may stand for. -/
inductive Sense where
  | bool
  | float
  | integer
  | merge
  | null
  | timestamp
  | default
  | text
deriving DecidableEq, Repr, Inhabited

namespace Plain

/-- The words for truth values, each in lower case, capitalised, and in upper case. -/
def boolWords : List (String × Bool) :=
  [("yes", true), ("Yes", true), ("YES", true), ("no", false), ("No", false), ("NO", false),
    ("true", true), ("True", true), ("TRUE", true), ("false", false), ("False", false),
    ("FALSE", false), ("on", true), ("On", true), ("ON", true), ("off", false), ("Off", false),
    ("OFF", false)]

/-- The words for nothing at all. -/
def nullWords : List String := ["", "~", "null", "Null", "NULL"]

/-- The words for infinity, which a sign may stand before. -/
def infinityWords : List String := [".inf", ".Inf", ".INF"]

/-- The words for the not-a-number. -/
def nanWords : List String := [".nan", ".NaN", ".NAN"]

/-- The not-a-number of all documents in this format. -/
def notANumber : Binary64 := Binary64.labelledNaN 2

/-! ### Forms of numbers -/

/-- The text without its sign. -/
def unsigned (cs : List Char) : List Char := (Numeral.sign cs).2

/-- Whether a character may stand in a group of digits. -/
def isGrouped (isDigit : Char → Bool) (c : Char) : Bool := c == '_' || isDigit c

/-- Whether a character is a binary digit. -/
def isBinaryDigit (c : Char) : Bool := c == '0' || c == '1'

/-- Whether a character is an octal digit. -/
def isOctalDigit (c : Char) : Bool := 48 ≤ c.toNat && c.toNat ≤ 55

/-- Whether a text is a group of digits, which has at least one character. -/
def isGroup (isDigit : Char → Bool) (cs : List Char) : Bool :=
  !cs.isEmpty && cs.all (isGrouped isDigit)

/-- Whether a text is a group of decimal digits that begins with a digit. -/
def isDecimalGroup : List Char → Bool
  | [] => false
  | c :: rest => Text.isAsciiDigit c && rest.all (isGrouped Text.isAsciiDigit)

/-- Whether a text is a number of minutes or seconds: up to two digits, below sixty. -/
def isSixtieth : List Char → Bool
  | [a] => Text.isAsciiDigit a
  | [a, b] => 48 ≤ a.toNat && a.toNat ≤ 53 && Text.isAsciiDigit b
  | _ => false

/-- The parts of a text between colons. -/
def colonParts (cs : List Char) : List (List Char) := Text.split [':'] cs.length cs

/-- Whether unsigned text has the form of an integer: binary, hexadecimal, octal with a leading zero,
decimal, or decimal with further parts to the base sixty. -/
def isIntegerForm : List Char → Bool
  | '0' :: 'b' :: digits => isGroup isBinaryDigit digits
  | '0' :: 'x' :: digits => isGroup Text.isHexDigit digits
  | '0' :: digits => digits.all (isGrouped isOctalDigit)
  | cs =>
    match colonParts cs with
    | first :: rest => isDecimalGroup first && rest.all isSixtieth
    | [] => false

/-- Whether text ends a decimal number: it is empty or an exponent, which needs a sign. -/
def isExponentEnd : List Char → Bool
  | [] => true
  | mark :: sign :: digits =>
    Numeral.isExponentMark mark && (sign == '+' || sign == '-') && !digits.isEmpty &&
      digits.all Text.isAsciiDigit
  | _ => false

/-- Whether unsigned text is a decimal number with digits before its point. -/
def isPointed (cs : List Char) : Bool :=
  let whole := cs.takeWhile (isGrouped Text.isAsciiDigit)
  isDecimalGroup whole &&
    match cs.drop whole.length with
    | '.' :: rest => isExponentEnd (rest.dropWhile (isGrouped Text.isAsciiDigit))
    | _ => false

/-- Whether text is a decimal number that begins with its point; it has no sign. -/
def isLeadingPoint : List Char → Bool
  | '.' :: c :: rest =>
    Text.isAsciiDigit c && isExponentEnd (rest.dropWhile (isGrouped Text.isAsciiDigit))
  | _ => false

/-- Whether text is the last part of a number to the base sixty with a point. -/
def isPointedSixtieth (cs : List Char) : Bool :=
  isSixtieth (cs.takeWhile (· != '.')) &&
    match cs.dropWhile (· != '.') with
    | '.' :: fraction => fraction.all (isGrouped Text.isAsciiDigit)
    | _ => false

/-- Whether unsigned text is a number to the base sixty with a point. -/
def isSexagesimalPointed (cs : List Char) : Bool :=
  match colonParts cs with
  | first :: second :: rest =>
    let parts := second :: rest
    isDecimalGroup first && parts.dropLast.all isSixtieth &&
      isPointedSixtieth (parts.getLast?.getD [])
  | _ => false

/-- Whether text has the form of a floating-point number, which contains a point. -/
def isFloatForm (cs : List Char) : Bool :=
  let body := unsigned cs
  isPointed body || isLeadingPoint cs || isSexagesimalPointed body ||
    infinityWords.contains (String.ofList body) || nanWords.contains (String.ofList cs)

/-! ### Forms of timestamps -/

/-- The rest after as many digits as there are, at least and at most so many. -/
def afterDigits? (least most : Nat) (cs : List Char) : Option (List Char) :=
  let count := min most (cs.takeWhile Text.isAsciiDigit).length
  if count < least then none else some (cs.drop count)

/-- The rest after a character. -/
def afterChar? (mark : Char) : List Char → Option (List Char)
  | c :: rest => if c = mark then some rest else none
  | [] => none

/-- Whether a character may stand between a date and a time: a space or a tab. -/
def isGap (c : Char) : Bool := c.toNat == 32 || c.toNat == 9

/-- Whether text is a date: four digits, two, and two. -/
def isDate (cs : List Char) : Bool :=
  let rest? := do
    let month ← afterChar? '-' (← afterDigits? 4 4 cs)
    let day ← afterChar? '-' (← afterDigits? 2 2 month)
    afterDigits? 2 2 day
  rest? == some []

/-- Whether text is the offset at the end of a timestamp. -/
def isOffset (cs : List Char) : Bool :=
  match cs with
  | [] => true
  | _ =>
    match cs.dropWhile isGap with
    | ['Z'] => true
    | sign :: rest =>
      (sign == '+' || sign == '-') &&
        match afterDigits? 1 2 rest with
        | some [] => true
        | some (':' :: minutes) => afterDigits? 2 2 minutes == some []
        | _ => false
    | [] => false

/-- The rest after what separates a date from a time. -/
def afterSeparator? : List Char → Option (List Char)
  | [] => none
  | c :: rest =>
    if c = 'T' || c = 't' then some rest
    else if isGap c then some (rest.dropWhile isGap)
    else none

/-- Whether text is a date with a time of day. -/
def isMoment (cs : List Char) : Bool :=
  let rest? := do
    let month ← afterChar? '-' (← afterDigits? 4 4 cs)
    let day ← afterChar? '-' (← afterDigits? 1 2 month)
    let hour ← afterSeparator? (← afterDigits? 1 2 day)
    let minute ← afterChar? ':' (← afterDigits? 1 2 hour)
    let second ← afterChar? ':' (← afterDigits? 2 2 minute)
    afterDigits? 2 2 second
  match rest? with
  | some ('.' :: fraction) => isOffset (fraction.dropWhile Text.isAsciiDigit)
  | some rest => isOffset rest
  | none => false

/-! ### Senses and values -/

/-- What plain text stands for. -/
def sense (cs : List Char) : Sense :=
  let word := String.ofList cs
  if (boolWords.lookup word).isSome then .bool
  else if isFloatForm cs then .float
  else if isIntegerForm (unsigned cs) then .integer
  else if word = "<<" then .merge
  else if nullWords.contains word then .null
  else if isDate cs || isMoment cs then .timestamp
  else if word = "=" then .default
  else .text

/-- The natural number of unsigned text in the form of an integer without underscores. Decimal parts may
not have too many digits. -/
def natural? : List Char → Option Nat
  | ['0'] => some 0
  | '0' :: 'b' :: digits => if digits.isEmpty then none else some (Text.ofDigits 2 digits)
  | '0' :: 'x' :: digits => if digits.isEmpty then none else some (Text.ofHexDigits digits)
  | '0' :: digits => some (Text.ofDigits 8 digits)
  | cs =>
    let parts := colonParts cs
    if parts.all fun part => decide (part.length ≤ Numeral.digitLimit) then
      some (parts.foldl (fun total part => total * 60 + Text.ofDigits 10 part) 0)
    else none

/-- The integer of text in the form of one; digit groups of underscores alone have no value. -/
def integer? (cs : List Char) : Option Int :=
  let (isNegative, body) := Numeral.sign (cs.filter (· != '_'))
  (natural? body).map fun size => if isNegative then -(size : Int) else (size : Int)

/-- The sum of the parts of a number to the base sixty, the last part first. -/
def sumSixtieths (unit : Binary64) (total : Binary64) : List (List Char) → Binary64
  | [] => total
  | part :: rest =>
    let digit := (Numeral.decimal? false part).getD (Binary64.zero false)
    sumSixtieths (unit.mul (Binary64.ofInt 60)) (total.add (digit.mul unit)) rest

/-- The number of text in the form of a floating-point number. -/
def float? (cs : List Char) : Option Binary64 :=
  let (isNegative, body) := Numeral.sign (cs.filter (· != '_'))
  let word := String.ofList (body.map Numeral.lowerAscii)
  if word = ".inf" then some (Binary64.infinity isNegative)
  else if word = ".nan" then some notANumber
  else if body.contains ':' then
    let size := sumSixtieths (Binary64.ofInt 1) (Binary64.zero false) (colonParts body).reverse
    some (if isNegative then size.neg else size)
  else Numeral.decimal? isNegative body

/-- The raw data that plain text stands for. Marks that only mean something as keys are refused; a
timestamp is kept as text. -/
def value (cs : List Char) : Except Cause Raw :=
  match sense cs with
  | .bool => .ok (.bool ((boolWords.lookup (String.ofList cs)).getD false))
  | .float =>
    match float? cs with
    | some x => .ok (.float x)
    | none => .error (.plain .value)
  | .integer =>
    match integer? cs with
    | some i => .ok (.int i)
    | none => .error (.plain .value)
  | .null => .ok .null
  | .merge => .error (.plain .document)
  | .default => .error (.plain .document)
  | .timestamp => .ok (.text (String.ofList cs))
  | .text => .ok (.text (String.ofList cs))

end Plain

end Treewalk.Yaml
