import Treewalk.Raw

/-!
Reading JSON text. Beside what JSON has, the words for infinities and the not-a-number are read. A key
that is written twice keeps its first place and its last value. Integers have any size; a number with a
fraction or an exponent is a double-precision number.
-/

set_option autoImplicit false
set_option relaxedAutoImplicit false

namespace Treewalk.Json

/-- The blanks of JSON. -/
def isBlank (c : Char) : Bool :=
  c.toNat == 32 || c.toNat == 9 || c.toNat == 10 || c.toNat == 13

/-- Passes over blanks. -/
def skipBlanks (cs : List Char) : List Char := cs.dropWhile isBlank

/-- The rest after a word, if the word stands at the front. -/
def after? (word cs : List Char) : Option (List Char) :=
  if word.isPrefixOf cs then some (cs.drop word.length) else none

/-! ### Strings -/

/-- The character of a simple escape. -/
def unescape? (c : Char) : Option Char :=
  if c = Text.doubleQuote || c = Text.backslash || c = '/' then some c
  else if c = 'b' then some (Char.ofNat 8)
  else if c = 'f' then some (Char.ofNat 12)
  else if c = 'n' then some (Char.ofNat 10)
  else if c = 'r' then some (Char.ofNat 13)
  else if c = 't' then some (Char.ofNat 9)
  else none

/-- The code of four hexadecimal digits. -/
def code? (a b c d : Char) : Option Nat :=
  if [a, b, c, d].all Text.isHexDigit then some (Text.ofHexDigits [a, b, c, d]) else none

/-- Whether a code is the first half of a pair. -/
def isHighHalf (code : Nat) : Bool := 55296 ≤ code && code < 56320

/-- Whether a code is the second half of a pair. -/
def isLowHalf (code : Nat) : Bool := 56320 ≤ code && code < 57344

/-- The character of a code; half of a pair alone stands for the replacement character. -/
def charOfCode (code : Nat) : Char :=
  if isHighHalf code || isLowHalf code then Char.ofNat 65533 else Char.ofNat code

/-- The character of a pair of halves. -/
def charOfPair (high low : Nat) : Char :=
  Char.ofNat (65536 + (high - 55296) * 1024 + (low - 56320))

/-- What a piece of a string is: its end, a character with the rest after it, or nothing valid. -/
inductive Piece where
  | finished (rest : List Char)
  | character (c : Char) (rest : List Char)
  | invalid

/-- The first piece of a string after its opening quotation mark. -/
def piece : List Char → Piece
  | [] => .invalid
  | c :: rest =>
    if c = Text.doubleQuote then .finished rest
    else if c = Text.backslash then
      match rest with
      | 'u' :: a :: b :: c :: d :: more =>
        match code? a b c d with
        | none => .invalid
        | some code =>
          if isHighHalf code then
            match more with
            | e :: 'u' :: a :: b :: c :: d :: last =>
              match code? a b c d with
              | some low =>
                if e = Text.backslash && isLowHalf low then .character (charOfPair code low) last
                else .character (charOfCode code) more
              | none => .character (charOfCode code) more
            | _ => .character (charOfCode code) more
          else .character (charOfCode code) more
      | e :: more =>
        match unescape? e with
        | some found => .character found more
        | none => .invalid
      | [] => .invalid
    else if c.toNat < 32 then .invalid
    else .character c rest

/-- Reads a string after its opening quotation mark. Each piece takes at least one character. -/
def stringBody : Nat → List Char → Option (List Char × List Char)
  | 0, _ => none
  | fuel + 1, cs =>
    match piece cs with
    | .finished rest => some ([], rest)
    | .character c rest => (stringBody fuel rest).map fun result => (c :: result.1, result.2)
    | .invalid => none

/-- Reads a string after its opening quotation mark. -/
def string? (cs : List Char) : Option (String × List Char) :=
  (stringBody (cs.length + 1) cs).map fun result => (String.ofList result.1, result.2)

/-! ### Numbers -/

/-- Splits off the digits at the front. -/
def spanDigits (cs : List Char) : List Char × List Char :=
  (cs.takeWhile Text.isAsciiDigit, cs.dropWhile Text.isAsciiDigit)

/-- Splits off a fraction: a point with at least one digit. -/
def fraction : List Char → Option (List Char) × List Char
  | '.' :: rest =>
    let (digits, more) := spanDigits rest
    if digits.isEmpty then (none, '.' :: rest) else (some digits, more)
  | cs => (none, cs)

/-- Splits off an exponent: a mark, perhaps a sign, at least one digit. -/
def exponent (cs : List Char) : Option Int × List Char :=
  match cs with
  | [] => (none, [])
  | mark :: rest =>
    if mark = 'e' || mark = 'E' then
      let (isNegative, body) :=
        match rest with
        | '-' :: more => (true, more)
        | '+' :: more => (false, more)
        | _ => (false, rest)
      let (digits, more) := spanDigits body
      if digits.isEmpty then (none, mark :: rest)
      else
        let power : Int := (Text.ofDigits 10 digits : Nat)
        (some (if isNegative then -power else power), more)
    else (none, mark :: rest)

/-- Splits off the whole part: a zero, or digits that do not begin with one. -/
def whole? (cs : List Char) : Option (List Char × List Char) :=
  match cs with
  | '0' :: rest => some (['0'], rest)
  | _ =>
    let (digits, rest) := spanDigits cs
    if digits.isEmpty then none else some (digits, rest)

/-- Reads a number without its sign. -/
def magnitude? (isNegative : Bool) (cs : List Char) : Option (Raw × List Char) :=
  (whole? cs).map fun (digits, afterWhole) =>
    let (fractionDigits, afterFraction) := fraction afterWhole
    let (power, rest) := exponent afterFraction
    match fractionDigits, power with
    | none, none =>
      let size : Int := (Text.ofDigits 10 digits : Nat)
      (.int (if isNegative then -size else size), rest)
    | _, _ =>
      let places := fractionDigits.getD []
      let size := Text.ofDigits 10 (digits ++ places)
      (.float (Decimal.value isNegative size (power.getD 0 - places.length)), rest)

/-- Reads a number. -/
def number? : List Char → Option (Raw × List Char)
  | '-' :: rest => magnitude? true rest
  | cs => magnitude? false cs

/-! ### Words -/

/-- The not-a-number of all documents in this format. -/
def notANumber : Binary64 := Binary64.labelledNaN 1

/-- The words and what they mean. -/
def words : List (String × Raw) :=
  [("null", .null), ("true", .bool true), ("false", .bool false), ("NaN", .float notANumber),
    ("Infinity", .float (Binary64.infinity false)),
    ("-Infinity", .float (Binary64.infinity true))]

/-- Reads a word. -/
def word? (cs : List Char) : Option (Raw × List Char) :=
  words.findSome? fun entry => (after? entry.1.toList cs).map fun rest => (entry.2, rest)

/-! ### Values -/

/-- Adds an entry; a key that is there keeps its place and takes the new value. -/
def insertEntry (key : String) (value : Raw) : List (Raw × Raw) → List (Raw × Raw)
  | [] => [(.text key, value)]
  | (.text own, old) :: rest =>
    if own = key then (.text own, value) :: rest else (.text own, old) :: insertEntry key value rest
  | entry :: rest => entry :: insertEntry key value rest

mutual

/-- Reads a value at the front; blanks before it have been passed over. -/
def value? : Nat → List Char → Option (Raw × List Char)
  | 0, _ => none
  | fuel + 1, cs =>
    match cs with
    | [] => none
    | c :: rest =>
      if c = Text.doubleQuote then (string? rest).map fun (s, more) => (.text s, more)
      else if c = '[' then
        match skipBlanks rest with
        | ']' :: more => some (.list [], more)
        | inside => (items? fuel inside).map fun (items, more) => (.list items, more)
      else if c = '\x7b' then
        match skipBlanks rest with
        | '\x7d' :: more => some (.map [], more)
        | inside => (entries? fuel [] inside).map fun (entries, more) => (.map entries, more)
      else
        match word? (c :: rest) with
        | some found => some found
        | none => number? (c :: rest)

/-- Reads the items of a list up to its closing bracket. -/
def items? : Nat → List Char → Option (List Raw × List Char)
  | 0, _ => none
  | fuel + 1, cs =>
    match value? fuel cs with
    | none => none
    | some (first, afterFirst) =>
      match skipBlanks afterFirst with
      | ',' :: rest =>
        (items? fuel (skipBlanks rest)).map fun (others, more) => (first :: others, more)
      | ']' :: rest => some ([first], rest)
      | _ => none

/-- Reads the entries of a map up to its closing brace. -/
def entries? : Nat → List (Raw × Raw) → List Char → Option (List (Raw × Raw) × List Char)
  | 0, _, _ => none
  | fuel + 1, entries, cs =>
    match cs with
    | [] => none
    | c :: afterMark =>
      if c = Text.doubleQuote then
        match string? afterMark with
        | none => none
        | some (key, afterKey) =>
          match skipBlanks afterKey with
          | ':' :: afterColon =>
            match value? fuel (skipBlanks afterColon) with
            | none => none
            | some (value, afterValue) =>
              let extended := insertEntry key value entries
              match skipBlanks afterValue with
              | ',' :: rest => entries? fuel extended (skipBlanks rest)
              | '\x7d' :: rest => some (extended, rest)
              | _ => none
          | _ => none
      else none

end

/-- Reads a whole JSON text. -/
def read? (s : String) : Option Raw :=
  let cs := s.toList
  match value? (cs.length + 1) (skipBlanks cs) with
  | some (raw, rest) => if (skipBlanks rest).isEmpty then some raw else none
  | none => none

end Treewalk.Json
