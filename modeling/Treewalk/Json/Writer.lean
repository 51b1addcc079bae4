import Treewalk.Raw

/-!
Writing raw data as JSON text: compact, with a space after commas and colons, or laid out with each
item on its own line, two spaces deeper than what it stands in. Characters beyond ASCII are written as
they are. The numbers that JSON itself does not have are written as words.
-/

set_option autoImplicit false
set_option relaxedAutoImplicit false

namespace Treewalk.Json

/-- Numbers are written as everywhere, only the words for the special ones differ. -/
def numberLayout : Decimal.Layout :=
  { plainLayout with
    positiveInfinity := "Infinity"
    negativeInfinity := "-Infinity"
    notANumber := "NaN" }

/-- One character of a JSON string. -/
def escapeChar (c : Char) : List Char :=
  if c = Text.doubleQuote then [Text.backslash, c]
  else if c = Text.backslash then [Text.backslash, c]
  else if c = Text.lineFeed then [Text.backslash, 'n']
  else if c.toNat = 13 then [Text.backslash, 'r']
  else if c.toNat = 9 then [Text.backslash, 't']
  else if c.toNat = 12 then [Text.backslash, 'f']
  else if c.toNat = 8 then [Text.backslash, 'b']
  else if c.toNat < 32 then Text.backslash :: 'u' :: Text.hexPadded 4 c.toNat
  else [c]

/-- A text as a JSON string. -/
def quote (s : String) : List Char :=
  Text.doubleQuote :: s.toList.flatMap escapeChar ++ [Text.doubleQuote]

/-- A line break and the indentation of a depth. -/
def lineBreak (depth : Nat) : List Char := Text.lineFeed :: List.replicate (2 * depth) ' '

/-- What stands before the first item of something at a depth. -/
def opening (pretty : Bool) (depth : Nat) : List Char :=
  if pretty then lineBreak (depth + 1) else []

/-- What stands between two items of something at a depth. -/
def separator (pretty : Bool) (depth : Nat) : List Char :=
  if pretty then ',' :: lineBreak (depth + 1) else [',', ' ']

/-- What stands after the last item of something at a depth. -/
def closing (pretty : Bool) (depth : Nat) : List Char := if pretty then lineBreak depth else []

/-- The text of a key; only scalars are keys. -/
def keyText : Raw → String
  | .null => "null"
  | .bool b => if b then "true" else "false"
  | .int i => integerText i
  | .float x => x.text numberLayout
  | .text s => s
  | other => other.literal

mutual

/-- Raw data at a depth as JSON text. -/
def writeAt (pretty : Bool) (depth : Nat) : Raw → List Char
  | .null => "null".toList
  | .bool b => if b then "true".toList else "false".toList
  | .int i => (integerText i).toList
  | .float x => (x.text numberLayout).toList
  | .text s => quote s
  | .built tree => quote tree.plain
  | .list items =>
    match items with
    | [] => ['[', ']']
    | first :: rest =>
      '[' :: opening pretty depth ++ writeAt pretty (depth + 1) first ++
        writeItems pretty depth rest ++ closing pretty depth ++ [']']
  | .map entries =>
    match entries with
    | [] => ['\x7b', '\x7d']
    | (key, value) :: rest =>
      '\x7b' :: opening pretty depth ++ quote (keyText key) ++ ':' :: ' ' ::
        writeAt pretty (depth + 1) value ++ writeEntries pretty depth rest ++
        closing pretty depth ++ ['\x7d']

/-- The items after the first, each after a separator. -/
def writeItems (pretty : Bool) (depth : Nat) : List Raw → List Char
  | [] => []
  | item :: rest =>
    separator pretty depth ++ writeAt pretty (depth + 1) item ++ writeItems pretty depth rest

/-- The entries after the first, each after a separator. -/
def writeEntries (pretty : Bool) (depth : Nat) : List (Raw × Raw) → List Char
  | [] => []
  | (key, value) :: rest =>
    separator pretty depth ++ quote (keyText key) ++ ':' :: ' ' ::
      writeAt pretty (depth + 1) value ++ writeEntries pretty depth rest

end

/-- Raw data as JSON text. -/
def write (pretty : Bool) (raw : Raw) : String := String.ofList (writeAt pretty 0 raw)

end Treewalk.Json
