import Treewalk.Yaml.Style

/-!
Writing raw data as a document. Collections are written in flow style, or, laid out, in block style
wherever they hold other collections. Lines are broken after column eighty where the format allows it.
A page keeps the text written so far together with what decides about blanks and line breaks.
-/

set_option autoImplicit false
set_option relaxedAutoImplicit false

namespace Treewalk.Yaml

/-- The column after which lines are broken. -/
def lineWidth : Nat := 80

/-! ### Pages -/

/-- Text written so far, last character first. The flags say whether it ends with a blank, whether its
last line has nothing but indentation and marks of block items, and whether it ends with plain text
that the end of the document has to be marked after. -/
structure Page where
  text : List Char := []
  column : Nat := 0
  endsBlank : Bool := true
  isIndented : Bool := true
  isOpen : Bool := false
deriving Inhabited

namespace Page

/-- Adds text to the line. -/
def put (cs : List Char) (page : Page) : Page :=
  { page with text := cs.reverse ++ page.text, column := page.column + cs.length }

/-- Ends the line. -/
def lineBreak (page : Page) : Page :=
  { page with
    text := Text.lineFeed :: page.text
    column := 0
    endsBlank := true
    isIndented := true }

/-- Goes to an indentation, on a new line unless the line has nothing but indentation yet. -/
def breakTo (indent : Option Nat) (page : Page) : Page :=
  let target := indent.getD 0
  let fresh :=
    if !page.isIndented || target < page.column || (page.column == target && !page.endsBlank) then
      page.lineBreak
    else page
  if fresh.column < target then
    { fresh.put (List.replicate (target - fresh.column) ' ') with endsBlank := true }
  else fresh

/-- Goes to an indentation if the line is too long. -/
def breakIfLong (indent : Option Nat) (page : Page) : Page :=
  if lineWidth < page.column then page.breakTo indent else page

/-- Adds an indicator, after a blank if it needs one. -/
def mark (c : Char) (needsBlank : Bool) (endsBlank isIndented : Bool) (page : Page) : Page :=
  { page.put (if page.endsBlank || !needsBlank then [c] else [' ', c]) with
    endsBlank := endsBlank
    isIndented := page.isIndented && isIndented
    isOpen := false }

/-- Says that the line ends with text. -/
def inText (page : Page) : Page := { page with endsBlank := false, isIndented := false }

/-! ### Scalars -/

/-- Adds the runs of spaces and of other characters of plain text. -/
def plainRuns (mayBreak : Bool) (indent : Option Nat) : List (List Char) → Page → Page
  | [], page => page
  | run :: rest, page =>
    let next :=
      if run == [' '] && mayBreak && lineWidth < page.column then (page.breakTo indent).inText
      else page.put run
    plainRuns mayBreak indent rest next

/-- Cuts a text into runs of spaces, of line ends, and of other characters. -/
def runs (cs : List Char) : List (List Char) :=
  cs.splitBy fun a b => a == ' ' && b == ' ' || Style.isLineEnd a && Style.isLineEnd b ||
    !Style.isEdge a && !Style.isEdge b

/-- Adds plain text. -/
def plain (mayBreak : Bool) (indent : Option Nat) (cs : List Char) (page : Page) : Page :=
  let start := if page.endsBlank then page else page.put [' ']
  plainRuns mayBreak indent (runs cs) start.inText

/-- A character between single quotation marks. -/
def singleChar (c : Char) : List Char := if c = Text.singleQuote then [c, c] else [c]

/-- Adds the runs of single-quoted text. A line is broken at a single space between other characters;
line ends are doubled at their first. -/
def singleRuns (mayBreak : Bool) (indent : Option Nat) : Bool → List (List Char) → Page → Page
  | _, [], page => page
  | isFirst, run :: rest, page =>
    let next :=
      if run == [' '] && mayBreak && lineWidth < page.column && !isFirst && !rest.isEmpty then
        page.breakTo indent
      else if run.any Style.isLineEnd then
        ((run.foldl (fun sheet _ => sheet.lineBreak) page.lineBreak)).breakTo indent
      else page.put (run.flatMap singleChar)
    singleRuns mayBreak indent false rest next

/-- Adds single-quoted text. -/
def single (mayBreak : Bool) (indent : Option Nat) (cs : List Char) (page : Page) : Page :=
  (singleRuns mayBreak indent true (runs cs)
    (page.mark Text.singleQuote true false false)).mark Text.singleQuote false false false

/-- The letters of simple escapes. -/
def escapeLetters : List (Nat × Char) :=
  [(0, '0'), (7, 'a'), (8, 'b'), (9, 't'), (10, 'n'), (11, 'v'), (12, 'f'), (13, 'r'), (27, 'e'),
    (34, Text.doubleQuote), (92, Text.backslash), (0x85, 'N'), (0xA0, '_'), (0x2028, 'L'),
    (0x2029, 'P')]

/-- A code in hexadecimal digits of upper case. -/
def hexUpper (width code : Nat) : List Char := (Text.hexPadded width code).map Char.toUpper

/-- A character as an escape. -/
def escape (c : Char) : List Char :=
  let code := c.toNat
  Text.backslash ::
    match escapeLetters.lookup code with
    | some letter => [letter]
    | none =>
      if code ≤ 0xFF then 'x' :: hexUpper 2 code
      else if code ≤ 0xFFFF then 'u' :: hexUpper 4 code
      else 'U' :: hexUpper 8 code

/-- Whether a character is escaped between double quotation marks. -/
def isEscaped (c : Char) : Bool :=
  c == Text.doubleQuote || c == Text.backslash || c == Text.lineFeed || !Style.isOrdinary c

/-- Adds double-quoted text. The characters since the last escape are pending, last first. A line is
broken after a backslash, before a space or next to an escape; a space at the start of a line is
escaped. -/
def doubleFrom (mayBreak : Bool) (indent : Option Nat) :
    Bool → List Char → List Char → Page → Page
  | _, pending, [], page => page.put pending.reverse
  | isFirst, pending, c :: rest, page =>
    let escaped := isEscaped c
    let ready := if escaped then (page.put pending.reverse).put (escape c) else page
    let waiting := if escaped then [] else pending
    let reach := if escaped then ready.column - 1 else ready.column + waiting.length
    if mayBreak && !isFirst && !rest.isEmpty && (c == ' ' || escaped || waiting.isEmpty) &&
        lineWidth < reach then
      let broken :=
        ((ready.put (waiting.reverse ++ [Text.backslash])).breakTo indent).inText
      let following := if escaped then rest.head? else some c
      let resumed := if following == some ' ' then broken.put [Text.backslash] else broken
      doubleFrom mayBreak indent false (if escaped then [] else [c]) rest resumed
    else doubleFrom mayBreak indent false (if escaped then [] else c :: waiting) rest ready

/-- Adds double-quoted text. -/
def double (mayBreak : Bool) (indent : Option Nat) (cs : List Char) (page : Page) : Page :=
  (doubleFrom mayBreak indent true [] cs
    (page.mark Text.doubleQuote true false false)).mark Text.doubleQuote false false false

end Page

/-! ### Raw data -/

/-- Numbers are written with a point and with the words of the format for the special ones. -/
def numberText (x : Binary64) : String :=
  if x.isNaN then ".nan"
  else if x.isInfinite then (if x.negative then "-.inf" else ".inf")
  else
    let cs := x.plain.toList
    if cs.contains '.' then x.plain
    else String.ofList (Text.replace ['e'] ['.', '0', 'e'] 1 cs)

/-- A scalar as text, with what it is meant to be; collections are none. -/
def scalarText? : Raw → Option (Sense × String)
  | .null => some (.null, "null")
  | .bool b => some (.bool, if b then "true" else "false")
  | .int i => some (.integer, integerText i)
  | .float x => some (.float, numberText x)
  | .text s => some (.text, s)
  | .built tree => some (.text, tree.plain)
  | .list _ => none
  | .map _ => none

/-- Whether raw data is a scalar. -/
def isScalar (raw : Raw) : Bool := (scalarText? raw).isSome

/-- How many characters the name of a sense takes, which counts for the length of a key. -/
def senseLength : Sense → Nat
  | .null => 6
  | .bool => 6
  | .float => 7
  | _ => 5

/-- Whether raw data is short enough to be a key on the line of its value. -/
def isSimpleKey : Raw → Bool
  | .list items => items.isEmpty
  | .map entries => entries.isEmpty
  | raw =>
    match scalarText? raw with
    | some (sense, s) =>
      senseLength sense + s.length < 128 && !s.isEmpty && !Style.isMultiline s.toList
    | none => false

/-- Where raw data stands. -/
inductive Position where
  | root
  | item
  | entry
  | key
deriving DecidableEq, Repr, Inhabited

/-- The indentation inside of a flow collection or a scalar. -/
def flowIndent (indent : Option Nat) : Option Nat := some ((indent.getD 0) + 2)

/-- The indentation inside of a block collection. -/
def blockIndent : Option Nat → Option Nat
  | none => some 0
  | some columns => some (columns + 2)

/-- The indentation of the items of a block sequence; below a key they are not indented. -/
def itemIndent (position : Position) (indent : Option Nat) (page : Page) : Option Nat :=
  if (position == .entry || position == .key) && !page.isIndented then some (indent.getD 0)
  else blockIndent indent

/-- Adds a scalar. -/
def writeScalar (indent : Option Nat) (inFlow : Bool) (position : Position) (sense : Sense)
    (s : String) (page : Page) : Page :=
  let cs := s.toList
  let isKey := position == .key
  match Style.choose inFlow isKey sense cs with
  | .plain =>
    let written := page.plain (!isKey) (flowIndent indent) cs
    { written with isOpen := position == .root }
  | .single => page.single (!isKey) (flowIndent indent) cs
  | .double => page.double (!isKey) (flowIndent indent) cs

mutual

/-- Adds raw data. Without layout everything is in flow style; laid out, a collection is so only if
it holds nothing but scalars. -/
def writeNode (isLaidOut : Bool) (indent : Option Nat) (inFlow : Bool) (position : Position) :
    Raw → Page → Page
  | .list items, page =>
    if inFlow || !isLaidOut || items.all isScalar then
      (flowItems isLaidOut (flowIndent indent) true items
        (page.mark '[' true true false)).mark ']' false false false
    else blockItems isLaidOut (itemIndent position indent page) items page
  | .map entries, page =>
    if inFlow || !isLaidOut || entries.all fun entry => isScalar entry.1 && isScalar entry.2 then
      (flowEntries isLaidOut (flowIndent indent) true entries
        (page.mark '\x7b' true true false)).mark '\x7d' false false false
    else blockEntries isLaidOut (blockIndent indent) entries page
  | .null, page => writeScalar indent inFlow position .null "null" page
  | .bool b, page => writeScalar indent inFlow position .bool (if b then "true" else "false") page
  | .int i, page => writeScalar indent inFlow position .integer (integerText i) page
  | .float x, page => writeScalar indent inFlow position .float (numberText x) page
  | .text s, page => writeScalar indent inFlow position .text s page
  | .built tree, page => writeScalar indent inFlow position .text tree.plain page

/-- Adds the items of a flow sequence. -/
def flowItems (isLaidOut : Bool) (indent : Option Nat) : Bool → List Raw → Page → Page
  | _, [], page => page
  | isFirst, item :: rest, page =>
    let separated := if isFirst then page else page.mark ',' false false false
    flowItems isLaidOut indent false rest
      (writeNode isLaidOut indent true .item item (separated.breakIfLong indent))

/-- Adds the entries of a flow mapping. -/
def flowEntries (isLaidOut : Bool) (indent : Option Nat) : Bool → List (Raw × Raw) → Page → Page
  | _, [], page => page
  | isFirst, (key, value) :: rest, page =>
    let separated := if isFirst then page else page.mark ',' false false false
    let ready := separated.breakIfLong indent
    let keyed :=
      if isSimpleKey key then
        (writeNode isLaidOut indent true .key key ready).mark ':' false false false
      else
        ((writeNode isLaidOut indent true .entry key
          (ready.mark '?' true false false)).breakIfLong indent).mark ':' true false false
    flowEntries isLaidOut indent false rest (writeNode isLaidOut indent true .entry value keyed)

/-- Adds the items of a block sequence. -/
def blockItems (isLaidOut : Bool) (indent : Option Nat) : List Raw → Page → Page
  | [], page => page
  | item :: rest, page =>
    blockItems isLaidOut indent rest
      (writeNode isLaidOut indent false .item item
        ((page.breakTo indent).mark '-' true false true))

/-- Adds the entries of a block mapping. -/
def blockEntries (isLaidOut : Bool) (indent : Option Nat) : List (Raw × Raw) → Page → Page
  | [], page => page
  | (key, value) :: rest, page =>
    let fresh := page.breakTo indent
    let keyed :=
      if isSimpleKey key then
        (writeNode isLaidOut indent false .key key fresh).mark ':' false false false
      else
        ((writeNode isLaidOut indent false .entry key
          (fresh.mark '?' true false true)).breakTo indent).mark ':' true false true
    blockEntries isLaidOut indent rest (writeNode isLaidOut indent false .entry value keyed)

end

/-- Raw data as a document, without blanks around it. A document of plain text alone ends with a mark
of its end. -/
def write (isLaidOut : Bool) (raw : Raw) : String :=
  let page := writeNode isLaidOut none false .root raw {}
  let ending := if page.isOpen then Text.lineFeed :: ['.', '.', '.'] else []
  String.ofList (Text.trim (page.text.reverse ++ ending))

end Treewalk.Yaml
