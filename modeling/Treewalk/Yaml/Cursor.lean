import Treewalk.Text.Digit
import Treewalk.Text.Quoted

/-!
A cursor over document text: what remains to be read, with the line and the column it stands at. On
top of it stand the readers of scalars: plain text, quoted text, and block text, each of which gives the
characters of the scalar and the cursor after it. Lines of plain and quoted text are folded: a single
line break becomes a space, and of several the first is dropped.
-/

set_option autoImplicit false
set_option relaxedAutoImplicit false

namespace Treewalk.Yaml

/-! ### Characters -/

/-- Whether a character ends a line. -/
def isBreak (c : Char) : Bool :=
  c.toNat == 10 || c.toNat == 13 || c.toNat == 0x85 || c.toNat == 0x2028 || c.toNat == 0x2029

/-- Whether a character is a space. -/
def isSpace (c : Char) : Bool := c.toNat == 32

/-- Whether a character is a space or a tab. -/
def isSpaceOrTab (c : Char) : Bool := isSpace c || c.toNat == 9

/-- Whether a character separates words: a space, a tab, or the end of a line. -/
def isSeparating (c : Char) : Bool := isSpaceOrTab c || isBreak c

/-- Whether a character, or the end of the text, separates words. -/
def separates : Option Char → Bool
  | none => true
  | some c => isSeparating c

/-- Whether a character, or the end of the text, is a space or the end of a line. -/
def endsWord : Option Char → Bool
  | none => true
  | some c => isSpace c || isBreak c

/-- Whether a character, or the end of the text, ends a line. -/
def endsLine : Option Char → Bool
  | none => true
  | some c => isBreak c

/-- The byte order mark, which takes no column. -/
def byteOrderMark : Char := Char.ofNat 0xFEFF

/-- Whether a character may stand in a document at all. -/
def isDocumentChar (c : Char) : Bool :=
  let code := c.toNat
  code == 9 || code == 10 || code == 13 || (32 ≤ code && code ≤ 126) || code == 0x85 ||
    (0xA0 ≤ code && code ≤ 0xFFFD) || 0x10000 ≤ code

/-! ### Moving -/

/-- A place in document text. -/
structure Cursor where
  rest : List Char
  index : Nat := 0
  line : Nat := 0
  column : Nat := 0
deriving Repr, Inhabited

namespace Cursor

/-- The character at the cursor. -/
def peek? (cursor : Cursor) : Option Char := cursor.rest.head?

/-- Whether a character stands at the cursor. -/
def isAt (cursor : Cursor) (c : Char) : Bool := cursor.peek? == some c

/-- Passes over one character. A carriage return before a line feed does not end the line yet. -/
def next (cursor : Cursor) : Cursor :=
  match cursor.rest with
  | [] => cursor
  | c :: rest =>
    if isBreak c && !(c.toNat == 13 && (rest.head?.map Char.toNat) == some 10) then
      { rest := rest, index := cursor.index + 1, line := cursor.line + 1, column := 0 }
    else
      { rest := rest
        index := cursor.index + 1
        line := cursor.line
        column := if c = byteOrderMark then cursor.column else cursor.column + 1 }

/-- Passes over several characters. -/
def skip : Nat → Cursor → Cursor
  | 0, cursor => cursor
  | count + 1, cursor => skip count cursor.next

/-- Passes over the characters of a class. -/
def skipWhile (test : Char → Bool) (cursor : Cursor) : Cursor :=
  cursor.skip (cursor.rest.takeWhile test).length

/-- Reads the end of a line, as a line feed unless it is one of the two wide separators. -/
def lineBreak? (cursor : Cursor) : Option (Char × Cursor) :=
  match cursor.rest with
  | [] => none
  | c :: rest =>
    if c.toNat == 13 && (rest.head?.map Char.toNat) == some 10 then
      some (Text.lineFeed, cursor.skip 2)
    else if c.toNat == 0x2028 || c.toNat == 0x2029 then some (c, cursor.next)
    else if isBreak c then some (Text.lineFeed, cursor.next)
    else none

/-- Whether the mark of the start or the end of a document stands here, as a word of its own. -/
def atMark (mark : Char) (cursor : Cursor) : Bool :=
  [mark, mark, mark].isPrefixOf cursor.rest && separates (cursor.rest.drop 3).head?

/-- Whether a document starts or ends here; the cursor is at the start of a line. -/
def atSeparator (cursor : Cursor) : Bool := cursor.atMark '-' || cursor.atMark '.'

end Cursor

/-- A line break before further ones when lines are folded: a single line feed counts as a space, and
of several the first is dropped. -/
def folded (first : Char) (others : List Char) : List Char :=
  if first ≠ Text.lineFeed then first :: others
  else if others.isEmpty then [' ']
  else others

/-! ### Plain text -/

namespace PlainText

/-- Whether a colon before the given character ends a plain scalar. -/
def colonEnds (inFlow : Bool) (following : Option Char) : Bool :=
  separates following ||
    (inFlow && (following.map fun c => [',', '[', ']', '\x7b', '\x7d'].contains c).getD false)

/-- Whether a character ends a plain scalar inside of a flow collection. -/
def endsInFlow (c : Char) : Bool := [',', '?', '[', ']', '\x7b', '\x7d'].contains c

/-- The characters up to a blank or an indicator. -/
def run (inFlow : Bool) : List Char → List Char
  | [] => []
  | c :: rest =>
    if isSeparating c || (c = ':' && colonEnds inFlow rest.head?) || (inFlow && endsInFlow c) then []
    else c :: run inFlow rest

/-- The line breaks of empty lines up to the next text; nothing if a document starts or ends there. -/
def breaks : Nat → Cursor → Option (List Char) × Cursor
  | 0, cursor => (some [], cursor)
  | fuel + 1, cursor =>
    let here := cursor.skipWhile isSpace
    match here.lineBreak? with
    | none => (some [], here)
    | some (mark, next) =>
      if next.atSeparator then (none, next)
      else
        let (more, last) := breaks fuel next
        (more.map (mark :: ·), last)

/-- What stands between two words of plain text: the text that joins them, which is empty if the
scalar ends, and whether a line ended. -/
structure Gap where
  text : List Char
  crossed : Bool
  cursor : Cursor

/-- Reads the gap after a word. -/
def gap (cursor : Cursor) : Gap :=
  let spaces := cursor.rest.takeWhile isSpace
  let here := cursor.skip spaces.length
  match here.lineBreak? with
  | none => ⟨spaces, false, here⟩
  | some (mark, next) =>
    if next.atSeparator then ⟨[], true, next⟩
    else
      match breaks (next.rest.length + 1) next with
      | (some others, last) => ⟨folded mark others, true, last⟩
      | (none, last) => ⟨[], true, last⟩

/-- Reads plain text word by word. What joins the next word to those before it is given, and whether a
line ended there. -/
def scanFrom (inFlow : Bool) (margin : Nat) :
    Nat → List Char → Bool → Cursor → List Char × Bool × Cursor
  | 0, _, crossed, cursor => ([], crossed, cursor)
  | fuel + 1, joint, crossed, cursor =>
    let word := run inFlow cursor.rest
    if word.isEmpty then ([], crossed, cursor)
    else
      let found := gap (cursor.skip word.length)
      if found.text.isEmpty || found.cursor.isAt '#' ||
          (!inFlow && found.cursor.column < margin) then
        (joint ++ word, found.crossed, found.cursor)
      else
        let (more, last) := scanFrom inFlow margin fuel found.text found.crossed found.cursor
        (joint ++ word ++ more, last)

/-- Reads plain text. The flag of the result says whether a line ended after its last word. -/
def scan (inFlow : Bool) (margin : Nat) (cursor : Cursor) : List Char × Bool × Cursor :=
  scanFrom inFlow margin (cursor.rest.length + 1) [] false cursor

end PlainText

/-! ### Quoted text -/

namespace QuotedText

/-- The characters of simple escapes. -/
def escapes : List (Char × Nat) :=
  [('0', 0), ('a', 7), ('b', 8), ('t', 9), (Char.ofNat 9, 9), ('n', 10), ('v', 11), ('f', 12),
    ('r', 13), ('e', 27), (' ', 32), (Text.doubleQuote, 34), (Text.backslash, 92), ('/', 47),
    ('N', 0x85), ('_', 0xA0), ('L', 0x2028), ('P', 0x2029)]

/-- How many hexadecimal digits follow the mark of a numeric escape. -/
def digitCounts : List (Char × Nat) := [('x', 2), ('u', 4), ('U', 8)]

/-- The character of a code, if there is one; half of a surrogate pair is replaced. -/
def charOfCode? (code : Nat) : Option Char :=
  if 0x110000 ≤ code then none
  else if 0xD800 ≤ code && code < 0xE000 then some (Char.ofNat 0xFFFD)
  else some (Char.ofNat code)

/-- The line breaks of empty lines up to the next text; a document must not start or end there. -/
def breaks : Nat → Cursor → Option (List Char × Cursor)
  | 0, _ => none
  | fuel + 1, cursor =>
    if cursor.atSeparator then none
    else
      let here := cursor.skipWhile isSpaceOrTab
      match here.lineBreak? with
      | none => some ([], here)
      | some (mark, next) => (breaks fuel next).map fun (more, last) => (mark :: more, last)

/-- Reads what an escape stands for; the cursor is after the backslash. -/
def escape? (cursor : Cursor) : Option (List Char × Cursor) :=
  match cursor.lineBreak? with
  | some (_, next) => breaks (next.rest.length + 1) next
  | none => do
    let c ← cursor.peek?
    match escapes.lookup c with
    | some code => some ([Char.ofNat code], cursor.next)
    | none => do
      let count ← digitCounts.lookup c
      let digits := (cursor.rest.drop 1).take count
      if digits.length = count && digits.all Text.isHexDigit then
        some ([← charOfCode? (Text.ofHexDigits digits)], cursor.skip (count + 1))
      else none

/-- Reads blanks inside of quotation marks. -/
def blanks? (cursor : Cursor) : Option (List Char × Cursor) :=
  let spaces := cursor.rest.takeWhile isSpaceOrTab
  let here := cursor.skip spaces.length
  match here.lineBreak? with
  | none => some (spaces, here)
  | some (mark, next) =>
    (breaks (next.rest.length + 1) next).map fun (others, last) => (folded mark others, last)

/-- Reads text up to its closing quotation mark. Between double marks a backslash escapes; between
single marks a doubled mark stands for one. -/
def scanFrom (isDouble : Bool) : Nat → Cursor → Option (List Char × Cursor)
  | 0, _ => none
  | fuel + 1, cursor => do
    let c ← cursor.peek?
    let quote := if isDouble then Text.doubleQuote else Text.singleQuote
    if isSeparating c then
      let (text, next) ← blanks? cursor
      let (more, last) ← scanFrom isDouble fuel next
      some (text ++ more, last)
    else if c = quote then
      if !isDouble && cursor.next.isAt quote then
        let (more, last) ← scanFrom isDouble fuel (cursor.skip 2)
        some (quote :: more, last)
      else some ([], cursor.next)
    else if isDouble && c = Text.backslash then
      let (text, next) ← escape? cursor.next
      let (more, last) ← scanFrom isDouble fuel next
      some (text ++ more, last)
    else
      let (more, last) ← scanFrom isDouble fuel cursor.next
      some (c :: more, last)

/-- Reads quoted text; the cursor is at its opening quotation mark. -/
def scan? (isDouble : Bool) (cursor : Cursor) : Option (List Char × Cursor) :=
  scanFrom isDouble (cursor.rest.length + 1) cursor.next

end QuotedText

/-! ### Block text -/

namespace BlockText

/-- What happens to the line breaks at the end of a block scalar. -/
inductive Chomping where
  | clip
  | strip
  | keep
deriving DecidableEq, Repr, Inhabited

/-- Reads a chomping indicator. -/
def chomping? (cursor : Cursor) : Option (Chomping × Cursor) :=
  if cursor.isAt '+' then some (.keep, cursor.next)
  else if cursor.isAt '-' then some (.strip, cursor.next)
  else none

/-- Reads an indentation indicator, a digit; the result is nothing for a zero. -/
def increment? (cursor : Cursor) : Option (Option Nat × Cursor) :=
  match cursor.peek? with
  | some c =>
    if Text.isAsciiDigit c then
      if c = '0' then none else some (some (c.toNat - 48), cursor.next)
    else some (none, cursor)
  | none => some (none, cursor)

/-- Reads the indicators after the mark of a block scalar, which come in either order. -/
def indicators? (cursor : Cursor) : Option (Chomping × Option Nat × Cursor) := do
  let (chomping, increment, last) ←
    match chomping? cursor with
    | some (chomping, next) => do
      let (increment, last) ← increment? next
      some (chomping, increment, last)
    | none => do
      let (increment, next) ← increment? cursor
      match increment, chomping? next with
      | some _, some (chomping, last) => some (chomping, increment, last)
      | _, _ => some (Chomping.clip, increment, next)
  if endsWord last.peek? then some (chomping, increment, last) else none

/-- Passes over the rest of a line, which holds nothing but a comment. -/
def ignoreLine? (cursor : Cursor) : Option Cursor :=
  let here := cursor.skipWhile isSpace
  let last := if here.isAt '#' then here.skipWhile fun c => !isBreak c else here
  if endsLine last.peek? then
    some (((last.lineBreak?).map Prod.snd).getD last)
  else none

/-- The line breaks before the first line of text, and the widest indentation seen. -/
def leading : Nat → Nat → Cursor → List Char × Nat × Cursor
  | 0, widest, cursor => ([], widest, cursor)
  | fuel + 1, widest, cursor =>
    let here := cursor.skipWhile isSpace
    let wider := max widest here.column
    match here.lineBreak? with
    | none => ([], wider, here)
    | some (mark, next) =>
      let (more, result) := leading fuel wider next
      (mark :: more, result)

/-- Passes over indentation, up to the given column. -/
def indentation (margin : Nat) (cursor : Cursor) : Cursor :=
  cursor.skip (min (margin - cursor.column) (cursor.rest.takeWhile isSpace).length)

/-- The line breaks of empty lines, and the cursor after the indentation of the line that follows. -/
def breaks (margin : Nat) : Nat → Cursor → List Char × Cursor
  | 0, cursor => ([], cursor)
  | fuel + 1, cursor =>
    let here := indentation margin cursor
    match here.lineBreak? with
    | none => ([], here)
    | some (mark, next) =>
      let (more, last) := breaks margin fuel next
      (mark :: more, last)

/-- Whether a line begins with a blank. -/
def isIndented (cursor : Cursor) : Bool := (cursor.peek?.map isSpaceOrTab).getD false

/-- How the lines of a block scalar are joined where only one line break stands between them. -/
def joint (isFolded : Bool) (mark : List Char) (others : List Char) (before after : Cursor) :
    List Char :=
  if isFolded && mark == [Text.lineFeed] && !isIndented before && !isIndented after then
    if others.isEmpty then [' '] else []
  else mark

/-- What stands at the end of a block scalar. -/
def ending (chomping : Chomping) (mark others : List Char) : List Char :=
  match chomping with
  | .clip => mark
  | .strip => []
  | .keep => mark ++ others

/-- Reads the lines of a block scalar; each is given with the line breaks before it. -/
def lines (isFolded : Bool) (chomping : Chomping) (margin : Nat) :
    Nat → List Char → Cursor → List Char × Cursor
  | 0, _, cursor => ([], cursor)
  | fuel + 1, before, cursor =>
    let line := cursor.rest.takeWhile fun c => !isBreak c
    let here := cursor.skip line.length
    let (mark, next) :=
      match here.lineBreak? with
      | some (c, following) => ([c], following)
      | none => ([], here)
    let (others, last) := breaks margin (next.rest.length + 1) next
    if last.column = margin && last.peek?.isSome then
      let (more, result) := lines isFolded chomping margin fuel
        (joint isFolded mark others cursor last ++ others) last
      (before ++ line ++ more, result)
    else (before ++ line ++ ending chomping mark others, last)

/-- Reads block text; the cursor is at its mark. -/
def scan? (isFolded : Bool) (margin : Nat) (cursor : Cursor) : Option (List Char × Cursor) := do
  let (chomping, increment, afterIndicators) ← indicators? cursor.next
  let start ← ignoreLine? afterIndicators
  let least := max margin 1
  let (before, indent, first) :=
    match increment with
    | some extra =>
      let (before, first) := breaks (least + extra - 1) (start.rest.length + 1) start
      (before, least + extra - 1, first)
    | none =>
      let (before, widest, first) := leading (start.rest.length + 1) 0 start
      (before, max least widest, first)
  if first.column = indent && first.peek?.isSome then
    some (lines isFolded chomping indent (first.rest.length + 1) before first)
  else some (ending chomping [] before, first)

end BlockText

end Treewalk.Yaml
