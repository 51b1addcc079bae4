import Treewalk.Yaml.Cursor

/-!
Tokens of document text. `Token.scan?` cuts text into tokens and makes the structure that indentation
expresses explicit: a block collection is put between a start and an end. Text that turns out to be a
key, because a colon follows it on the same line, gets its key token, and if it opens a map the start
of the map, put in front of it afterwards; so the scanner remembers where such a key may have begun.
-/

set_option autoImplicit false
set_option relaxedAutoImplicit false

namespace Treewalk.Yaml

/-- A token. -/
inductive Token where
  | directive (name : String)
  | documentStart
  | documentEnd
  | sequenceStart
  | mappingStart
  | blockEnd
  | entry
  | key
  | value
  | flowSequenceStart
  | flowSequenceEnd
  | flowMappingStart
  | flowMappingEnd
  | flowEntry
  | alias (name : String)
  | anchor (name : String)
  | tag
  | scalar (text : List Char) (isPlain : Bool)
deriving DecidableEq, Repr, Inhabited

/-- A place where a key may have begun: the number of tokens before it, and whether it has to be a
key because it stands where the keys of a block map stand. -/
structure Candidate where
  position : Nat
  isRequired : Bool
  index : Nat
  line : Nat
  column : Nat
deriving Repr, Inhabited

/-- The state of scanning. The margin is the column after that of the innermost block collection, and
zero outside of all. At each depth of flow collections at most one key may have begun. -/
structure Scan where
  cursor : Cursor
  tokens : Array Token := #[]
  depth : Nat := 0
  margin : Nat := 0
  margins : List Nat := []
  keyAllowed : Bool := true
  candidates : List (Nat × Candidate) := []
deriving Inhabited

namespace Scan

/-- How far the colon after a key may be from the start of the key. -/
def keyReach : Nat := 1024

/-- Whether the scanner is inside of a flow collection. -/
def inFlow (scan : Scan) : Bool := scan.depth != 0

/-- Adds a token. -/
def push (token : Token) (scan : Scan) : Scan := { scan with tokens := scan.tokens.push token }

/-- Adds a token that takes the given number of characters. -/
def pushAfter (count : Nat) (token : Token) (scan : Scan) : Scan :=
  { scan.push token with cursor := scan.cursor.skip count }

/-- Says whether a key may begin next. -/
def allowKey (keyAllowed : Bool) (scan : Scan) : Scan := { scan with keyAllowed := keyAllowed }

/-! ### Blanks, comments, indentation -/

/-- Passes over spaces, comments and line breaks. A new line lets a key begin outside of flow
collections. The first argument bounds the number of lines. -/
def passLines : Nat → Scan → Scan
  | 0, scan => scan
  | fuel + 1, scan =>
    let here := scan.cursor.skipWhile isSpace
    let last := if here.isAt '#' then here.skipWhile fun c => !isBreak c else here
    match last.lineBreak? with
    | none => { scan with cursor := last }
    | some (_, next) =>
      passLines fuel { scan with cursor := next, keyAllowed := scan.keyAllowed || !scan.inFlow }

/-- Passes over what stands before the next token. -/
def passBlanks (scan : Scan) : Scan :=
  let cursor :=
    if scan.cursor.index = 0 && scan.cursor.isAt byteOrderMark then scan.cursor.next
    else scan.cursor
  passLines (cursor.rest.length + 1) { scan with cursor := cursor }

/-- Ends the block collections whose margin is beyond the given one. -/
def closeTo (margin : Nat) : List Nat → Scan → Scan
  | [], scan => scan
  | outer :: others, scan =>
    if margin < scan.margin then
      closeTo margin others { scan.push .blockEnd with margin := outer, margins := others }
    else scan

/-- Ends block collections outside of flow collections. -/
def unwind (margin : Nat) (scan : Scan) : Scan :=
  if scan.inFlow then scan else closeTo margin scan.margins scan

/-- Whether a block collection at the given column is deeper than the innermost one. -/
def isDeeper (column : Nat) (scan : Scan) : Bool := scan.margin < column + 1

/-- Opens a block collection at the given column. -/
def indent (column : Nat) (scan : Scan) : Scan :=
  { scan with margin := column + 1, margins := scan.margin :: scan.margins }

/-! ### Keys -/

/-- Forgets the keys that can no longer be: those of an earlier line and those too far back. A
required one must not be forgotten. -/
def dropStale? (scan : Scan) : Option Scan :=
  let isStale (candidate : Candidate) : Bool :=
    candidate.line != scan.cursor.line || keyReach < scan.cursor.index - candidate.index
  if scan.candidates.any fun entry => isStale entry.2 && entry.2.isRequired then none
  else some { scan with candidates := scan.candidates.filter fun entry => !isStale entry.2 }

/-- Forgets the key at this depth, unless it is required. -/
def dropKey? (scan : Scan) : Option Scan :=
  match scan.candidates.lookup scan.depth with
  | none => some scan
  | some candidate =>
    if candidate.isRequired then none
    else some { scan with candidates := scan.candidates.filter fun entry => entry.1 != scan.depth }

/-- Remembers that a key may begin here. -/
def saveKey? (scan : Scan) : Option Scan :=
  if scan.keyAllowed then
    (scan.dropKey?).map fun cleared =>
      let candidate : Candidate :=
        { position := scan.tokens.size
          isRequired := !scan.inFlow && scan.margin == scan.cursor.column + 1
          index := scan.cursor.index
          line := scan.cursor.line
          column := scan.cursor.column }
      { cleared with candidates := (scan.depth, candidate) :: cleared.candidates }
  else some scan

/-! ### Tokens of structure -/

/-- The start or the end of a document. -/
def documentMark? (token : Token) (scan : Scan) : Option Scan := do
  let cleared ← (scan.unwind 0).dropKey?
  some ((cleared.allowKey false).pushAfter 3 token)

/-- The start of a flow collection. -/
def flowStart? (token : Token) (scan : Scan) : Option Scan := do
  let saved ← scan.saveKey?
  some (({ saved with depth := saved.depth + 1 }.allowKey true).pushAfter 1 token)

/-- The end of a flow collection; there has to be one. -/
def flowEnd? (token : Token) (scan : Scan) : Option Scan := do
  let cleared ← scan.dropKey?
  if cleared.depth = 0 then none
  else some (({ cleared with depth := cleared.depth - 1 }.allowKey false).pushAfter 1 token)

/-- The comma between the items of a flow collection. -/
def flowEntry? (scan : Scan) : Option Scan := do
  let cleared ← scan.dropKey?
  some ((cleared.allowKey true).pushAfter 1 .flowEntry)

/-- The mark of a block item or an explicit key: outside of flow collections it needs to stand where a
key may begin, and opens a block collection if it is deeper. -/
def blockMark? (start token : Token) (keyAllowed : Bool) (scan : Scan) : Option Scan := do
  let opened ←
    if scan.inFlow then some scan
    else if !scan.keyAllowed then none
    else if scan.isDeeper scan.cursor.column then
      some ((scan.indent scan.cursor.column).push start)
    else some scan
  let cleared ← opened.dropKey?
  some ((cleared.allowKey keyAllowed).pushAfter 1 token)

/-- Puts tokens in front of the token with the given number. -/
def insertAt (position : Nat) (tokens : List Token) (scan : Scan) : Scan :=
  let (before, after) := (scan.tokens.toList.take position, scan.tokens.toList.drop position)
  { scan with tokens := (before ++ tokens ++ after).toArray }

/-- The colon after a key. A key that may have begun at this depth becomes one. -/
def value? (scan : Scan) : Option Scan :=
  match scan.candidates.lookup scan.depth with
  | some candidate =>
    let cleared :=
      { scan with candidates := scan.candidates.filter fun entry => entry.1 != scan.depth }
    let keyed :=
      if !cleared.inFlow && cleared.isDeeper candidate.column then
        (cleared.indent candidate.column).insertAt candidate.position [.mappingStart, .key]
      else cleared.insertAt candidate.position [.key]
    some ((keyed.allowKey false).pushAfter 1 .value)
  | none => scan.blockMark? .mappingStart .value (!scan.inFlow)

/-! ### Tokens of content -/

/-- Whether a character may stand in the name of an anchor. -/
def isNameChar (c : Char) : Bool := c.isAlphanum || c == '-' || c == '_'

/-- Whether a character, or the end of the text, may follow the name of an anchor. -/
def endsName (following : Option Char) : Bool :=
  separates following ||
    (following.map fun c => ['?', ':', ',', ']', '\x7d', '%', '@', Char.ofNat 96].contains c).getD
      false

/-- The name of an anchor after its mark. -/
def name? (make : String → Token) (scan : Scan) : Option Scan := do
  let saved ← scan.saveKey?
  let start := saved.cursor.next
  let name := start.rest.takeWhile isNameChar
  if name.isEmpty || !endsName (start.rest.drop name.length).head? then none
  else some ((saved.allowKey false).pushAfter (name.length + 1) (make (String.ofList name)))

/-- A tag; only the one without a name is known. -/
def tag? (scan : Scan) : Option Scan := do
  let saved ← scan.saveKey?
  if endsWord saved.cursor.next.peek? then some ((saved.allowKey false).pushAfter 1 .tag) else none

/-- A block scalar. -/
def blockScalar? (isFolded : Bool) (scan : Scan) : Option Scan := do
  let cleared ← scan.dropKey?
  let (text, last) ← BlockText.scan? isFolded cleared.margin cleared.cursor
  some { (cleared.allowKey true).push (.scalar text false) with cursor := last }

/-- A quoted scalar. -/
def quotedScalar? (isDouble : Bool) (scan : Scan) : Option Scan := do
  let saved ← scan.saveKey?
  let (text, last) ← QuotedText.scan? isDouble saved.cursor
  some { (saved.allowKey false).push (.scalar text false) with cursor := last }

/-- A plain scalar. After its last line a key may begin. -/
def plainScalar? (scan : Scan) : Option Scan := do
  let saved ← scan.saveKey?
  let (text, crossed, last) := PlainText.scan saved.inFlow saved.margin saved.cursor
  some { (saved.allowKey crossed).push (.scalar text true) with cursor := last }

/-- A directive: a name and a line of settings. The version has to be the first. -/
def directive? (scan : Scan) : Option Scan := do
  let cleared ← (scan.unwind 0).dropKey?
  let start := cleared.cursor.next
  let name := start.rest.takeWhile isNameChar
  let afterName := start.skip name.length
  if name.isEmpty || !endsWord afterName.peek? then none
  else
    let label := String.ofList name
    let settings :=
      if label = "YAML" then
        let version := afterName.skipWhile isSpace
        if version.isAt '1' && version.next.isAt '.' then
          let minor := version.skip 2
          let last := minor.skipWhile Text.isAsciiDigit
          if minor.index < last.index && endsWord last.peek? then some last else none
        else none
      else some (afterName.skipWhile fun c => !isBreak c)
    let last ← BlockText.ignoreLine? (← settings)
    some { (cleared.allowKey false).push (.directive label) with cursor := last }

/-- The characters that plain text does not begin with. -/
def indicators : List Char :=
  ['-', '?', ':', ',', '[', ']', '\x7b', '\x7d', '#', '&', '*', '!', '|', '>', Text.singleQuote,
    Text.doubleQuote, '%', '@', Char.ofNat 96]

/-- Whether plain text may begin with a character before another one. -/
def beginsPlain (inFlow : Bool) (c : Char) (following : Option Char) : Bool :=
  (!isSeparating c && !indicators.contains c) ||
    (!separates following && (c == '-' || (!inFlow && (c == '?' || c == ':'))))

/-- Reads the token that begins with the given character. -/
def token? (c : Char) (scan : Scan) : Option Scan :=
  let following := (scan.cursor.rest.drop 1).head?
  let atLineStart := scan.cursor.column == 0
  if c = '%' && atLineStart then scan.directive?
  else if atLineStart && scan.cursor.atMark '-' then scan.documentMark? .documentStart
  else if atLineStart && scan.cursor.atMark '.' then scan.documentMark? .documentEnd
  else if c = '[' then scan.flowStart? .flowSequenceStart
  else if c = '\x7b' then scan.flowStart? .flowMappingStart
  else if c = ']' then scan.flowEnd? .flowSequenceEnd
  else if c = '\x7d' then scan.flowEnd? .flowMappingEnd
  else if c = ',' then scan.flowEntry?
  else if c = '-' && separates following then scan.blockMark? .sequenceStart .entry true
  else if c = '?' && (scan.inFlow || separates following) then
    scan.blockMark? .mappingStart .key (!scan.inFlow)
  else if c = ':' && (scan.inFlow || separates following) then scan.value?
  else if c = '*' then scan.name? .alias
  else if c = '&' then scan.name? .anchor
  else if c = '!' then scan.tag?
  else if c = '|' && !scan.inFlow then scan.blockScalar? false
  else if c = '>' && !scan.inFlow then scan.blockScalar? true
  else if c = Text.singleQuote then scan.quotedScalar? false
  else if c = Text.doubleQuote then scan.quotedScalar? true
  else if beginsPlain scan.inFlow c following then scan.plainScalar?
  else none

/-- Reads tokens to the end of the text. Each takes at least one character. -/
def run : Nat → Scan → Option (List Token)
  | 0, _ => none
  | fuel + 1, scan => do
    let ready ← scan.passBlanks.dropStale?
    let here := ready.unwind (ready.cursor.column + 1)
    match here.cursor.peek? with
    | none =>
      let last ← (here.unwind 0).dropKey?
      some last.tokens.toList
    | some c => run fuel (← here.token? c)

end Scan

/-- The tokens of document text. -/
def Token.scan? (cs : List Char) : Option (List Token) :=
  if cs.all isDocumentChar then
    Scan.run (cs.length + 1) { cursor := { rest := cs } }
  else none

end Treewalk.Yaml
