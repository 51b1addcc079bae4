import Treewalk.Failure
import Treewalk.Number.Numeral
import Treewalk.Regexp
import Treewalk.Text.Identifier
import Treewalk.Text.Name

/-!
Compiling regular expressions. The source is cut into tokens, a backslash and the character after it
being one, and read by recursive descent: branches, sequences of items, groups, sets and repetitions.
Reading keeps the least and greatest width of what it has read, because what is looked at behind has
to have one fixed width. The result is the expression with all options that are on at its start.
-/

set_option autoImplicit false
set_option relaxedAutoImplicit false

namespace Treewalk.Regexp

/-- A token: a character, or a character after a backslash. -/
inductive Token where
  | plain (c : Char)
  | escaped (c : Char)
deriving DecidableEq, Repr, Inhabited

namespace Token

/-- Cuts a source into tokens, and says whether a backslash is left over at its end. -/
def scan : List Char → List Token × Bool
  | [] => ([], false)
  | [c] => if c = Text.backslash then ([], true) else ([plain c], false)
  | c :: d :: rest =>
    if c = Text.backslash then
      let (tokens, dangles) := scan rest
      (escaped d :: tokens, dangles)
    else
      let (tokens, dangles) := scan (d :: rest)
      (plain c :: tokens, dangles)

/-- The characters of a token. -/
def chars : Token → List Char
  | plain c => [c]
  | escaped c => [Text.backslash, c]

end Token

/-- The least and greatest number of characters that something matches. -/
structure Width where
  least : Nat
  greatest : Nat
deriving DecidableEq, Repr, Inhabited

namespace Width

/-- The bound on repetition, above which widths are not told apart. -/
def bound : Nat := 4294967295

/-- Matches nothing but the empty text. -/
def none : Width := ⟨0, 0⟩

/-- Matches one character. -/
def one : Width := ⟨1, 1⟩

/-- One thing after another. -/
def append (a b : Width) : Width :=
  ⟨min (a.least + b.least) bound, min (a.greatest + b.greatest) bound⟩

/-- One thing or another. -/
def either (a b : Width) : Width := ⟨min a.least b.least, max a.greatest b.greatest⟩

/-- A thing repeated. -/
def times (a : Width) (least greatest : Nat) : Width :=
  ⟨min (a.least * least) bound, min (a.greatest * greatest) bound⟩

end Width

/-- What may be said of the item read last: there is none, it is a place and not a text, it is already
repeated, or it may be repeated. -/
inductive Item where
  | missing
  | anchor
  | repeated (width : Width)
  | single (width : Width)
deriving DecidableEq, Repr, Inhabited

/-- The width of an item. -/
def Item.width : Item → Width
  | .missing => Width.none
  | .anchor => Width.none
  | .repeated width => width
  | .single width => width

/-- The state of reading: what is left, the number of the next group, the named and the closed groups,
the options, the kinds of text chosen for the whole expression, the first group inside the lookbehind
being read, the groups that conditions refer to, and whether there was a lookbehind without a fixed
width. -/
structure Reading where
  rest : List Token
  groups : Nat := 1
  names : List (String × Nat) := []
  closed : List (Nat × Width) := []
  options : Options
  kinds : List Char := []
  behind : Option Nat := none
  pending : List Nat := []
  uneven : Bool := false

/-- A reader. -/
abbrev Reader (α : Type) := StateT Reading (Except Kind) α

namespace Reader

/-- The source is malformed. -/
def malformed {α : Type} : Reader α := throw .pattern

/-- The next token, left in place. -/
def peek : Reader (Option Token) := do
  return (← get).rest.head?

/-- The next token, taken. -/
def take : Reader (Option Token) := do
  let reading ← get
  set { reading with rest := reading.rest.tail }
  return reading.rest.head?

/-- Takes the next token if it is the given character. -/
def accept (c : Char) : Reader Bool := do
  let reading ← get
  match reading.rest with
  | .plain d :: rest =>
    if c = d then
      set { reading with rest := rest }
      return true
    else return false
  | _ => return false

/-- Takes a character that has to be there. -/
def expect (c : Char) : Reader Unit := do
  if ← accept c then return () else malformed

/-- The characters of the tokens at the front that pass a test, at most `limit` of them. -/
def frontWhile (limit : Nat) (test : Char → Bool) : List Token → List Char
  | .plain c :: rest =>
    match limit with
    | 0 => []
    | limit + 1 => if test c then c :: frontWhile limit test rest else []
  | _ => []

/-- Takes characters that pass a test, at most `limit` of them. -/
def takeWhile (limit : Nat) (test : Char → Bool) : Reader (List Char) := do
  let reading ← get
  let front := frontWhile limit test reading.rest
  set { reading with rest := reading.rest.drop front.length }
  return front

/-- Takes a name up to its end mark, which is taken too. A name is not empty. -/
def nameUntil (mark : Char) : Reader (List Char) := do
  let reading ← get
  let front := reading.rest.takeWhile (· != .plain mark)
  if front.isEmpty || front.length = reading.rest.length then malformed
  else
    set { reading with rest := reading.rest.drop (front.length + 1) }
    return front.flatMap Token.chars

end Reader

/-- An ASCII letter. -/
def isAsciiLetter (c : Char) : Bool := c.isAlpha

/-- An octal digit. -/
def isOctalDigit (c : Char) : Bool := 48 ≤ c.toNat && c.toNat ≤ 55

/-- A refused reference to a group: an open one, or one of the lookbehind being read. -/
def checkReference (group : Nat) : Reader Width := do
  let reading ← get
  match reading.closed.lookup group with
  | none => Reader.malformed
  | some width =>
    match reading.behind with
    | some start => if start ≤ group then Reader.malformed else return width
    | none => return width

/-- What an escape stands for: a single character with its code, a class of characters, or an item. -/
inductive Escape where
  | code (value : Nat)
  | category
  | item (item : Item)

/-- Reads a character given by hexadecimal digits. A code of thirty-two bits is too large. -/
def hexEscape (count : Nat) : Reader Escape := do
  let digits ← Reader.takeWhile count Text.isHexDigit
  let code := Text.ofHexDigits digits
  if digits.length ≠ count then Reader.malformed
  else if Nat.pow 2 31 ≤ code then throw .overflow
  else if 1114112 ≤ code then Reader.malformed
  else return .code code

/-- Reads a character given by its name in braces. -/
def nameEscape : Reader Escape := do
  Reader.expect '\x7b'
  match Text.named? (← Reader.nameUntil '\x7d') with
  | some code => return .code code
  | none => Reader.malformed

/-- The codes of the escapes that stand for one control character. -/
def controlEscape? (c : Char) : Option Nat :=
  [('a', 7), ('f', 12), ('n', 10), ('r', 13), ('t', 9), ('v', 11), (Text.backslash, 92)].lookup c

/-- Reads the escapes that mean the same inside and outside of sets. -/
def commonEscape (c : Char) : Reader Escape :=
  if "dDsSwW".toList.contains c then pure .category
  else
    match controlEscape? c with
    | some code => pure (.code code)
    | none =>
      if c = 'x' then hexEscape 2
      else if c = 'u' then hexEscape 4
      else if c = 'U' then hexEscape 8
      else if c = 'N' then nameEscape
      else if isAsciiLetter c then Reader.malformed
      else pure (.code c.toNat)

/-- Reads an escape inside a set. -/
def setEscape (c : Char) : Reader Escape := do
  if c = 'b' then return .code 8
  else if isOctalDigit c then
    let more ← Reader.takeWhile 2 isOctalDigit
    let code := Text.ofDigits 8 (c :: more)
    if 255 < code then Reader.malformed else return .code code
  else if Text.isAsciiDigit c then Reader.malformed
  else commonEscape c

/-- Reads a reference to a group by number, or an octal code of three digits. -/
def numberEscape (c : Char) : Reader Escape := do
  let more ← Reader.takeWhile 1 Text.isAsciiDigit
  let third ←
    match more with
    | [d] =>
      if isOctalDigit c && isOctalDigit d then Reader.takeWhile 1 isOctalDigit else pure []
    | _ => pure []
  if third.isEmpty then
    let width ← checkReference (Text.ofDigits 10 (c :: more))
    return .item (.single width)
  else
    let code := Text.ofDigits 8 (c :: more ++ third)
    if 255 < code then Reader.malformed else return .code code

/-- Reads an escape outside of sets. -/
def itemEscape (c : Char) : Reader Item := do
  if "AbBZ".toList.contains c then return .anchor
  else if c = '0' then
    let _ ← Reader.takeWhile 2 isOctalDigit
    return .single Width.one
  else if Text.isAsciiDigit c then
    match ← numberEscape c with
    | .item item => return item
    | _ => return .single Width.one
  else
    let _ ← commonEscape c
    return .single Width.one

/-- What a token stands for inside a set. -/
def setMember : Token → Reader Escape
  | .plain c => pure (.code c.toNat)
  | .escaped c => setEscape c

/-- Whether two ends of a range of characters fit: both are characters, in order. -/
def isRange : Escape → Escape → Bool
  | .code low, .code high => low ≤ high
  | _, _ => false

/-- Reads a set up to its closing bracket; the flag says whether the set has a member yet. -/
def readSet : Nat → Bool → Reader Unit
  | 0, _ => Reader.malformed
  | fuel + 1, started => do
    match ← Reader.take with
    | none => Reader.malformed
    | some token =>
      if token = .plain ']' && started then return ()
      else
        let low ← setMember token
        if ← Reader.accept '-' then
          match ← Reader.take with
          | none => Reader.malformed
          | some (.plain ']') => return ()
          | some other =>
            let high ← setMember other
            if isRange low high then readSet fuel true else Reader.malformed
        else readSet fuel true

/-- Reads the bounds of a repetition after its opening brace; missing when the brace stands for
itself. -/
def readBounds : Reader (Option (Nat × Nat)) := do
  let saved ← get
  if (← Reader.peek) = some (.plain '\x7d') then return none
  else
    let length := saved.rest.length
    let low ← Reader.takeWhile length Text.isAsciiDigit
    let comma ← Reader.accept ','
    let high ← if comma then Reader.takeWhile length Text.isAsciiDigit else pure low
    if ← Reader.accept '\x7d' then
      let least := Text.ofDigits 10 low
      let greatest := if high.isEmpty then Width.bound else Text.ofDigits 10 high
      if Width.bound ≤ least || (!high.isEmpty && Width.bound ≤ greatest) then throw .overflow
      else if greatest < least then Reader.malformed
      else return some (least, greatest)
    else
      set saved
      return none

/-- Repeats the item read last; a mark for reluctant or possessive repetition may follow. -/
def repeatItem (item : Item) (least greatest : Nat) : Reader Item := do
  match item with
  | .missing | .anchor | .repeated _ => Reader.malformed
  | .single width =>
    let reluctant ← Reader.accept '?'
    if !reluctant then
      let _ ← Reader.accept '+'
    return .repeated (width.times least greatest)

/-- Passes over a comment in parentheses. -/
def skipComment : Reader Unit := do
  let reading ← get
  let front := reading.rest.takeWhile (· != .plain ')')
  if front.length = reading.rest.length then Reader.malformed
  else set { reading with rest := reading.rest.drop (front.length + 1) }

/-- Passes over the rest of a line. -/
def skipLine : Reader Unit := do
  let reading ← get
  let front := reading.rest.takeWhile (· != .plain Text.lineFeed)
  set { reading with rest := reading.rest.drop (front.length + 1) }

/-! ### Options in the source -/

/-- The letters of options. -/
def optionLetters : List Char := "iLmsxatu".toList

/-- Whether a letter chooses the kind of text, of which one may be chosen. -/
def isTextLetter (c : Char) : Bool := c == 'a' || c == 'u'

/-- Reads option letters up to one of the marks; the mark is given too. -/
def readLetters (marks : List Char) : Nat → List Char → Reader (List Char × Char)
  | 0, _ => Reader.malformed
  | fuel + 1, letters => do
    match ← Reader.take with
    | some (.plain c) =>
      if marks.contains c then return (letters, c)
      else if optionLetters.contains c && c != 'L' then readLetters marks fuel (letters ++ [c])
      else Reader.malformed
    | _ => Reader.malformed

/-- Turns on the option of a letter in the source. -/
def Options.enableInline (options : Options) (letter : Char) : Options :=
  if letter = 'i' then { options with ignoreCase := true }
  else if letter = 's' then { options with dotAll := true }
  else if letter = 'x' then { options with extended := true }
  else if letter = 'm' then { options with multiLine := true }
  else if letter = 'a' then { options with asciiOnly := true }
  else options

/-- What option letters at the front of a group mean: options of the whole expression, or letters
turned on and off inside the group. -/
inductive Inline where
  | everywhere (letters : List Char)
  | inside (added removed : List Char)

/-- Reads the options at the front of a group, whose first character has been taken. -/
def readInline (first : Char) : Reader Inline := do
  let length := (← get).rest.length + 1
  let (added, mark) ←
    if first = '-' then pure ([], '-')
    else if first = 'L' then Reader.malformed
    else readLetters [')', '-', ':'] length [first]
  if added.contains 'a' && added.contains 'u' then Reader.malformed
  else if mark = ')' then return .everywhere added
  else if mark = ':' then return .inside added []
  else
    let (removed, _) ← readLetters [':'] length []
    if removed.isEmpty || removed.any isTextLetter || removed.any added.contains then
      Reader.malformed
    else return .inside added removed

/-! ### Groups -/

/-- Opens a capturing group, which may have a name of its own. -/
def openGroup (name : Option String) : Reader Nat := do
  let reading ← get
  let names ←
    match name with
    | none => pure reading.names
    | some s =>
      if (reading.names.lookup s).isSome then Reader.malformed
      else pure (reading.names ++ [(s, reading.groups)])
  set { reading with groups := reading.groups + 1, names := names }
  return reading.groups

/-- Closes a capturing group. -/
def closeGroup (group : Nat) (width : Width) : Reader Unit :=
  modify fun reading => { reading with closed := (group, width) :: reading.closed }

/-- The group that the name of a condition means. A number may mean a group that is still to come. -/
def conditionGroup (name : List Char) : Reader Nat := do
  if Text.isIdentifier name then
    match (← get).names.lookup (String.ofList name) with
    | some group => return group
    | none => Reader.malformed
  else
    match Numeral.int? (String.ofList name) with
    | some number =>
      if number ≤ 0 || 2147483647 ≤ number then Reader.malformed
      else
        modify fun reading => { reading with pending := number.toNat :: reading.pending }
        return number.toNat
    | none => Reader.malformed

/-- Reads the group that a condition refers to; inside a lookbehind it is checked as a reference is. -/
def readCondition : Reader Unit := do
  let group ← conditionGroup (← Reader.nameUntil ')')
  if (← get).behind.isSome then
    let _ ← checkReference group
    return ()

mutual

/-- Reads branches; at the outermost level the options read so far apply from the next branch on. -/
def readBranches : Nat → Bool → Bool → Bool → Reader Width
  | 0, _, _, _ => Reader.malformed
  | fuel + 1, extended, nested, first => do
    let width ← readItems fuel extended (first && !nested) .missing Width.none
    if ← Reader.accept '|' then
      let options := (← get).options
      let others ← readBranches fuel (if nested then extended else options.extended) nested false
      return width.either others
    else return width

/-- Reads a sequence of items up to a bar, a closing parenthesis or the end. The flag `first` says that
options of the whole expression may still stand here; `item` is the item read last, `before` the width
of the items before it. -/
def readItems : Nat → Bool → Bool → Item → Width → Reader Width
  | 0, _, _, _, _ => Reader.malformed
  | fuel + 1, extended, first, item, before => do
    let total := before.append item.width
    match ← Reader.peek with
    | none => return total
    | some (.plain '|') => return total
    | some (.plain ')') => return total
    | some token =>
      let _ ← Reader.take
      match token with
      | .escaped c =>
        let next ← itemEscape c
        readItems fuel extended first next total
      | .plain c =>
        if extended && " \t\n\r\x0b\x0c".toList.contains c then
          readItems fuel extended first item before
        else if extended && c = '#' then
          skipLine
          readItems fuel extended first item before
        else if c = '[' then
          let _ ← Reader.accept '^'
          readSet fuel false
          readItems fuel extended first (.single Width.one) total
        else if c = '?' then
          let next ← repeatItem item 0 1
          readItems fuel extended first next before
        else if c = '*' then
          let next ← repeatItem item 0 Width.bound
          readItems fuel extended first next before
        else if c = '+' then
          let next ← repeatItem item 1 Width.bound
          readItems fuel extended first next before
        else if c = '\x7b' then
          match ← readBounds with
          | none => readItems fuel extended first (.single Width.one) total
          | some (least, greatest) =>
            let next ← repeatItem item least greatest
            readItems fuel extended first next before
        else if c = '^' || c = '$' then readItems fuel extended first .anchor total
        else if c = '(' then
          if ← Reader.accept '?' then
            match ← Reader.take with
            | some (.plain '#') =>
              skipComment
              readItems fuel extended first item before
            | some (.plain mark) =>
              if optionLetters.contains mark || mark = '-' then
                match ← readInline mark with
                | .everywhere letters =>
                  if first && item = .missing then
                    modify fun reading =>
                      { reading with
                        options := letters.foldl Options.enableInline reading.options
                        kinds := reading.kinds ++ letters.filter isTextLetter }
                    readItems fuel (← get).options.extended first item before
                  else Reader.malformed
                | .inside added removed =>
                  let inner := (extended || added.contains 'x') && !removed.contains 'x'
                  let width ← readBranches fuel inner true false
                  Reader.expect ')'
                  readItems fuel extended first (.single width) total
              else
                let next ← readSpecial fuel extended mark
                readItems fuel extended first next total
            | _ => Reader.malformed
          else
            let group ← openGroup none
            let width ← readBranches fuel extended true false
            Reader.expect ')'
            closeGroup group width
            readItems fuel extended first (.single width) total
        else readItems fuel extended first (.single Width.one) total

/-- Reads a group that a question mark and the given character open. -/
def readSpecial : Nat → Bool → Char → Reader Item
  | 0, _, _ => Reader.malformed
  | fuel + 1, extended, mark => do
    if mark = ':' || mark = '>' then
      let width ← readBranches fuel extended true false
      Reader.expect ')'
      return .single width
    else if mark = '=' || mark = '!' then
      let _ ← readBranches fuel extended true false
      Reader.expect ')'
      return .single Width.none
    else if mark = '<' then
      let sign ← Reader.take
      if sign = some (.plain '=') || sign = some (.plain '!') then
        let outer := (← get).behind
        if outer.isNone then
          modify fun reading => { reading with behind := some reading.groups }
        let width ← readBranches fuel extended true false
        modify fun reading => { reading with behind := outer }
        Reader.expect ')'
        if width.least ≠ width.greatest then
          modify fun reading => { reading with uneven := true }
        return .single Width.none
      else Reader.malformed
    else if mark = 'P' then
      if ← Reader.accept '<' then
        let name ← Reader.nameUntil '>'
        if Text.isIdentifier name then
          let group ← openGroup (some (String.ofList name))
          let width ← readBranches fuel extended true false
          Reader.expect ')'
          closeGroup group width
          return .single width
        else Reader.malformed
      else if ← Reader.accept '=' then
        let name ← Reader.nameUntil ')'
        match (← get).names.lookup (String.ofList name) with
        | some group => return .single (← checkReference group)
        | none => Reader.malformed
      else Reader.malformed
    else if mark = '(' then
      readCondition
      let yes ← readItems fuel extended false .missing Width.none
      let no ←
        if ← Reader.accept '|' then readItems fuel extended false .missing Width.none
        else pure Width.none
      Reader.expect ')'
      return .single (yes.either no)
    else Reader.malformed

end

/-- Reads all branches of an expression. -/
def read (tokens : List Token) (options : Options) : Except Kind Reading := do
  let start : Reading := { rest := tokens, options := options }
  let (_, reading) ← readBranches (4 * tokens.length + 4) options.extended false true start
  return reading

/-- Whether an expression is complete after reading: nothing is left, the groups of all conditions are
there, and lookbehinds have a fixed width. -/
def Reading.isComplete (reading : Reading) : Bool :=
  reading.rest.isEmpty && reading.pending.all (· < reading.groups) && !reading.uneven

/-- Compiles a source under options. A backslash at the end is refused as soon as the token before it is
taken, so that a repetition which is too large before that token comes first. -/
def compile (source : String) (options : Options) : Except Kind Regexp := do
  let (tokens, dangles) := Token.scan source.toList
  if dangles then
    match read tokens.dropLast options with
    | .error .overflow => throw .overflow
    | _ => throw .pattern
  else
    let reading ← read tokens options
    if reading.kinds.contains 'a' && reading.kinds.contains 'u' then throw .value
    else if reading.isComplete then return ⟨source, reading.options⟩
    else throw .pattern

end Treewalk.Regexp
