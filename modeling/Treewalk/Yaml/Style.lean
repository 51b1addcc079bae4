import Treewalk.Yaml.Cursor
import Treewalk.Yaml.Plain

/-!
How a scalar is written: plain where its text cannot be mistaken for anything else, between single
quotation marks where the text has to be protected, and between double ones where characters have to be
escaped.
-/

set_option autoImplicit false
set_option relaxedAutoImplicit false

namespace Treewalk.Yaml

/-- The ways to write a scalar. -/
inductive Style where
  | plain
  | single
  | double
deriving DecidableEq, Repr, Inhabited

namespace Style

/-- Whether a character ends a line of written text; a carriage return does not. -/
def isLineEnd (c : Char) : Bool := isBreak c && c.toNat != 13

/-- Whether a character is written as it is: a line feed or a visible character of ASCII. -/
def isOrdinary (c : Char) : Bool := c == Text.lineFeed || (32 ≤ c.toNat && c.toNat ≤ 126)

/-- The indicators that no plain text begins with. -/
def leadingIndicators : List Char :=
  ['#', ',', '[', ']', '\x7b', '\x7d', '&', '*', '!', '|', '>', Text.singleQuote, Text.doubleQuote,
    '%', '@', Char.ofNat 96]

/-- The indicators that end plain text inside of flow collections. -/
def flowIndicators : List Char := [',', '?', '[', ']', '\x7b', '\x7d']

/-- Whether the first character of a text rules out plain text in flow collections and in block
collections. -/
def leadingMark (c : Char) (following : Option Char) : Bool × Bool :=
  if leadingIndicators.contains c then (true, true)
  else if c == '?' || c == ':' then (true, separates following)
  else if c == '-' && separates following then (true, true)
  else (false, false)

/-- Whether a later character of a text rules out plain text in flow collections and in block
collections. -/
def innerMark (afterBlank : Bool) (c : Char) (following : Option Char) : Bool × Bool :=
  if c == ':' then (true, separates following)
  else if c == '#' && afterBlank then (true, true)
  else (flowIndicators.contains c, false)

/-- Whether the characters after the first rule out plain text. -/
def innerMarks : Bool → List Char → Bool × Bool
  | _, [] => (false, false)
  | afterBlank, c :: rest =>
    let (inFlow, inBlock) := innerMark afterBlank c rest.head?
    let (laterFlow, laterBlock) := innerMarks (isSeparating c) rest
    (inFlow || laterFlow, inBlock || laterBlock)

/-- Whether indicators rule out plain text in flow collections and in block collections. -/
def marks (cs : List Char) : Bool × Bool :=
  if ['-', '-', '-'].isPrefixOf cs || ['.', '.', '.'].isPrefixOf cs then (true, true)
  else
    match cs with
    | [] => (true, false)
    | c :: rest =>
      let (inFlow, inBlock) := leadingMark c rest.head?
      let (laterFlow, laterBlock) := innerMarks (isSeparating c) rest
      (inFlow || laterFlow, inBlock || laterBlock)

/-- Whether a space and the end of a line stand side by side. -/
def hasBlankEdge : List Char → Bool
  | a :: b :: rest =>
    (isLineEnd a && b == ' ') || (a == ' ' && isLineEnd b) || hasBlankEdge (b :: rest)
  | _ => false

/-- Whether a text goes over several lines. -/
def isMultiline (cs : List Char) : Bool := cs.any isLineEnd

/-- Whether a character is a space or ends a line. -/
def isEdge (c : Char) : Bool := c == ' ' || isLineEnd c

/-- Whether a text can stand between single quotation marks. -/
def allowsSingle (cs : List Char) : Bool := cs.all isOrdinary && !hasBlankEdge cs

/-- Whether a text can be plain, in a flow collection or outside of one. -/
def allowsPlain (inFlow : Bool) (cs : List Char) : Bool :=
  let (flowMark, blockMark) := marks cs
  allowsSingle cs && !isMultiline cs && !(cs.head?.map isEdge).getD false &&
    !(cs.getLast?.map isEdge).getD false && !(if inFlow then flowMark else blockMark)

/-- The style of a scalar. It is plain only if its text then stands for what is meant; a key is never
written over several lines. -/
def choose (inFlow isKey : Bool) (meant : Sense) (cs : List Char) : Style :=
  if Plain.sense cs == meant && !(isKey && (cs.isEmpty || isMultiline cs)) &&
      allowsPlain inFlow cs then .plain
  else if allowsSingle cs && !(isKey && isMultiline cs) then .single
  else .double

end Style

end Treewalk.Yaml
