import Treewalk.Member.Argument
import Treewalk.Text.Case

/-!
Methods of texts and symbols. One that leaves a text as it is gives back the same thing.
-/

set_option autoImplicit false
set_option relaxedAutoImplicit false

namespace Treewalk

namespace Member

/-- Whether a value is a text and not a symbol. -/
def isText : Value → Bool
  | .text _ _ => true
  | _ => false

/-- The parts of a text as a new list; a text that is its own only part stays what it is. -/
def textList (whole : Value) (isWhole : Bool) (parts : List (List Char)) : Compute Value := do
  if isWhole && isText whole then Compute.newList [whole]
  else Compute.newList (← parts.mapM fun part => Compute.newPart (String.ofList part))

/-- How many bytes a text needs for each of its characters. -/
def width (s : List Char) : Nat :=
  s.foldl (fun most c =>
    max most (if c.toNat < 256 then 1 else if c.toNat < 65536 then 2 else 4)) 1

/-- Splits a text or symbol at a separator. One that is too short or too narrow to hold the separator is
itself the only part. -/
def splitAt (whole : Value) (s : List Char) (separator : Value) (cuts : Nat) : Compute Value := do
  let pattern ← textArgument separator
  if s.length < pattern.length || width s < width pattern then Compute.newList [whole]
  else if pattern.isEmpty then Compute.refuse .value
  else
    let parts := Text.split pattern cuts s
    textList whole (parts.length == 1) parts

/-- Splits a text or symbol at a separator, or at blanks if it is nil. -/
def split (whole : Value) (s : List Char) (separator : Value) (count : Int) : Compute Value :=
  let cuts := limit s.length count
  match separator with
  | .nil =>
    let parts := Text.words Text.isBlank cuts s
    textList whole (cuts != 0 && parts == [s]) parts
  | _ => splitAt whole s separator cuts

/-- What is left of a text without characters at its ends. -/
def strip (whole : Value) (s left : List Char) : Compute Value :=
  if left.length = s.length then Compute.asText whole else Compute.newPart (String.ofList left)

/-- Replaces occurrences of a pattern; where there are none, the text stays what it is. -/
def replace (whole : Value) (s : List Char) (pattern replacement : Value) (count : Int) :
    Compute Value := do
  let p ← textArgument pattern
  let r ← textArgument replacement
  let most := limit s.length count
  if most = 0 || pattern.identical replacement || (p.isEmpty && r.isEmpty) || Text.count p s = 0 then
    Compute.asText whole
  else Compute.newText (String.ofList (Text.replace p r most s))

/-- A method of a text or symbol. -/
def runText (whole : Value) (text : String) (name : String) (arguments : List Value) :
    Compute Value := do
  let s := text.toList
  match name, arguments with
  | "upper", [] => Compute.newText (String.ofList (Text.upper s))
  | "lower", [] => Compute.newText (String.ofList (Text.lower s))
  | "strip", [] => strip whole s (Text.trim s)
  | "strip", [.nil] => strip whole s (Text.trim s)
  | "strip", [characters] =>
    let strange ← textArgument characters
    let left := s.dropWhile strange.contains
    strip whole s (left.reverse.dropWhile strange.contains).reverse
  | "split", [] => split whole s .nil (-1)
  | "split", [separator] => split whole s separator (-1)
  | "split", [separator, count] => split whole s separator (← countArgument count)
  | "join", [list] =>
    let items ← list.items
    let parts ← items.mapM textArgument
    match items with
    | [only] => Compute.asText only
    | _ => Compute.newText (String.ofList (List.intercalate s parts))
  | "replace", [pattern, replacement] => replace whole s pattern replacement (-1)
  | "replace", [pattern, replacement, count] =>
    let _ ← textArgument pattern
    let _ ← textArgument replacement
    replace whole s pattern replacement (← countArgument count)
  | "startswith", pattern :: bounds => anyPattern textArgument Text.startsWith s pattern bounds
  | "endswith", pattern :: bounds => anyPattern textArgument Text.endsWith s pattern bounds
  | "find", pattern :: bounds =>
    placeOr (pure (.ofInt (-1))) (← firstPlace s (← textArgument pattern) bounds)
  | "index", pattern :: bounds =>
    placeOr (Compute.refuse .value) (← firstPlace s (← textArgument pattern) bounds)
  | "count", pattern :: bounds =>
    let p ← textArgument pattern
    match ← slice s bounds with
    | none => return .ofInt 0
    | some (_, part) => Compute.newCount (Text.count p part)
  | _, _ => Compute.refuse .type

end Member

end Treewalk
