/-!
Finding, splitting and replacing within texts, which may be lists of characters or of bytes. A position
counts characters.
-/

set_option autoImplicit false
set_option relaxedAutoImplicit false

namespace Treewalk.Text

variable {α : Type} [BEq α]

/-- Whether the first text starts the second. -/
def startsWith (pattern cs : List α) : Bool := pattern.isPrefixOf cs

/-- Whether the first text ends the second. -/
def endsWith (pattern cs : List α) : Bool := pattern.isSuffixOf cs

/-- The first position at which a pattern occurs. -/
def find? (pattern : List α) : List α → Option Nat
  | [] => if pattern.isEmpty then some 0 else none
  | c :: rest =>
    if startsWith pattern (c :: rest) then some 0 else (find? pattern rest).map (· + 1)

/-- How often a non-empty pattern occurs without overlap; `skip` characters are passed over first. -/
def countFrom (pattern : List α) : Nat → List α → Nat
  | _, [] => 0
  | skip + 1, _ :: rest => countFrom pattern skip rest
  | 0, c :: rest =>
    if startsWith pattern (c :: rest) then countFrom pattern (pattern.length - 1) rest + 1
    else countFrom pattern 0 rest

/-- How often a pattern occurs without overlap; the empty pattern occurs at every position. -/
def count (pattern cs : List α) : Nat :=
  if pattern.isEmpty then cs.length + 1 else countFrom pattern 0 cs

/-- Replaces up to `limit` occurrences of a non-empty pattern; `skip` characters are dropped first. -/
def replaceFrom (pattern replacement : List α) : Nat → Nat → List α → List α
  | _, _, [] => []
  | limit, skip + 1, _ :: rest => replaceFrom pattern replacement limit skip rest
  | 0, 0, c :: rest => c :: rest
  | limit + 1, 0, c :: rest =>
    if startsWith pattern (c :: rest) then
      replacement ++ replaceFrom pattern replacement limit (pattern.length - 1) rest
    else c :: replaceFrom pattern replacement (limit + 1) 0 rest

/-- Puts a text before each of the first `limit` characters, and at the end if the limit allows. -/
def interleave (replacement : List α) : Nat → List α → List α
  | 0, cs => cs
  | _ + 1, [] => replacement
  | limit + 1, c :: rest => replacement ++ c :: interleave replacement limit rest

/-- Replaces up to `limit` occurrences of a pattern, the empty one at every position. -/
def replace (pattern replacement : List α) (limit : Nat) (cs : List α) : List α :=
  if pattern.isEmpty then interleave replacement limit cs
  else replaceFrom pattern replacement limit 0 cs

/-- Cuts at up to `limit` occurrences of a non-empty separator; `current` is the part being read,
last character first. -/
def splitFrom (separator : List α) : Nat → Nat → List α → List α → List (List α)
  | _, _, current, [] => [current.reverse]
  | limit, skip + 1, current, _ :: rest => splitFrom separator limit skip current rest
  | 0, 0, current, c :: rest => [current.reverse ++ c :: rest]
  | limit + 1, 0, current, c :: rest =>
    if startsWith separator (c :: rest) then
      current.reverse :: splitFrom separator limit (separator.length - 1) [] rest
    else splitFrom separator (limit + 1) 0 (c :: current) rest

/-- Cuts at up to `limit` occurrences of a non-empty separator. -/
def split (separator : List α) (limit : Nat) (cs : List α) : List (List α) :=
  splitFrom separator limit 0 [] cs

/-- Cuts at runs of blanks, at most `limit` times, dropping empty parts; what remains after the last
cut is kept as it stands. The first number bounds the number of parts. -/
def wordsFrom (isBlank : α → Bool) : Nat → Nat → List α → List (List α)
  | 0, _, _ => []
  | fuel + 1, limit, cs =>
    match cs.dropWhile isBlank with
    | [] => []
    | c :: rest =>
      match limit with
      | 0 => [c :: rest]
      | limit + 1 =>
        let word := (c :: rest).takeWhile (fun d => !isBlank d)
        word :: wordsFrom isBlank fuel limit ((c :: rest).drop word.length)

/-- The words of a text, cutting at most `limit` times. -/
def words (isBlank : α → Bool) (limit : Nat) (cs : List α) : List (List α) :=
  wordsFrom isBlank (cs.length + 1) limit cs

end Treewalk.Text
