import Treewalk.Document

/-!
Locators of documents: a path, a path after the scheme of files, or an address on the web. A relative
path is taken from a base directory; a path that begins with a tilde is taken from the home directory as
it stands. All other paths are cleared of empty parts, of parts that stay in place, and of parts that go
up where there is something to go up from.
-/

set_option autoImplicit false
set_option relaxedAutoImplicit false

namespace Treewalk.Locator

/-- Where relative paths start from. -/
structure Surroundings where
  home : String
  current : String
deriving Repr, Inhabited

/-- The scheme of files. -/
def fileScheme : List Char := "file://".toList

/-- Whether a locator is an address on the web. -/
def isWeb (locator : String) : Bool :=
  Text.startsWith "http://".toList locator.toList ||
    Text.startsWith "https://".toList locator.toList

/-- The parts of a path between slashes. -/
def parts (cs : List Char) : List (List Char) := Text.split ['/'] cs.length cs

/-- Adds a part to those before it, the last one first. -/
def addPart (isRooted : Bool) (before : List (List Char)) (part : List Char) : List (List Char) :=
  if part.isEmpty || part = ['.'] then before
  else if part = ['.', '.'] then
    match before with
    | [] => if isRooted then [] else [part]
    | last :: others => if last = ['.', '.'] then part :: before else others
  else part :: before

/-- How many slashes a path keeps at its front: exactly two are kept, any other number counts as
one. -/
def leadingSlashes (cs : List Char) : Nat :=
  match cs.takeWhile (· == '/') with
  | [] => 0
  | [_, _] => 2
  | _ => 1

/-- A path in its clear form. -/
def clear (cs : List Char) : List Char :=
  let slashes := leadingSlashes cs
  let kept := ((parts cs).foldl (addPart (slashes != 0)) []).reverse
  let path := List.replicate slashes '/' ++ ['/'].intercalate kept
  if path.isEmpty then ['.'] else path

/-- Joins a relative path to a directory. -/
def join (directory path : List Char) : List Char :=
  if directory.isEmpty || directory.getLast? = some '/' then directory ++ path
  else directory ++ '/' :: path

/-- The path after a tilde, if nobody is named there. -/
def afterTilde? : List Char → Option (List Char)
  | '~' :: rest => if rest.isEmpty || rest.head? = some '/' then some rest else none
  | _ => none

/-- The path that a locator stands for. -/
def resolve (surroundings : Surroundings) (base : Option String) (locator : String) : String :=
  let cs := locator.toList
  let path := if Text.startsWith fileScheme cs then cs.drop fileScheme.length else cs
  if path.head? = some '~' then
    match afterTilde? path with
    | some rest => String.ofList (surroundings.home.toList ++ rest)
    | none => String.ofList path
  else if path.head? = some '/' then String.ofList (clear path)
  else
    let directory := (Document.given? base).getD surroundings.current
    String.ofList (clear (join directory.toList path))

/-- A path as the command line gives it, taken from the current directory if it is relative. -/
def absolute (surroundings : Surroundings) (path : String) : String :=
  if path.toList.head? = some '/' then String.ofList (clear path.toList)
  else String.ofList (clear (join surroundings.current.toList path.toList))

/-- Lines of a file end with line feeds, whatever they end with in storage. -/
def lineFeeds : List Char → List Char
  | [] => []
  | c :: rest =>
    if c.toNat = 13 then
      match rest with
      | d :: more =>
        if d = Text.lineFeed then Text.lineFeed :: lineFeeds more
        else Text.lineFeed :: lineFeeds (d :: more)
      | [] => [Text.lineFeed]
    else c :: lineFeeds rest

/-- A store of files: the text under a path, or why there is none. -/
abbrev Store := String → Except Cause String

/-- The tree of the document in the file at a path, whose ending names its format. -/
def load (loader : Document.Loader) (store : Store) (path : String) : Except Cause (Option Tree) := do
  let s ← store path
  let format := (Document.detect? none none (some path)).map Document.Format.name
  Document.tree? loader format none (String.ofList (lineFeeds s.toList))

/-- Whether a path lies in a directory. -/
def isBelow (directory path : String) : Bool :=
  if directory = "/" then Text.startsWith ['/'] path.toList
  else Text.startsWith (directory ++ "/").toList path.toList

/-- Why there is no text at a path that is not one of the given files: it is a directory, or goes on below
a file, or leads nowhere. -/
def absence (root : String) (files : List (String × String)) (path : String) : Kind :=
  if path = root || isBelow path root || files.any fun file => isBelow path file.1 then .directory
  else if files.any fun file => isBelow file.1 path then .notDirectory
  else .missingFile

/-- The store that holds the given files and the directories above them and above the given root. -/
def Store.ofFiles (root : String) (files : List (String × String)) : Store := fun path =>
  match files.lookup path with
  | some s => .ok s
  | none => .error (.plain (absence root files path))

end Treewalk.Locator
