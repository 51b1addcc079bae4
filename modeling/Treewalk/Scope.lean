import Treewalk.Datum

/-!
Variables. Frames live in a store and are never removed from it; a chain of frame numbers, innermost
first, says which frames are visible. Closures share frames by holding chains. Reading searches a
chain from its innermost frame, writing goes to the nearest frame that holds the name and else to the
innermost one. Entering a frame extends the chain, or swaps it for a captured one; leaving restores
what was there before.
-/

set_option autoImplicit false
set_option relaxedAutoImplicit false

namespace Treewalk

/-- The name of a variable: the value it was written as, with the key that decides sameness. -/
structure Name where
  key : Key
  value : Value
  text : String
deriving Repr, Inhabited

/-- A tree in the place of a name. -/
def Site.toName (site : Site) : Name := ⟨site.key, site.toValue, site.tree.plain⟩

/-- A text as a name. -/
def Name.ofText (s : String) : Name := ⟨[.text s], .ofText s, s⟩

/-- The store of all frames, by number. -/
abbrev Frames := Array Table

namespace Frames

/-- The contents of a frame. -/
def frame (frames : Frames) (number : Nat) : Table := frames.getD number []

/-- Adds a frame and gives its number. -/
def allocate (frames : Frames) (bindings : Table) : Nat × Frames :=
  (frames.size, frames.push bindings)

/-- The value of a name in the nearest frame of a chain that holds it. -/
def find? (frames : Frames) (key : Key) : Chain → Option Value
  | [] => none
  | number :: rest =>
    match (frames.frame number).find? key with
    | some value => some value
    | none => frames.find? key rest

/-- The nearest frame of a chain that holds a name. -/
def holder? (frames : Frames) (key : Key) : Chain → Option Nat
  | [] => none
  | number :: rest =>
    if (frames.frame number).has key then some number else frames.holder? key rest

/-- The frame that a write to a name goes to: the nearest holder, else the innermost frame. -/
def target? (frames : Frames) (key : Key) (chain : Chain) : Option Nat :=
  match frames.holder? key chain with
  | some number => some number
  | none => chain.head?

/-- Writes a name in one frame. -/
def bind (frames : Frames) (number : Nat) (name : Name) (value : Value) : Frames :=
  frames.setIfInBounds number ((frames.frame number).insert name.key name.value value)

/-- Takes a name out of one frame. -/
def unbind (frames : Frames) (number : Nat) (key : Key) : Frames :=
  frames.setIfInBounds number ((frames.frame number).erase key)

/-- Writes a name through a chain; there is nothing to write to in an empty chain. -/
def set? (frames : Frames) (chain : Chain) (name : Name) (value : Value) : Option Frames :=
  (frames.target? name.key chain).map fun number => frames.bind number name value

/-- The names of each frame of a chain joined by commas, innermost frame first; missing when a name
is not a text. -/
def listing? (frames : Frames) : Chain → Option (List String)
  | [] => some []
  | number :: rest => do
    let names ← textNames? (frames.frame number)
    let others ← frames.listing? rest
    some (", ".intercalate names :: others)
where
  /-- The names of a frame, if all of them are texts. -/
  textNames? : Table → Option (List String)
    | [] => some []
    | entry :: rest =>
      match entry.name with
      | .text s _ => (textNames? rest).map (s :: ·)
      | .symbol s _ => (textNames? rest).map (s :: ·)
      | _ => none

/-- The printed form of a namespace with its chain. -/
def describe? (frames : Frames) (space : String) (chain : Chain) : Option String :=
  (frames.listing? chain).map fun lines =>
    "<Variables " ++ space ++ " frames=" ++ Literal.list (lines.map Text.literal) ++ ">"

end Frames

/-- What leaving a frame needs to know: the frame entered, and the chain to go back to if the chain
was swapped. -/
structure Entered where
  frame : Nat
  saved : Option Chain
deriving Repr, Inhabited

/-- The chain inside a frame: the frame on top of the base, if one is given, and else on top of the
chain outside. -/
def Chain.enter (frame : Nat) (base : Option Chain) (chain : Chain) : Entered × Chain :=
  match base with
  | some captured => (⟨frame, some chain⟩, frame :: captured)
  | none => (⟨frame, none⟩, frame :: chain)

/-- The chain after leaving a frame. A frame entered without a base is taken off only when it is the
innermost one. -/
def Chain.leave (entered : Entered) (chain : Chain) : Chain :=
  match entered.saved with
  | some saved => saved
  | none =>
    match chain with
    | [] => []
    | number :: rest => if number = entered.frame then rest else number :: rest

end Treewalk
