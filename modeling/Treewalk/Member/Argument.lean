import Treewalk.Iteration
import Treewalk.Order
import Treewalk.Text.Search

/-!
Arguments of methods: what they have to be, and the part of a sequence that they bound.
-/

set_option autoImplicit false
set_option relaxedAutoImplicit false

namespace Treewalk

namespace Member

/-- The text that an argument has to be. -/
def textArgument (value : Value) : Compute (List Char) :=
  match value.text? with
  | some s => pure s.toList
  | none => Compute.refuse .type

/-- The integer that an argument has to be. -/
def integerArgument (value : Value) : Compute Int :=
  match value.integer? with
  | some i => pure i
  | none => Compute.refuse .type

/-- The integer that an argument has to be, where it counts or numbers items. -/
def countArgument (value : Value) : Compute Int := do
  let i ← integerArgument value
  if Number.fitsWord i then return i else Compute.refuse .overflow

/-- How many cuts or replacements an argument allows; a negative number allows any. -/
def limit (length : Nat) (count : Int) : Nat := if count < 0 then length + 1 else count.toNat

/-- The bound that an argument sets in a sequence, counted from the end if it is negative. -/
def givenBound (length : Nat) (value : Value) : Compute Nat := do
  let i ← integerArgument value
  if i < 0 then return (i + length).toNat else return i.toNat

/-- The bound that an optional argument sets in a sequence. -/
def bound (length : Nat) (missing : Nat) (argument : Option Value) : Compute Nat :=
  match argument with
  | none => pure missing
  | some .nil => pure missing
  | some value => givenBound length value

/-- The part of a sequence between two optional bounds, with the place where it begins; missing when
it would begin after its end. -/
def slice {α : Type} (items : List α) (bounds : List Value) : Compute (Option (Nat × List α)) := do
  if 2 < bounds.length then Compute.refuse .type
  else
    let start ← bound items.length 0 bounds[0]?
    let stop ← bound items.length items.length bounds[1]?
    if min stop items.length < start then return none
    else return some (start, (items.take stop).drop start)

/-- The first place of a pattern in a part of a text. -/
def firstPlace {α : Type} [BEq α] (s pattern : List α) (bounds : List Value) :
    Compute (Option Nat) := do
  match ← slice s bounds with
  | none => return none
  | some (start, part) => return (Text.find? pattern part).map (· + start)

/-- The number of a place that is sought, if it was found. -/
def placeOr (missing : Compute Value) : Option Nat → Compute Value
  | some place => Compute.newCount place
  | none => missing

/-- Whether one of several patterns passes a test; those after the first that does are not looked
at. -/
def firstPattern {α : Type} (argument : Value → Compute (List α)) (test : List α → Bool) :
    List Value → Compute Bool
  | [] => pure false
  | pattern :: rest => do
    let p ← argument pattern
    if test p then return true else firstPattern argument test rest

/-- Whether a part of a text passes a test with a pattern, or with one of a tuple of patterns. -/
def anyPattern {α : Type} (argument : Value → Compute (List α)) (test : List α → List α → Bool)
    (s : List α) (pattern : Value) (bounds : List Value) : Compute Value := do
  let found ← slice s bounds
  let passes (p : List α) : Bool := (found.map fun place => test p place.2).getD false
  match pattern with
  | .tuple items _ => return .bool (← firstPattern argument passes items)
  | _ => return .bool (← firstPattern argument passes [pattern])

/-- The bytes that an argument has to hold. -/
def bytesArgument (value : Value) : Compute (List UInt8) := do
  match (← get).bytes? value with
  | some data => return data
  | none => Compute.refuse .type

/-- The byte that an argument has to be: an integer below 256. -/
def byteArgument (value : Value) : Compute UInt8 := do
  let i ← integerArgument value
  if 0 ≤ i && i < 256 then return i.toNat.toUInt8 else Compute.refuse .value

end Member

end Treewalk
