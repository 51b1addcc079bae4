import Treewalk.Member.Argument

/-!
Methods of lists and queues, and searches in other sequences. A list is sorted in place, so that a
failure half-way shows in it.
-/

set_option autoImplicit false
set_option relaxedAutoImplicit false

namespace Treewalk

namespace Member

/-! ### Searching -/

/-- The first place of a matching item. -/
def placeOf (memory : Memory) (wanted : Value) (items : List Value) : Option Nat :=
  items.findIdx? fun item => memory.matching item wanted

/-- How many items match a value. -/
def occurrences (memory : Memory) (wanted : Value) (items : List Value) : Nat :=
  (items.filter fun item => memory.matching item wanted).length

/-- The place of a matching item within optional bounds, which are not nil. -/
def indexOf (items : List Value) (wanted : Value) (bounds : List Value) : Compute Value := do
  if bounds.any Value.isNil then Compute.refuse .type
  else
    match ← slice items bounds with
    | none => Compute.refuse .value
    | some (start, part) =>
      match placeOf (← get) wanted part with
      | some place => Compute.newCount (place + start)
      | none => Compute.refuse .value

/-- The place of a value in a progression, if it is a number that equals an integer of it. -/
def placeInProgression (start stop step : Int) (wanted : Value) : Option Nat :=
  match wanted.number? with
  | some (.int i) => Progression.place? start stop step i
  | some (.float x) => x.toInt?.bind (Progression.place? start stop step)
  | none => none

/-! ### Sorting -/

/-- How many items at the front, after the given one, keep descending strictly, or keep from
descending; missing when two items have no order. -/
def runLength? (memory : Memory) (descending : Bool) (previous : Value) : List Value → Option Nat
  | [] => some 0
  | item :: rest =>
    match memory.ordered? .less item previous with
    | none => none
    | some smaller =>
      if smaller == descending then (runLength? memory descending item rest).map (· + 1) else some 0

/-- The place at which an item goes into a sorted list, found by halving; missing when two items have
no order. -/
def insertPlace? (memory : Memory) (sorted : Array Value) (item : Value) :
    Nat → Nat → Nat → Option Nat
  | 0, low, _ => some low
  | fuel + 1, low, high =>
    if high ≤ low then some low
    else
      let middle := low + (high - low) / 2
      match memory.ordered? .less item (sorted.getD middle .nil) with
      | none => none
      | some true => insertPlace? memory sorted item fuel low middle
      | some false => insertPlace? memory sorted item fuel (middle + 1) high

/-- Inserts items one by one into a sorted list; the flag says whether all of them found a place. The
rest follows in its old order when one did not. -/
def insertAll (memory : Memory) (sorted : List Value) : List Value → List Value × Bool
  | [] => (sorted, true)
  | item :: rest =>
    match insertPlace? memory sorted.toArray item (sorted.length + 1) 0 sorted.length with
    | none => (sorted ++ item :: rest, false)
    | some place => insertAll memory (sorted.take place ++ item :: sorted.drop place) rest

/-- Sorts a list in place: the run at its front is kept, reversed if it descends, and the other items
are inserted one by one. The flag says whether all items have an order. -/
def sorted (memory : Memory) (items : List Value) : List Value × Bool :=
  match items with
  | [] => ([], true)
  | [only] => ([only], true)
  | first :: second :: rest =>
    match memory.ordered? .less second first with
    | none => (items, false)
    | some descending =>
      match runLength? memory descending second rest with
      | none => (items, false)
      | some more =>
        let front := items.take (more + 2)
        let run := if descending then front.reverse else front
        insertAll memory run (items.drop (more + 2))

/-! ### Methods of lists -/

/-- The place before which an item is inserted: the nearest one in the list. -/
def clamp (length : Nat) (index : Int) : Nat :=
  let place := if index < 0 then index + length else index
  min place.toNat length

/-- Takes the item at an index out of a list. -/
def takeOut {α : Type} (items : List α) (index : Int) : Compute (α × List α) :=
  let place := if index < 0 then index + items.length else index
  if place < 0 then Compute.refuse .position
  else
    match items[place.toNat]? with
    | some item => pure (item, items.eraseIdx place.toNat)
    | none => Compute.refuse .position

/-- A method that lists and queues share, given the cell and its items. -/
def runItems (receiver : Value) (cell : Cell) (items : List Value) (name : String)
    (arguments : List Value) : Compute Value := do
  match name, arguments with
  | "append", [item] =>
    Compute.store receiver (cell.withItems (items ++ [item]))
    return .nil
  | "extend", [list] =>
    let added ← list.items
    Compute.store receiver (cell.withItems (items ++ added))
    return .nil
  | "pop", [] =>
    let (item, others) ← takeOut items (-1)
    Compute.store receiver (cell.withItems others)
    return item
  | "insert", [index, item] =>
    let place := clamp items.length (← countArgument index)
    Compute.store receiver (cell.withItems (items.take place ++ item :: items.drop place))
    return .nil
  | "index", wanted :: bounds => indexOf items wanted bounds
  | "count", [wanted] => Compute.newCount (occurrences (← get) wanted items)
  | "reverse", [] =>
    Compute.store receiver (cell.withItems items.reverse)
    return .nil
  | "copy", [] => Compute.allocate cell
  | "remove", [wanted] =>
    match placeOf (← get) wanted items with
    | some place =>
      Compute.store receiver (cell.withItems (items.eraseIdx place))
      return .nil
    | none => Compute.refuse .value
  | _, _ => Compute.refuse .type

/-- A method of a list. -/
def runList (receiver : Value) (items : List Value) (name : String) (arguments : List Value) :
    Compute Value := do
  match name, arguments with
  | "pop", [index] =>
    let (item, others) ← takeOut items (← countArgument index)
    Compute.store receiver (.list others)
    return item
  | "sort", [] =>
    let (changed, complete) := sorted (← get) items
    Compute.store receiver (.list changed)
    if complete then return .nil else Compute.refuse .type
  | _, _ => runItems receiver (.list items) items name arguments

end Member

end Treewalk
