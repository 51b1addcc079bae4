import Treewalk.Compute

/-!
Going through a value item by item while other things happen. An iteration remembers where it is. A
list is read as it stands at each step, so that items which come and go meanwhile count; a table or a
queue whose size changes ends the iteration with a failure, and entries removed from a table shift the
place reached in it. Long ranges are never listed.
-/

set_option autoImplicit false
set_option relaxedAutoImplicit false

namespace Treewalk

/-- Where an iteration is. -/
inductive Iteration where
  /-- Items that are known. -/
  | known (items : List Value)
  /-- The characters of a text that are left. -/
  | characters (rest : List Char)
  /-- Integers in equal steps, of which some number is left. -/
  | steps (next step : Int) (left : Nat)
  /-- A place in a list or a buffer. -/
  | reading (address place : Nat)
  /-- A place in a queue, which had this revision at the start. -/
  | queue (address place revision : Nat)
  /-- A place in a table of a size, of whose names some number is left; so many removals are accounted
  for. -/
  | table (address place size left removals : Nat)
deriving Repr, Inhabited

namespace Iteration

/-- The start of an iteration over integers from a first one up to a last one, which is left out. -/
def integers (start stop step : Int) : Iteration :=
  .steps start step (Progression.size start stop step)

/-- The start of an iteration over a cell, if it has items. -/
def ofCell? (address : Nat) : Cell → Option Iteration
  | .list _ => some (.reading address 0)
  | .buffer _ => some (.reading address 0)
  | .queue _ revision => some (.queue address 0 revision)
  | .table entries removals =>
    some (.table address 0 entries.length entries.length removals.length)
  | .object _ _ _ => none

/-- The place that was reached in a table, after removals at the given places, latest first. -/
def shifted (place : Nat) (removals : List Nat) : Nat :=
  removals.foldr (fun removed reached => if removed < reached then reached - 1 else reached) place

/-- The next item of a table and how the iteration goes on. A table may change its values only. -/
def nextName (address place size left seen : Nat) (entries : Table) (removals : List Nat) :
    Compute (Option (Value × Iteration)) :=
  if entries.length ≠ size then Compute.refuse .runtime
  else
    let reached := shifted place (removals.take (removals.length - seen))
    match entries[reached]? with
    | none => pure none
    | some entry =>
      if left = 0 then Compute.refuse .runtime
      else pure (some (entry.name, .table address (reached + 1) size (left - 1) removals.length))

/-- The item at a place of a list of items, and the iteration after it. -/
def step? (items : List Value) (place : Nat) (after : Iteration) : Option (Value × Iteration) :=
  items[place]?.map fun item => (item, after)

/-- The next item, if there is one, and the iteration after it. -/
def next : Iteration → Compute (Option (Value × Iteration))
  | .known [] => pure none
  | .known (item :: rest) => pure (some (item, .known rest))
  | .characters [] => pure none
  | .characters (c :: rest) => do
    return some (← Compute.newPart (String.ofList [c]), .characters rest)
  | .steps _ _ 0 => pure none
  | .steps value step (left + 1) => do
    return some (← Compute.newInt value, .steps (value + step) step left)
  | .reading address place => do
    match ← Compute.cell? (.cell address) with
    | some (.list items) => return step? items place (.reading address (place + 1))
    | some (.buffer data) => return step? (Value.byteItems data) place (.reading address (place + 1))
    | _ => return none
  | .queue address place revision => do
    match ← Compute.cell? (.cell address) with
    | some (.queue items now) =>
      if now = revision then return step? items place (.queue address (place + 1) revision)
      else Compute.refuse .runtime
    | _ => return none
  | .table address place size left seen => do
    match ← Compute.cell? (.cell address) with
    | some (.table entries removals) => nextName address place size left seen entries removals
    | _ => return none

/-- How many items are gone through at most. -/
def longest : Nat := 1000000000

/-- At most so many items, as far as there are any. -/
def take : Nat → Iteration → Compute (List Value)
  | 0, _ => pure []
  | count + 1, iteration => do
    match ← iteration.next with
    | none => return []
    | some (item, rest) =>
      let others ← take count rest
      return item :: others

end Iteration

namespace Value

/-- The start of an iteration over a value. -/
def iteration (value : Value) : Compute Iteration := do
  match value with
  | text s _ => return .characters s.toList
  | symbol s _ => return .characters s.toList
  | tuple items _ => return .known items
  | range first last exclusive _ =>
    let (start, stop) ← rangeBounds first last exclusive
    return .integers start stop 1
  | bytes data _ => return .known (byteItems data)
  | progression start stop step _ => return .integers start stop step
  | node _ children mark => return .known (childrenOf mark children)
  | cell address =>
    match (← Compute.cell? value).bind (Iteration.ofCell? address) with
    | some iteration => return iteration
    | none => Compute.refuse .type
  | _ => Compute.refuse .type

/-- The two values that a value lists; any other number of them is a failure. -/
def pair (value : Value) : Compute (Value × Value) := do
  let iteration ← value.iteration
  match ← iteration.take 3 with
  | [first, second] => return (first, second)
  | _ => Compute.refuse .value

end Value

end Treewalk
