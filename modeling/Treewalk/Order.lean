import Treewalk.Equality

/-!
The order of values. Numbers are ordered by value, texts and byte strings character by character, and
sequences of one kind by the first items that differ, where items count as equal as they do in the
comparison of sequences. Other values have no order.
-/

set_option autoImplicit false
set_option relaxedAutoImplicit false

namespace Treewalk

/-- A question about the order of two values. -/
inductive Relation where
  | less
  | atMost
  | greater
  | atLeast
deriving DecidableEq, Repr, Inhabited

namespace Relation

/-- Whether an order answers a question with yes. -/
def holds : Relation → Ordering → Bool
  | less, order => order == .lt
  | atMost, order => order != .gt
  | greater, order => order == .gt
  | atLeast, order => order != .lt

end Relation

/-- The order of two lists that are compared item by item. -/
def orderBy {α : Type} (order : α → α → Ordering) : List α → List α → Ordering
  | [], [] => .eq
  | [], _ :: _ => .lt
  | _ :: _, [] => .gt
  | a :: rest, b :: rest' => (order a b).then (orderBy order rest rest')

namespace Memory

/-- The answer to a question about the order of two values without parts, if they have an order; the
answer is no when a not-a-number is involved. -/
def orderedSimple? (memory : Memory) (relation : Relation) (a b : Value) : Option Bool :=
  match a.number?, b.number? with
  | some x, some y => some ((x.compare? y).any relation.holds)
  | _, _ =>
    match a.text?, b.text? with
    | some s, some t =>
      some (relation.holds (orderBy (fun c d => compare c.toNat d.toNat) s.toList t.toList))
    | _, _ =>
      match memory.bytes? a, memory.bytes? b with
      | some s, some t =>
        some (relation.holds (orderBy (fun c d => compare c.toNat d.toNat) s t))
      | _, _ => none

end Memory

mutual

/-- The answer to a question about the order of two values, if they have an order, given the answers
for cells. -/
def Value.orderedWith? (memory : Memory) (cells : Nat → Nat → Option Bool) (relation : Relation) :
    Value → Value → Option Bool
  | .tuple a _, .tuple b _ => Value.orderedItemsWith? memory cells relation a b
  | .cell a, .cell b => cells a b
  | a, b => memory.orderedSimple? relation a b

/-- The answer to a question about the order of two lists of values: the first items that differ
decide, and the lengths when none do. -/
def Value.orderedItemsWith? (memory : Memory) (cells : Nat → Nat → Option Bool)
    (relation : Relation) : List Value → List Value → Option Bool
  | [], [] => some (relation.holds .eq)
  | [], _ :: _ => some (relation.holds .lt)
  | _ :: _, [] => some (relation.holds .gt)
  | a :: rest, b :: rest' =>
    if memory.matching a b then Value.orderedItemsWith? memory cells relation rest rest'
    else a.orderedWith? memory cells relation b

end

namespace Memory

/-- The answer to a question about the order of two cells, if they have an order, given the answers
for the cells that they lead to. -/
def orderedFrom? (memory : Memory) (relation : Relation) (cells : Nat × Nat → Option Bool)
    (pair : Nat × Nat) : Option Bool :=
  let items? := Value.orderedItemsWith? memory (fun a b => cells (a, b)) relation
  match memory.heap[pair.1]?, memory.heap[pair.2]? with
  | some (.list items), some (.list others) => items? items others
  | some (.queue items _), some (.queue others _) => items? items others
  | _, _ => memory.orderedSimple? relation (.cell pair.1) (.cell pair.2)

/-- The answer to a question about the order of two cells, if they have an order. Cells that lead back
to themselves side by side have none. -/
def orderedCells? (memory : Memory) (relation : Relation) (a b : Nat) : Option Bool :=
  follow (fun _ => none) (memory.orderedFrom? relation) memory.longestPath [] (a, b)

/-- The answer to a question about the order of two values, if they have an order. -/
def ordered? (memory : Memory) (relation : Relation) (a b : Value) : Option Bool :=
  a.orderedWith? memory (memory.orderedCells? relation) relation b

/-- Whether a value lies between the bounds of a range; what has no order with a bound does not. -/
def within (memory : Memory) (first last : Value) (exclusive : Bool) (value : Value) : Bool :=
  match memory.ordered? .less value first with
  | some false =>
    (memory.ordered? (if exclusive then .less else .atMost) value last).getD false
  | _ => false

end Memory

end Treewalk
