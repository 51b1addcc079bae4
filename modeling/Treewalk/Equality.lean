import Treewalk.Memory
import Treewalk.Number.Arithmetic
import Treewalk.Progression

/-!
Keys and equality of values. What is held in the heap is compared by contents: items, entries and the
bounds of ranges count as equal when they are the same thing, and else when they are equal by value,
so that shared parts are never compared twice over. A value by itself is not compared as a thing: a
not-a-number is unequal to itself, but a list that holds it is equal to itself.
-/

set_option autoImplicit false
set_option relaxedAutoImplicit false

namespace Treewalk

namespace Progression

/-- The key part of a progression: two progressions are the same when they list the same integers. -/
def key (start stop step : Int) : Key.Part :=
  match size start stop step with
  | 0 => .progression 0 0 0
  | 1 => .progression 1 start 0
  | count => .progression count start step

end Progression

/-! ### Keys -/

mutual

/-- The key of a value, if it can be a key: what changes in the heap cannot, except for objects, which
are known by their address. -/
def Value.key? (heap : Array Cell) : Value → Option Key
  | .nil => some [.nil]
  | .bool b => some (Key.ofBool b)
  | .int i _ => some [.integer i]
  | .float x mark => some (Key.ofFloat mark x)
  | .text s _ => some [.text s]
  | .symbol s _ => some [.text s]
  | .tuple items _ => (Value.keys? heap items).map (Key.Part.tuple items.length :: ·)
  | .range first last exclusive _ => do
    let a ← first.key? heap
    let b ← last.key? heap
    some (.range exclusive :: a ++ b)
  | .regexp pattern => some [.regexp pattern]
  | .bytes data _ => some [.bytes data]
  | .progression start stop step _ => some [Progression.key start stop step]
  | .node tag children mark => some ((Tree.node tag children).key mark)
  | .cell address =>
    match heap[address]? with
    | some (.object _ _ _) => some [.cell address]
    | _ => none
  | .closure index => some [.closure index]
  | .inner index part => if part.isHashable then some [.inner index part] else none
  | .hostClass name => some [.named "class" name]
  | .function name => some [.named "function" name]
  | .method receiver name _ => some (.member name :: receiver.identity)

/-- The keys of several values, one after another. -/
def Value.keys? (heap : Array Cell) : List Value → Option Key
  | [] => some []
  | item :: rest => do
    let first ← item.key? heap
    let others ← Value.keys? heap rest
    some (first ++ others)

end

namespace Memory

/-- The key of a value, if it can be a key. -/
def key? (memory : Memory) (value : Value) : Option Key := value.key? memory.heap

/-- The bytes that a value holds. -/
def bytes? (memory : Memory) (value : Value) : Option (List UInt8) :=
  match value with
  | .bytes data _ => some data
  | _ =>
    match memory.cell? value with
    | some (.buffer data) => some data
    | _ => none

/-! ### Equality -/

/-- Whether two values without parts are equal by value. -/
def sameSimple (memory : Memory) (a b : Value) : Bool :=
  match a.number?, b.number? with
  | some x, some y => x.compare? y == some .eq
  | _, _ =>
    match a.text?, b.text? with
    | some s, some t => s == t
    | _, _ =>
      match memory.bytes? a, memory.bytes? b with
      | some s, some t => s == t
      | _, _ =>
        match memory.key? a, memory.key? b with
        | some s, some t => decide (s = t)
        | _, _ => false

end Memory

mutual

/-- Whether two values are equal by value, given the comparison of cells and of values without
parts. A tuple equals only tuples, and a range only ranges. -/
def Value.sameWith (cells : Nat → Nat → Bool) (simple : Value → Value → Bool) :
    Value → Value → Bool
  | .tuple a _, .tuple b _ => Value.sameItemsWith cells simple a b
  | .range first last exclusive _, .range first' last' exclusive' _ =>
    (first.identical first' || first.sameWith cells simple first') &&
      (last.identical last' || last.sameWith cells simple last') && exclusive == exclusive'
  | .cell a, .cell b => cells a b
  | .tuple _ _, _ | _, .tuple _ _ | .range _ _ _ _, _ | _, .range _ _ _ _ => false
  | a, b => simple a b

/-- Whether two lists of values are equal item by item, each being the same thing or equal by value. -/
def Value.sameItemsWith (cells : Nat → Nat → Bool) (simple : Value → Value → Bool) :
    List Value → List Value → Bool
  | [], [] => true
  | a :: rest, b :: rest' =>
    (a.identical b || a.sameWith cells simple b) && Value.sameItemsWith cells simple rest rest'
  | _, _ => false

end

namespace Memory

/-- Whether the contents of two cells are equal, given whether those of the cells are that they lead
to. -/
def sameFrom (memory : Memory) (cells : Nat × Nat → Bool) (pair : Nat × Nat) : Bool :=
  let sameItems (items others : List Value) : Bool :=
    items.length == others.length &&
      Value.sameItemsWith (fun a b => cells (a, b)) memory.sameSimple items others
  match memory.heap[pair.1]?, memory.heap[pair.2]? with
  | some (.list items), some (.list others) => sameItems items others
  | some (.queue items _), some (.queue others _) => sameItems items others
  | some (.table entries _), some (.table others _) =>
    entries.length == others.length && entries.all fun entry =>
      (others.find? entry.key).any fun other => sameItems [entry.value] [other]
  | some (.buffer data), some (.buffer others) => data == others
  | some (.object _ _ _), some (.object _ _ _) => pair.1 == pair.2
  | _, _ => false

/-- How many pairs of cells lead into each other at most, when none comes up twice. -/
def longestPath (memory : Memory) : Nat := memory.heap.size * memory.heap.size + 1

/-- Whether the contents of two cells are equal. Cells that lead back to themselves side by side are
not. -/
def sameCells (memory : Memory) (a b : Nat) : Bool :=
  follow (fun _ => false) memory.sameFrom memory.longestPath [] (a, b)

/-- Whether two values are equal by value. -/
def same (memory : Memory) (a b : Value) : Bool :=
  a.sameWith memory.sameCells memory.sameSimple b

/-- Whether two values count as equal among the items of something: they are the same thing, or equal
by value. -/
def matching (memory : Memory) (a b : Value) : Bool := a.identical b || memory.same a b

/-! ### Truth of answers -/

/-- Whether an answer counts as granted: nil, false, zero, and anything empty do not. -/
def isGranted (memory : Memory) (value : Value) : Bool :=
  match value with
  | .nil => false
  | .bool b => b
  | .int i _ => i != 0
  | .float x _ => !x.isZero
  | .text s _ => !s.isEmpty
  | .symbol s _ => !s.isEmpty
  | .tuple items _ => !items.isEmpty
  | .bytes data _ => !data.isEmpty
  | .progression start stop step _ => Progression.size start stop step != 0
  | .node _ children _ => !children.isEmpty
  | _ =>
    match memory.cell? value with
    | some (.list items) => !items.isEmpty
    | some (.queue items _) => !items.isEmpty
    | some (.table entries _) => !entries.isEmpty
    | some (.buffer data) => !data.isEmpty
    | _ => true

end Memory

end Treewalk
