import Treewalk.Mark
import Treewalk.Regexp

/-!
Keys: what decides whether two hashable values are the same entry of a table, or two names the same
variable. A key lists the parts of a value in prefix order, so two keys are equal exactly when all
their parts are. Numbers are compared by value across their kinds, truth values count as zero and
one, and a symbol is the same key as the text of its name. A not-a-number equals nothing, so that its
key is that of the thing it is.
-/

set_option autoImplicit false
set_option relaxedAutoImplicit false

namespace Treewalk

/-- What of the interpreter itself a block leads to: one of the frames it captured, counted from the
outermost, its evaluator, and what that holds: the handlers of nodes, the policy with the names it
lists, and the global variables. -/
inductive Inner where
  | frame (place : Nat)
  | evaluator
  | handlers
  | policy
  | names
  | globals
deriving DecidableEq, Repr, Inhabited

/-- One part of a key. Compound parts give the number of parts that follow them. -/
inductive Key.Part where
  | nil
  | integer (value : Int)
  | fraction (value : Binary64)
  | text (value : String)
  | bytes (data : List UInt8)
  | tuple (size : Nat)
  | range (exclusive : Bool)
  | progression (size : Nat) (start step : Int)
  | regexp (pattern : Regexp)
  | node (tag : String) (size : Nat)
  | cell (address : Nat)
  | closure (index : Nat)
  | inner (index : Nat) (part : Inner)
  | named (sort name : String)
  | member (name : String)
  | thing (mark : Mark)
deriving DecidableEq, Repr, Inhabited

/-- A key, as the list of its parts in prefix order. -/
abbrev Key := List Key.Part

namespace Key

/-- The key of a truth value. -/
def ofBool (b : Bool) : Key := [.integer (if b then 1 else 0)]

/-- The key of a thing with a mark; what is common is known by its content, which is looked at only
then. -/
@[macro_inline]
def thing (mark : Mark) (content : Key) : Key :=
  match mark with
  | .common => content
  | .own _ _ => [.thing mark]

/-- The key of a marked floating-point number: that of the integer it equals, if it equals one. -/
def ofFloat (mark : Mark) (x : Binary64) : Key :=
  match x.toInt? with
  | some i => [.integer i]
  | none => if x.isNaN then thing mark [.fraction x] else [.fraction x]

/-- The text that a key is, if it is the key of a text. -/
def text? : Key → Option String
  | [.text s] => some s
  | _ => none

end Key

/-- The key of a marked scalar. -/
def Scalar.key (mark : Mark) : Scalar → Key
  | .null => [.nil]
  | .bool b => Key.ofBool b
  | .int i => [.integer i]
  | .float x => Key.ofFloat (mark.ofFloat x) x
  | .text s => [.text s]
  | .symbol s => [.text s]

namespace Tree

mutual

/-- The key of a tree with a mark. -/
def key (mark : Mark) : Tree → Key
  | leaf scalar => scalar.key mark
  | node tag children => .node tag children.length :: keys mark 0 children

/-- The keys of the children of a marked node one after another, counted from a place on. -/
def keys (mark : Mark) (place : Nat) : List Tree → Key
  | [] => []
  | tree :: rest => key (mark.child place) tree ++ keys mark (place + 1) rest

end

/-- Whether two trees that are different things are equal by value: same tags, same shape, and scalars
that are the same key. -/
def same (a b : Tree) : Bool := decide (a.key (.own 0 []) = b.key (.own 1 []))

end Tree

/-- The key of the tree at a site. -/
def Site.key (site : Site) : Key := site.tree.key site.mark

end Treewalk
