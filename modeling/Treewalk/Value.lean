import Treewalk.Key

/-!
Values of a running script. Immutable values are held directly, with the mark of the thing they are;
lists, tables and other mutable things live in a heap and are held by address, and closures by their
index among the closures made so far. What of the interpreter itself a block leads to is held by the
block. Classes and functions of the host are held by name, and a method by its receiver and name.
`Value.identity` decides whether two values are the same thing.
-/

set_option autoImplicit false
set_option relaxedAutoImplicit false

namespace Treewalk

/-- A value. -/
inductive Value where
  | nil
  | bool (value : Bool)
  | int (value : Int) (mark : Mark)
  | float (value : Binary64) (mark : Mark)
  | text (value : String) (mark : Mark)
  | symbol (name : String) (mark : Mark)
  | tuple (items : List Value) (mark : Mark)
  | range (first last : Value) (exclusive : Bool) (mark : Mark)
  | regexp (pattern : Regexp)
  | bytes (data : List UInt8) (mark : Mark)
  | progression (start stop step : Int) (mark : Mark)
  | node (tag : String) (children : List Tree) (mark : Mark)
  | cell (address : Nat)
  | closure (index : Nat)
  | inner (index : Nat) (part : Inner)
  | hostClass (name : String)
  | function (name : String)
  | method (receiver : Value) (name : String) (mark : Mark)
deriving Repr, Inhabited

namespace Value

/-- Whether an integer is the same thing wherever it comes up. -/
def isSmall (i : Int) : Bool := decide (-5 ≤ i) && decide (i ≤ 256)

/-- Whether a text that is cut out of another one is the same thing wherever it comes up: the empty
text is, and a single character of the first 256. -/
def isShared (s : String) : Bool :=
  match s.toList with
  | [] => true
  | [c] => decide (c.toNat < 256)
  | _ => false

/-- A small integer, or one whose thing does not matter. -/
def ofInt (i : Int) : Value := int i .common

/-- A text of which there is only one. -/
def ofText (s : String) : Value := text s .common

/-- An integer with a mark, unless it is a small one. -/
def markedInt (i : Int) (mark : Mark) : Value := if isSmall i then ofInt i else int i mark

/-- A text with a mark, unless it is a shared one. -/
def markedText (s : String) (mark : Mark) : Value := if isShared s then ofText s else text s mark

end Value

/-- The value of a scalar with a mark. -/
def Scalar.toValue (mark : Mark) : Scalar → Value
  | .null => .nil
  | .bool b => .bool b
  | .int i => Value.markedInt i mark
  | .float x => .float x (mark.ofFloat x)
  | .text s => Value.markedText s mark
  | .symbol s => .symbol s mark

/-- The tree at a site as a value: a leaf is the value of its scalar, a node is a value itself. -/
def Site.toValue (site : Site) : Value :=
  match site.tree with
  | .leaf scalar => scalar.toValue site.mark
  | .node tag children => .node tag children site.mark

/-- The text that a leaf is, or the name of a symbol. -/
def Tree.text? : Tree → Option String
  | .leaf (.text s) => some s
  | .leaf (.symbol s) => some s
  | _ => none

namespace Value

/-- Whether a value is nil. -/
def isNil : Value → Bool
  | nil => true
  | _ => false

/-- Whether a value counts as true in a condition: all but nil and false do. -/
def isTruthy : Value → Bool
  | nil => false
  | bool b => b
  | _ => true

/-- Whether a value can be called. -/
def isCallable : Value → Bool
  | closure _ => true
  | hostClass _ => true
  | function _ => true
  | method _ _ _ => true
  | _ => false

/-- The integer that a value is; truth values are zero and one. -/
def integer? : Value → Option Int
  | int i _ => some i
  | bool b => some (if b then 1 else 0)
  | _ => none

/-- The number that a value is; truth values are zero and one. -/
def number? : Value → Option Number
  | int i _ => some (.int i)
  | bool b => some (.int (if b then 1 else 0))
  | float x _ => some (.float x)
  | _ => none

/-- The text that a value is, or the name of a symbol. -/
def text? : Value → Option String
  | text s _ => some s
  | symbol s _ => some s
  | _ => none

/-- The children of a marked node as values. -/
def childrenOf (mark : Mark) (children : List Tree) : List Value :=
  (Site.childrenOf mark children).map Site.toValue

/-! ### Things -/

mutual

/-- The key of a value as a thing: two values are the same thing exactly when these keys are equal. -/
def identity : Value → Key
  | nil => [.nil]
  | bool b => [.named "bool" (if b then "true" else "false")]
  | int i mark => Key.thing mark [.integer i]
  | float x mark => Key.thing mark [.fraction x]
  | text s mark => Key.thing mark [.text s]
  | symbol s mark => Key.thing mark [.named "symbol" s]
  | tuple items mark => Key.thing mark (.tuple items.length :: identities items)
  | range first last exclusive mark =>
    Key.thing mark (.range exclusive :: identity first ++ identity last)
  | regexp pattern => [.regexp pattern]
  | bytes data mark => Key.thing mark [.bytes data]
  | progression start stop step mark =>
    Key.thing mark [.named "progression" "", .integer start, .integer stop, .integer step]
  | node tag children mark => Key.thing mark ((Tree.node tag children).key mark)
  | cell address => [.cell address]
  | closure index => [.closure index]
  | inner index part => [.inner index part]
  | hostClass name => [.named "class" name]
  | function name => [.named "function" name]
  | method receiver name mark => Key.thing mark (.member name :: identity receiver)

/-- The keys of several values as things, one after another. -/
def identities : List Value → Key
  | [] => []
  | item :: rest => identity item ++ identities rest

end

/-- Whether two values are the same thing. -/
def identical (a b : Value) : Bool := decide (a.identity = b.identity)

end Value

end Treewalk
