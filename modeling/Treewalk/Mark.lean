import Treewalk.Tree

/-!
Marks and sites. Two values of one kind and content may still be different things, and scripts can
ask whether they are the same one. A mark says which thing a value is: a number that is given out
once, with a path below it for the things that a marked thing is made of, or nothing at all for what
is the same thing wherever it comes up. A site is a tree with the mark of the place where it stands,
so that what a tree holds is the same thing at every reading.
-/

set_option autoImplicit false
set_option relaxedAutoImplicit false

namespace Treewalk

/-- What tells a thing apart from others of the same kind and content. -/
inductive Mark where
  | common
  | own (serial : Nat) (path : List Nat)
deriving DecidableEq, Repr, Inhabited

namespace Mark

/-- The mark of a part of a marked thing. -/
def part (place : Nat) : Mark → Mark
  | common => common
  | own serial path => own serial (place :: path)

/-- The mark of a floating-point number at a marked place: a not-a-number with a label is the same
thing wherever it comes up. -/
def ofFloat (mark : Mark) (x : Binary64) : Mark := if x.isLabelled then common else mark

/-- The mark of the tag of a marked node. -/
def tag (mark : Mark) : Mark := mark.part 0

/-- The mark of the children of a marked node, taken together. -/
def together (mark : Mark) : Mark := mark.part 1

/-- The mark of one child of a marked node. -/
def child (place : Nat) (mark : Mark) : Mark := mark.part (place + 2)

end Mark

/-- A tree with the mark of the place where it stands. -/
structure Site where
  tree : Tree
  mark : Mark
deriving Repr, Inhabited

namespace Site

/-- A place where nothing stands. -/
def absent : Site := ⟨.leaf .null, .common⟩

/-- Trees as the children of a marked node, counted from a place on. -/
def childrenFrom (mark : Mark) : Nat → List Tree → List Site
  | _, [] => []
  | place, tree :: rest => ⟨tree, mark.child place⟩ :: childrenFrom mark (place + 1) rest

/-- Trees as the children of a marked node. -/
def childrenOf (mark : Mark) (trees : List Tree) : List Site := childrenFrom mark 0 trees

/-- The trees below have the mark of their places, and are the same trees in the same order. -/
theorem map_tree_childrenFrom (mark : Mark) (place : Nat) (trees : List Tree) :
    (childrenFrom mark place trees).map Site.tree = trees := by
  induction trees generalizing place with
  | nil => rfl
  | cons tree rest ih => simp [childrenFrom, ih]

end Site

end Treewalk
