import Treewalk.Number.Numeral
import Treewalk.Text.Quoted

/-!
Script trees. A tree is a leaf that holds a scalar, or a node with a tag and children; the tag fixes
what each child means. Trees print as parenthesised expressions (`Tree.print`), and the parameter
list of a block prints as a label (`Tree.label`). Both are missing where an integer is too long to be
written (`Tree.written`), and a label also where there is something else than a parameter (`Flaw`).
-/

set_option autoImplicit false
set_option relaxedAutoImplicit false

namespace Treewalk

/-- What a leaf holds. -/
inductive Scalar where
  | null
  | bool (value : Bool)
  | int (value : Int)
  | float (value : Binary64)
  | text (value : String)
  | symbol (name : String)
deriving DecidableEq, Repr, Inhabited

/-- A script tree. -/
inductive Tree where
  | leaf (scalar : Scalar)
  | node (tag : String) (children : List Tree)
deriving Repr, Inhabited

/-! ### Number text -/

/-- Floating-point numbers are written with the fewest digits that read back, positionally from
one ten-thousandth up to ten to the sixteenth, and always with a point or an exponent. -/
def plainLayout : Decimal.Layout where
  leastPositional := -4
  leastScientific := 16
  exponentDigits := 2
  pointBeforeExponent := false
  positiveInfinity := "inf"
  negativeInfinity := "-inf"
  notANumber := "nan"

/-- The decimal text of an integer. -/
def integerText (i : Int) : String :=
  let digits := String.ofList (Decimal.digitChars i.natAbs)
  if i < 0 then "-" ++ digits else digits

/-- Why something cannot be printed: there is something else than a parameter in a parameter list, an
integer has too many digits, or a thing contains itself. -/
inductive Flaw where
  | malformed
  | lengthy
  | endless
deriving DecidableEq, Repr, Inhabited

/-- Whether an integer can be written: there is a limit to how many digits it may have. -/
def isWritable (i : Int) : Bool := decide (i.natAbs < Nat.pow 10 Numeral.digitLimit)

/-- The decimal text of an integer that can be written. -/
def writtenInt (i : Int) : Except Flaw String :=
  if isWritable i then .ok (integerText i) else .error .lengthy

/-- The text of a floating-point number. -/
def Binary64.plain (x : Binary64) : String := x.text plainLayout

namespace Scalar

/-- The text of a scalar when it is joined into other text. -/
def plain : Scalar → String
  | null => "None"
  | bool true => "True"
  | bool false => "False"
  | int i => integerText i
  | float x => x.plain
  | text s => s
  | symbol s => s

/-- The name of a scalar's kind. -/
def kindName : Scalar → String
  | null => "NoneType"
  | bool _ => "bool"
  | int _ => "int"
  | float _ => "float"
  | text _ => "str"
  | symbol _ => "Symbol"

/-- A scalar under a node with the given tag. Names print as symbols; text prints quoted only under
the tags of text literals. -/
def print (tag : String) : Scalar → String
  | null => "nil"
  | bool true => "true"
  | bool false => "false"
  | int i => integerText i
  | float x => x.plain
  | symbol s => ":" ++ s
  | text s => if tag = "str" || tag = "xstr" then Text.inspected s else ":" ++ s

end Scalar

namespace Tree

mutual

/-- A child as it prints under its parent's tag. -/
def printChild (tag : String) : Tree → String
  | leaf scalar => scalar.print tag
  | node inner children => "(" ++ inner ++ printChildren inner children ++ ")"

/-- Children as they print under their parent's tag, each after a space. -/
def printChildren (tag : String) : List Tree → String
  | [] => ""
  | child :: rest => " " ++ printChild tag child ++ printChildren tag rest

end

/-- The printed form of a tree: a parenthesised expression, or a leaf in the form of a name. -/
def print (tree : Tree) : String := printChild "" tree

/-- The text of a tree when it is joined into other text. -/
def plain : Tree → String
  | leaf scalar => scalar.plain
  | node tag children => print (node tag children)

/-- Whether a tree is a node. -/
def isNode : Tree → Bool
  | leaf _ => false
  | node _ _ => true

/-- Whether a tree is the null leaf, which stands for an absent child. -/
def isAbsent : Tree → Bool
  | leaf .null => true
  | _ => false

/-- Whether a tree is a node with the given tag. -/
def hasTag (tag : String) : Tree → Bool
  | leaf _ => false
  | node own _ => own == tag

/-- The number of levels of a tree, leaves counted as a level. -/
def height : Tree → Nat
  | leaf _ => 1
  | node _ children => heightOfChildren children + 1
where
  /-- The greatest height among children. -/
  heightOfChildren : List Tree → Nat
    | [] => 0
    | child :: rest => max child.height (heightOfChildren rest)

/-! ### Written forms -/

mutual

/-- Whether all integers in a tree can be written. -/
def isWritable : Tree → Bool
  | leaf (.int i) => Treewalk.isWritable i
  | leaf _ => true
  | node _ children => areWritable children

/-- Whether all integers in trees can be written. -/
def areWritable : List Tree → Bool
  | [] => true
  | child :: rest => child.isWritable && areWritable rest

end

/-- A text of a tree, which needs all integers in it to be written. -/
def written (text : Tree → String) (tree : Tree) : Except Flaw String :=
  if tree.isWritable then .ok (text tree) else .error .lengthy

/-! ### Labels of parameter lists -/

/-- The text of the name among the children of a parameter, which may be without one. -/
def nameText : List Tree → Except Flaw String
  | [] => .ok ""
  | first :: _ => first.written plain

mutual

/-- The label of a parameter; a leaf is no parameter. -/
def parameterLabel : Tree → Except Flaw String
  | leaf _ => .error .malformed
  | node tag children =>
    if tag = "procarg0" && (children.head?.map isNode).getD false then
      (parameterLabels children).map fun labels =>
        match labels with
        | [only] => only
        | several => "(" ++ ", ".intercalate several ++ ")"
    else if tag = "mlhs" then
      (parameterLabels children).map fun labels => "(" ++ ", ".intercalate labels ++ ")"
    else (nameText children).map fun name => if tag = "restarg" then "*" ++ name else name

/-- The labels of several parameters, if each of them is one. -/
def parameterLabels : List Tree → Except Flaw (List String)
  | [] => .ok []
  | parameter :: rest =>
    match parameterLabel parameter with
    | .error flaw => .error flaw
    | .ok label => (parameterLabels rest).map (label :: ·)

end

/-- The printed form of a block with the given parameter list, if the list is well formed. -/
def label : Tree → Except Flaw String
  | leaf .null => .ok "#<Block>"
  | leaf _ => .error .malformed
  | node _ parameters =>
    (parameterLabels parameters).map fun labels =>
      if labels.isEmpty then "#<Block>" else "#<Block |" ++ ", ".intercalate labels ++ "|>"

end Tree

end Treewalk
