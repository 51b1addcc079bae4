import Treewalk.Failure
import Treewalk.Key
import Treewalk.Number.Numeral

/-!
Spellings of trees as raw data. A node is spelled as a list headed by its tag, where the truth values
head the lists of the tags true and false, or as a map with a text tag and its children under
`children`, or its only child under `value` or `text`. `Tree.ofRaw` reads every spelling; `Tree.toRaw`
writes the list form.
-/

set_option autoImplicit false
set_option relaxedAutoImplicit false

namespace Treewalk

/-- The text that a scalar is, if it is one; a symbol is the text of its name. -/
def Scalar.text? : Scalar → Option String
  | .text s => some s
  | .symbol s => some s
  | _ => none

namespace Tree

/-! ### Reading spellings -/

/-- The leaf of a scalar under a node with the given tag: names under `sym` become symbols, and text
under `int` and `float` is read as a number. -/
def payload (tag : String) (scalar : Scalar) : Except Cause Tree :=
  if tag = "sym" then
    if (leaf scalar).isWritable then .ok (leaf (.symbol scalar.plain)) else .error (.plain .value)
  else
    match tag, scalar.text? with
    | "int", some s =>
      match Numeral.int? s with
      | some i => .ok (leaf (.int i))
      | none => .error (.plain .value)
    | "float", some s =>
      match Numeral.float? s with
      | some x => .ok (leaf (.float x))
      | none => .error (.plain .value)
    | _, _ => .ok (leaf scalar)

/-- The children of a built node as children of a node with the given tag: leaves are payloads there,
and nodes stay as they are. -/
def adopted (tag : String) : List Tree → Except Cause (List Tree)
  | [] => .ok []
  | leaf scalar :: rest => do
    let first ← payload tag scalar
    let others ← adopted tag rest
    .ok (first :: others)
  | node inner children :: rest => do
    let others ← adopted tag rest
    .ok (node inner children :: others)

/-- The characters of a text as leaves under a tag. -/
def characters (tag : String) : List Char → Except Cause (List Tree)
  | [] => .ok []
  | c :: rest => do
    let first ← payload tag (.text (String.ofList [c]))
    let others ← characters tag rest
    .ok (first :: others)

/-- A scalar below the given parent tag; without a parent it is a leaf as it stands. -/
def scalarBelow : Option String → Scalar → Except Cause Tree
  | none, scalar => .ok (leaf scalar)
  | some tag, scalar => payload tag scalar

mutual

/-- The tree that raw data spells below the given parent tag, if it has a parent. -/
def read (parent : Option String) : Raw → Except Cause Tree
  | .null => scalarBelow parent .null
  | .bool b => scalarBelow parent (.bool b)
  | .int i => scalarBelow parent (.int i)
  | .float x => scalarBelow parent (.float x)
  | .text s => scalarBelow parent (.text s)
  | .built (leaf scalar) => scalarBelow parent scalar
  | .built (node tag children) => .ok (node tag children)
  | .list [] => .error (.notASpelling (.list []))
  | .list (head :: rest) =>
    match head with
    | .bool b =>
      let tag := if b then "true" else "false"
      (childrenOfItems tag rest).map (node tag)
    | .text tag => (childrenOfItems tag rest).map (node tag)
    | other => .error (.notASpelling (.list (other :: rest)))
  | .map entries =>
    match Raw.lookup "tag" entries with
    | some (.text tag) =>
      let children :=
        match childrenUnder tag "children" entries with
        | some found => found
        | none =>
          match childUnder tag "value" entries with
          | some found => found.map fun child => [child]
          | none =>
            match childUnder tag "text" entries with
            | some found => found.map fun child => [child]
            | none => .ok []
      children.map (node tag)
    | _ => .error (.untagged (.map entries))

/-- The items of a list as children of a node with the given tag. -/
def childrenOfItems (tag : String) : List Raw → Except Cause (List Tree)
  | [] => .ok []
  | item :: rest => do
    let first ← read (some tag) item
    let others ← childrenOfItems tag rest
    .ok (first :: others)

/-- The keys of map entries as children of a node with the given tag. -/
def childrenOfKeys (tag : String) : List (Raw × Raw) → Except Cause (List Tree)
  | [] => .ok []
  | (key, _) :: rest => do
    let first ← read (some tag) key
    let others ← childrenOfKeys tag rest
    .ok (first :: others)

/-- What raw data contributes when it stands under `children`: the items of a list, the characters of
a text, the keys of a map, the children of a built node, and nothing for what is null, false or
zero. -/
def childrenOf (tag : String) : Raw → Except Cause (List Tree)
  | .null => .ok []
  | .bool b => if b then .error (.plain .type) else .ok []
  | .int i => if i = 0 then .ok [] else .error (.plain .type)
  | .float x => if x.isZero then .ok [] else .error (.plain .type)
  | .text s => characters tag s.toList
  | .list items => childrenOfItems tag items
  | .map entries => childrenOfKeys tag entries
  | .built tree =>
    match tree with
    | node _ children => adopted tag children
    | leaf _ => .error (.plain .type)

/-- The children that the value of a key contributes, if the key is there. -/
def childrenUnder (tag name : String) :
    List (Raw × Raw) → Option (Except Cause (List Tree))
  | [] => none
  | (key, value) :: rest =>
    match key with
    | .text own => if own = name then some (childrenOf tag value) else childrenUnder tag name rest
    | _ => childrenUnder tag name rest

/-- The value of a key as an only child, if the key is there. -/
def childUnder (tag name : String) : List (Raw × Raw) → Option (Except Cause Tree)
  | [] => none
  | (key, value) :: rest =>
    match key with
    | .text own => if own = name then some (read (some tag) value) else childUnder tag name rest
    | _ => childUnder tag name rest

end

/-- The tree that raw data spells; a scalar stands for itself. -/
def ofRaw (raw : Raw) : Except Cause Tree := read none raw

/-! ### Writing spellings -/

/-- A scalar as raw data; a symbol is written as the text of its name. -/
def scalarToRaw : Scalar → Raw
  | .null => .null
  | .bool b => .bool b
  | .int i => .int i
  | .float x => .float x
  | .text s => .text s
  | .symbol s => .text s

mutual

/-- The list spelling of a tree. -/
def toRaw : Tree → Raw
  | leaf scalar => scalarToRaw scalar
  | node tag children => .list (.text tag :: childrenToRaw children)

/-- The list spellings of several trees. -/
def childrenToRaw : List Tree → List Raw
  | [] => []
  | child :: rest => toRaw child :: childrenToRaw rest

end

end Tree

end Treewalk
