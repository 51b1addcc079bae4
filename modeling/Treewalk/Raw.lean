import Treewalk.Tree

/-!
Raw data, as documents describe it: scalars, lists and maps whose entries keep their order. A tree
that is already built may stand among raw data too. `Raw.literal` is the text of raw data in
messages.
-/

set_option autoImplicit false
set_option relaxedAutoImplicit false

namespace Treewalk

/-- Raw data. -/
inductive Raw where
  | null
  | bool (value : Bool)
  | int (value : Int)
  | float (value : Binary64)
  | text (value : String)
  | list (items : List Raw)
  | map (entries : List (Raw × Raw))
  | built (tree : Tree)
deriving Repr, Inhabited

/-! ### Literals -/

namespace Literal

/-- A truth value as a literal. -/
def bool (b : Bool) : String := if b then "True" else "False"

/-- A list of literals as a literal. -/
def list (items : List String) : String := "[" ++ ", ".intercalate items ++ "]"

/-- A tuple of literals as a literal; a single item is followed by a comma. -/
def tuple : List String → String
  | [only] => "(" ++ only ++ ",)"
  | items => "(" ++ ", ".intercalate items ++ ")"

/-- An entry of a table of literals. -/
def entry (key value : String) : String := key ++ ": " ++ value

/-- A table of literals as a literal. -/
def table (entries : List String) : String := "\x7b" ++ ", ".intercalate entries ++ "\x7d"

end Literal

namespace Raw

mutual

/-- The literal of raw data. -/
def literal : Raw → String
  | null => "None"
  | bool b => Literal.bool b
  | int i => integerText i
  | float x => x.plain
  | text s => Text.literal s
  | list items => Literal.list (literals items)
  | map entries => Literal.table (entryLiterals entries)
  | built tree => tree.plain

/-- The literals of several raw data. -/
def literals : List Raw → List String
  | [] => []
  | item :: rest => literal item :: literals rest

/-- The literals of map entries. -/
def entryLiterals : List (Raw × Raw) → List String
  | [] => []
  | (key, value) :: rest => Literal.entry (literal key) (literal value) :: entryLiterals rest

end

/-- The value of a text key among map entries. -/
def lookup (name : String) : List (Raw × Raw) → Option Raw
  | [] => none
  | (text own, value) :: rest => if own = name then some value else lookup name rest
  | _ :: rest => lookup name rest

end Raw

end Treewalk
