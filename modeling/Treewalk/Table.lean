import Treewalk.Value

/-!
Tables: entries in order of first insertion. An entry is found by its key; writing to a key that is
there replaces the value and keeps both the place and the name of the first insertion. Tables serve
as the contents of hash values and as the frames of variables.
-/

set_option autoImplicit false
set_option relaxedAutoImplicit false

namespace Treewalk

/-- One entry of a table: the key that decides sameness, the value that was used as the name, and the
value stored. -/
structure Entry where
  key : Key
  name : Value
  value : Value
deriving Repr, Inhabited

/-- A table. -/
abbrev Table := List Entry

namespace Table

/-- The value stored under a key. -/
def find? (key : Key) : Table → Option Value
  | [] => none
  | entry :: rest => if entry.key = key then some entry.value else find? key rest

/-- Whether a key is there. -/
def has (key : Key) (table : Table) : Bool := (find? key table).isSome

/-- Stores a value under a key, at the end if the key is new. -/
def insert (key : Key) (name value : Value) : Table → Table
  | [] => [⟨key, name, value⟩]
  | entry :: rest =>
    if entry.key = key then { entry with value := value } :: rest
    else entry :: insert key name value rest

/-- The place of the entry of a key. -/
def place? (key : Key) : Table → Option Nat
  | [] => none
  | entry :: rest => if entry.key = key then some 0 else (place? key rest).map (· + 1)

/-- Removes the entry of a key. -/
def erase (key : Key) : Table → Table
  | [] => []
  | entry :: rest => if entry.key = key then rest else entry :: erase key rest

/-- Inserts the entries of the second table into the first, one after another. -/
def merge (table added : Table) : Table :=
  added.foldl (fun total entry => insert entry.key entry.name entry.value total) table

/-- The table of named values. -/
def ofNames (bindings : List (String × Value)) : Table :=
  bindings.foldl (fun total binding => insert [.text binding.1] (.ofText binding.1) binding.2 total) []

/-- The names of a table in order. -/
def names (table : Table) : List Value := table.map Entry.name

end Table

end Treewalk
