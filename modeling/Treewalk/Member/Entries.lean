import Treewalk.Member.Argument

/-!
Methods of tables. Entries that come one by one are stored one by one, so that a failure half-way shows
in the table.
-/

set_option autoImplicit false
set_option relaxedAutoImplicit false

namespace Treewalk

namespace Member

/-- Inserts pairs into a table one by one, storing the table after each. The first argument bounds the
number of pairs. -/
def insertPairs (receiver : Value) (removals : List Nat) :
    Nat → Table → Iteration → Compute Unit
  | 0, _, _ => pure ()
  | fuel + 1, table, iteration => do
    match ← iteration.next with
    | none => return ()
    | some (item, rest) =>
      let (name, value) ← item.pair
      let changed := table.insert (← Compute.key name) name value
      Compute.store receiver (.table changed removals)
      insertPairs receiver removals fuel changed rest

/-- Inserts the entries of a table, or the pairs that a value lists. -/
def updateTable (receiver : Value) (table : Table) (removals : List Nat) (other : Value) :
    Compute Unit := do
  match ← Compute.cell? other with
  | some (.table entries _) => Compute.store receiver (.table (table.merge entries) removals)
  | _ => insertPairs receiver removals Iteration.longest table (← other.iteration)

/-- Takes the entry of a key out of a table and gives its value, if there is one. -/
def takeEntry? (receiver : Value) (table : Table) (removals : List Nat) (key : Key) :
    Compute (Option Value) := do
  match table.find? key, table.place? key with
  | some value, some place =>
    Compute.store receiver (.table (table.erase key) (place :: removals))
    return some value
  | _, _ => return none

/-- A method of a table. -/
def runTable (receiver : Value) (table : Table) (removals : List Nat) (name : String)
    (arguments : List Value) : Compute Value := do
  match name, arguments with
  | "get", [wanted] => return (table.find? (← Compute.key wanted)).getD .nil
  | "get", [wanted, missing] => return (table.find? (← Compute.key wanted)).getD missing
  | "pop", [wanted] =>
    if table.isEmpty then Compute.refuse .entry
    else
      match ← takeEntry? receiver table removals (← Compute.key wanted) with
      | some value => return value
      | none => Compute.refuse .entry
  | "pop", [wanted, missing] =>
    if table.isEmpty then return missing
    else
      let found ← takeEntry? receiver table removals (← Compute.key wanted)
      return found.getD missing
  | "setdefault", wanted :: rest =>
    match rest with
    | [] | [_] =>
      let key ← Compute.key wanted
      match table.find? key with
      | some value => return value
      | none =>
        let value := rest.headD .nil
        Compute.store receiver (.table (table.insert key wanted value) removals)
        return value
    | _ => Compute.refuse .type
  | "update", [] => return .nil
  | "update", [other] =>
    updateTable receiver table removals other
    return .nil
  | "copy", [] => Compute.newTable table
  | _, _ => Compute.refuse .type

/-- Files a block in a table as an entry of its own. -/
def fileBlock (table block : Value) : Compute Unit := do
  match ← Compute.cell? table with
  | some (.table entries removals) =>
    let name := Value.ofText "block"
    Compute.store table (.table (entries.insert (← Compute.key name) name block) removals)
  | _ => Compute.refuse .type

end Member

end Treewalk
