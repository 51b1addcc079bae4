import Treewalk.Proofs.RenamedMemory
import Treewalk.Proofs.TableNames

/-!
Computations on memories that are numbered differently. Two computations are alike when, on matching
memories, they end alike and leave matching memories, unless the left one comes to have more cells than
the numbering is meant for (`Compute.Alike`). A computation that is given what it is given under other
numbers is alike: it looks at addresses only to tell them apart and to follow them. There is one lemma
for each computation, in the order of the modules that define them.
-/

set_option autoImplicit false
set_option relaxedAutoImplicit false

namespace Treewalk

/-- Nothing is taken away from a memory: it has at least as many cells, and the closures are still
there. -/
structure Memory.Swells (before after : Memory) : Prop where
  cells : before.heap.size ≤ after.heap.size
  closures : before.closures.toList <+: after.closures.toList

namespace Memory.Swells

theorem refl (memory : Memory) : memory.Swells memory := ⟨Nat.le_refl _, List.prefix_rfl⟩

theorem trans {first middle last : Memory} (hfirst : first.Swells middle)
    (hlast : middle.Swells last) : first.Swells last :=
  ⟨hfirst.cells.trans hlast.cells, hfirst.closures.trans hlast.closures⟩

end Memory.Swells

namespace Compute

variable {α β : Type} [Renamable α] [Renamable β] {numbering : Numbering}

/-- Two computations that do alike on memories that are numbered differently. -/
structure Alike (numbering : Numbering) (first second : Compute α) : Prop where
  swells : ∀ memory : Memory, memory.Swells (first.run.run memory).2
  ends : ∀ (limit : Nat) (left right : Memory), numbering.Matches limit left right →
    limit < (first.run.run left).2.heap.size ∨
      numbering.Matches limit (first.run.run left).2 (second.run.run right).2 ∧
        (second.run.run right).1 = rename numbering (first.run.run left).1

theorem alike_pure (result : α) :
    Alike numbering (pure result : Compute α) (pure (rename numbering result)) :=
  ⟨fun memory ↦ .refl memory, fun _ _ _ hmatches ↦ Or.inr ⟨hmatches, rfl⟩⟩

theorem alike_pure_of_eq {result other : α} (hother : other = rename numbering result) :
    Alike numbering (pure result : Compute α) (pure other) :=
  hother ▸ alike_pure result

theorem alike_throw (cause : Cause) :
    Alike numbering (throw cause : Compute α) (throw (rename numbering cause)) :=
  ⟨fun memory ↦ .refl memory, fun _ _ _ hmatches ↦ Or.inr ⟨hmatches, rfl⟩⟩

theorem alike_refuse (kind : Kind) :
    Alike numbering (refuse kind : Compute α) (refuse kind) :=
  alike_throw (.plain kind)

/-- What is done with the memory that is looked at has to be alike whenever the memories mirror each
other. -/
theorem alike_get {after after' : Memory → Compute β}
    (hafter : ∀ left right, numbering.Mirrors left right →
      Alike numbering (after left) (after' right)) :
    Alike numbering (get >>= after : Compute β) (get >>= after') where
  swells memory := by
    obtain ⟨right, hmirrors⟩ := numbering.exists_mirrors memory
    exact (hafter memory right hmirrors).swells memory
  ends limit left right hmatches := (hafter left right hmatches.toMirrors).ends limit left right hmatches

/-- One computation after another, and another one after its like. -/
theorem alike_bind {first second : Compute α} {after after' : α → Compute β}
    (hfirst : Alike numbering first second)
    (hafter : ∀ result, Alike numbering (after result) (after' (rename numbering result))) :
    Alike numbering (first >>= after) (second >>= after') := by
  have hswells (memory : Memory) : (first.run.run memory).2.Swells
      ((first >>= after).run.run memory).2 := by
    rw [run_bind]
    cases (first.run.run memory).1 with
    | error cause => exact .refl _
    | ok result => exact (hafter result).swells _
  refine ⟨fun memory ↦ (hfirst.swells memory).trans (hswells memory), fun limit left right hmatches ↦ ?_⟩
  rcases hfirst.ends limit left right hmatches with hover | ⟨hchanged, hended⟩
  · exact Or.inl (hover.trans_le (hswells left).cells)
  · rw [run_bind, run_bind, hended]
    cases (first.run.run left).1 with
    | error cause => exact Or.inr ⟨hchanged, rfl⟩
    | ok result => exact (hafter result).ends limit _ _ hchanged

theorem alike_mapM {γ δ : Type} {relabel : γ → δ} {step : γ → Compute β} {step' : δ → Compute β}
    (hstep : ∀ item, Alike numbering (step item) (step' (relabel item))) (items : List γ) :
    Alike numbering (items.mapM step) ((items.map relabel).mapM step') := by
  induction items with
  | nil => exact alike_pure []
  | cons item rest ih =>
    rw [List.map_cons, List.mapM_cons, List.mapM_cons]
    exact alike_bind (hstep item) fun first ↦ alike_bind ih fun others ↦ alike_pure (first :: others)

theorem alike_mapM_same {γ : Type} {step step' : γ → Compute β}
    (hstep : ∀ item, Alike numbering (step item) (step' item)) (items : List γ) :
    Alike numbering (items.mapM step) (items.mapM step') := by
  have halike : Alike numbering (items.mapM step) ((items.map id).mapM step') :=
    alike_mapM hstep items
  rwa [List.map_id] at halike

theorem alike_view (value : Value) :
    Alike numbering (view value) (view (rename numbering value)) :=
  alike_get fun _ _ hmirrors ↦ alike_pure_of_eq (hmirrors.view value)

theorem alike_key (value : Value) :
    Alike numbering (key value) (key (rename numbering value)) := by
  apply alike_get
  intro left right hmirrors
  rw [hmirrors.key?]
  cases left.key? value with
  | none => exact alike_refuse _
  | some key => exact alike_pure key

theorem alike_cell? (value : Value) :
    Alike numbering (cell? value) (cell? (rename numbering value)) :=
  alike_get fun _ _ hmirrors ↦ alike_pure_of_eq (hmirrors.cell?_rename value)

theorem alike_mint : Alike numbering mint mint where
  swells memory := ⟨Nat.le_refl _, List.prefix_rfl⟩
  ends limit left right hmatches := by
    refine Or.inr ⟨hmatches.mint, ?_⟩
    change Except.ok right.mint.1 = Except.ok left.mint.1
    rw [Memory.mint, Memory.mint, hmatches.marks]

theorem alike_allocate (cell : Cell) :
    Alike numbering (allocate cell) (allocate (rename numbering cell)) where
  swells memory := by
    refine ⟨?_, List.prefix_rfl⟩
    change memory.heap.size ≤ (memory.heap.push cell).size
    simp
  ends limit left right hmatches := by
    by_cases hlimit : left.heap.size < limit
    · obtain ⟨hvalue, hchanged⟩ := hmatches.allocate hlimit cell
      exact Or.inr ⟨hchanged, congrArg Except.ok hvalue⟩
    · left
      change limit < (left.heap.push cell).size
      rw [Array.size_push]
      omega

theorem alike_store (value : Value) (cell : Cell) :
    Alike numbering (store value cell) (store (rename numbering value) (rename numbering cell)) := by
  cases value with
  | cell address =>
    refine ⟨fun memory ↦ ⟨?_, List.prefix_rfl⟩, fun limit left right hmatches ↦ Or.inr ⟨?_, rfl⟩⟩
    · change memory.heap.size ≤ (memory.heap.setIfInBounds address cell).size
      simp
    · exact hmatches.store address cell
  | tuple items mark =>
    rw [Value.rename_tuple]
    exact alike_pure ()
  | _ => exact alike_pure ()

/-! ### New values -/

theorem alike_newList (items : List Value) :
    Alike numbering (newList items) (newList (rename numbering items)) :=
  alike_allocate (.list items)

theorem alike_newTable (entries : Table) :
    Alike numbering (newTable entries) (newTable (rename numbering entries)) :=
  alike_allocate (.table entries [])

theorem alike_newInt (i : Int) : Alike numbering (newInt i) (newInt i) := by
  unfold newInt
  split
  · exact alike_pure (Value.ofInt i)
  · exact alike_bind alike_mint fun mark ↦ alike_pure (Value.int i mark)

theorem alike_newCount (n : Nat) : Alike numbering (newCount n) (newCount n) := alike_newInt n

theorem alike_newFloat (x : Binary64) : Alike numbering (newFloat x) (newFloat x) :=
  alike_bind alike_mint fun mark ↦ alike_pure (Value.float x mark)

theorem alike_newNumber (number : Number) :
    Alike numbering (newNumber number) (newNumber number) := by
  cases number with
  | int i => exact alike_newInt i
  | float x => exact alike_newFloat x

theorem alike_newText (s : String) : Alike numbering (newText s) (newText s) := by
  unfold newText
  split
  · exact alike_pure (Value.ofText s)
  · exact alike_bind alike_mint fun mark ↦ alike_pure (Value.text s mark)

theorem alike_newPart (s : String) : Alike numbering (newPart s) (newPart s) := by
  unfold newPart
  split
  · exact alike_pure (Value.ofText s)
  · exact alike_bind alike_mint fun mark ↦ alike_pure (Value.text s mark)

theorem alike_newSymbol (s : String) : Alike numbering (newSymbol s) (newSymbol s) :=
  alike_bind alike_mint fun mark ↦ alike_pure (Value.symbol s mark)

theorem alike_newTuple (items : List Value) :
    Alike numbering (newTuple items) (newTuple (rename numbering items)) := by
  unfold newTuple
  rw [isEmpty_rename]
  split
  · exact alike_pure (Value.tuple [] .common)
  · exact alike_bind alike_mint fun mark ↦ alike_pure_of_eq (Value.rename_tuple items mark).symm

theorem alike_newBytes (data : List UInt8) : Alike numbering (newBytes data) (newBytes data) :=
  alike_bind alike_mint fun mark ↦ alike_pure (Value.bytes data mark)

theorem alike_newBytePart (data : List UInt8) :
    Alike numbering (newBytePart data) (newBytePart data) := by
  unfold newBytePart
  split
  · exact alike_pure (Value.bytes data .common)
  · exact alike_newBytes data

theorem alike_newRange (first last : Value) (exclusive : Bool) :
    Alike numbering (newRange first last exclusive)
      (newRange (rename numbering first) (rename numbering last) exclusive) :=
  alike_bind alike_mint fun mark ↦ alike_pure (Value.range first last exclusive mark)

theorem alike_newProgression (start stop step : Int) :
    Alike numbering (newProgression start stop step) (newProgression start stop step) :=
  alike_bind alike_mint fun mark ↦ alike_pure (Value.progression start stop step mark)

theorem alike_newMethod (receiver : Value) (name : String) :
    Alike numbering (newMethod receiver name) (newMethod (rename numbering receiver) name) :=
  alike_bind alike_mint fun mark ↦ alike_pure (Value.method receiver name mark)

/-! ### Values as text -/

theorem alike_ofPrinted (printed : Except Flaw String) :
    Alike numbering (ofPrinted printed) (ofPrinted printed) := by
  cases printed with
  | error flaw => exact alike_refuse flaw.kind
  | ok s => exact alike_pure s

theorem alike_plain (value : Value) :
    Alike numbering (plain value) (plain (rename numbering value)) := by
  refine alike_bind (alike_view value) fun datum ↦ ?_
  rw [Datum.plain_rename]
  exact alike_ofPrinted datum.plain

theorem alike_asText (value : Value) :
    Alike numbering (asText value) (asText (rename numbering value)) := by
  have hshown : Alike numbering (plain value >>= newText)
      (plain (rename numbering value) >>= newText) :=
    alike_bind (alike_plain value) alike_newText
  cases value with
  | text s mark => exact alike_pure (Value.text s mark)
  | bool b => exact alike_pure (Value.ofText (Literal.bool b))
  | tuple items mark =>
    rw [Value.rename_tuple] at hshown ⊢
    exact hshown
  | _ => exact hshown

theorem alike_interpolated (value : Value) :
    Alike numbering (interpolated value) (interpolated (rename numbering value)) := by
  have hshown : Alike numbering (asText value) (asText (rename numbering value)) :=
    alike_asText value
  cases value with
  | nil => exact alike_pure (Value.ofText "")
  | bool b => exact alike_pure (Value.ofText (if b then "true" else "false"))
  | tuple items mark =>
    rw [Value.rename_tuple] at hshown ⊢
    exact hshown
  | _ => exact hshown

theorem alike_joined (texts : List Value) :
    Alike numbering (joined texts) (joined (rename numbering texts)) := by
  have hjoined : String.join ((rename numbering texts).map fun value ↦ value.text?.getD "") =
      String.join (texts.map fun value ↦ value.text?.getD "") := by
    simp [rename_list, Function.comp_def]
  match texts with
  | [only] => exact alike_asText only
  | [] => exact alike_newText _
  | first :: second :: rest =>
    rw [rename_cons, rename_cons] at hjoined ⊢
    unfold joined
    dsimp only
    rw [hjoined]
    exact alike_newText _

end Compute

open Compute

section

variable {numbering : Numbering}

/-! ### Spellings as values -/

mutual

theorem Tree.alike_spelled (mark : Mark) (tree : Tree) :
    Alike numbering (tree.spelled mark) (tree.spelled mark) := by
  match tree with
  | .leaf (.symbol s) => exact alike_newText s
  | .leaf .null | .leaf (.bool _) | .leaf (.int _) | .leaf (.float _) | .leaf (.text _) =>
    exact alike_pure_of_eq (rename_scalar _ _).symm
  | .node tag children =>
    unfold Tree.spelled
    refine alike_bind (Tree.alike_spelledAll mark 0 children) fun items ↦ ?_
    have hnew : Alike numbering (newList (Value.markedText tag mark.tag :: items))
        (newList (rename numbering (Value.markedText tag mark.tag :: items))) := alike_newList _
    rwa [rename_cons, Value.rename_markedText] at hnew

theorem Tree.alike_spelledAll (mark : Mark) (place : Nat) (trees : List Tree) :
    Alike numbering (Tree.spelledAll mark place trees) (Tree.spelledAll mark place trees) := by
  match trees with
  | [] => exact alike_pure []
  | tree :: rest =>
    unfold Tree.spelledAll
    refine alike_bind (Tree.alike_spelled _ tree) fun first ↦ ?_
    exact alike_bind (Tree.alike_spelledAll mark _ rest) fun others ↦ alike_pure (first :: others)

end

/-! ### Going through a value at once -/

namespace Value

theorem alike_characters (s : String) : Alike numbering (characters s) (characters s) :=
  alike_mapM_same (fun _ ↦ alike_newPart _) s.toList

theorem alike_progressionItems (start stop step : Int) :
    Alike numbering (progressionItems start stop step) (progressionItems start stop step) := by
  unfold progressionItems
  split
  · exact alike_mapM_same alike_newInt _
  · exact alike_refuse _

theorem alike_rangeBounds (first last : Value) (exclusive : Bool) :
    Alike numbering (rangeBounds first last exclusive)
      (rangeBounds (rename numbering first) (rename numbering last) exclusive) := by
  have hrefused : Alike numbering
      (do throw (.notEnumerable ((← get).kindName first)) : Compute (Int × Int))
      (do throw (.notEnumerable ((← get).kindName (rename numbering first)))) := by
    apply alike_get
    intro left right hmirrors
    rw [hmirrors.kindName]
    exact alike_throw (.notEnumerable (left.kindName first))
  unfold rangeBounds
  rw [integer?_rename, integer?_rename]
  cases first.integer? with
  | none => exact hrefused
  | some a =>
    cases last.integer? with
    | none => exact hrefused
    | some b => exact alike_pure (a, rangeStop b exclusive)

theorem alike_enumerate (first last : Value) (exclusive : Bool) :
    Alike numbering (enumerate first last exclusive)
      (enumerate (rename numbering first) (rename numbering last) exclusive) :=
  alike_bind (alike_rangeBounds first last exclusive) fun _ ↦ alike_progressionItems _ _ 1

theorem alike_items (value : Value) :
    Alike numbering value.items (rename numbering value).items := by
  cases value with
  | text s mark => exact alike_characters s
  | symbol s mark => exact alike_characters s
  | tuple items mark =>
    rw [rename_tuple]
    exact alike_pure items
  | range first last exclusive mark => exact alike_enumerate first last exclusive
  | bytes data mark => exact alike_pure_of_eq (rename_byteItems data).symm
  | progression start stop step mark => exact alike_progressionItems start stop step
  | node tag children mark => exact alike_pure_of_eq (rename_childrenOf mark children).symm
  | cell address =>
    refine alike_bind (alike_cell? (.cell address)) fun found ↦ ?_
    match found with
    | some (.list items) => exact alike_pure items
    | some (.table entries removals) => exact alike_pure_of_eq (Table.rename_names entries).symm
    | some (.queue items revision) => exact alike_pure items
    | some (.buffer data) => exact alike_pure_of_eq (rename_byteItems data).symm
    | some (.object className title fields) => exact alike_refuse _
    | none => exact alike_refuse _
  | _ => exact alike_refuse _

theorem alike_sequence? (value : Value) :
    Alike numbering value.sequence? (rename numbering value).sequence? := by
  cases value with
  | tuple items mark =>
    rw [rename_tuple]
    exact alike_pure (some items)
  | progression start stop step mark =>
    exact alike_bind (alike_progressionItems start stop step) fun items ↦ alike_pure (some items)
  | cell address =>
    refine alike_bind (alike_cell? (.cell address)) fun found ↦ ?_
    match found with
    | some (.list items) => exact alike_pure (some items)
    | some (.queue items revision) => exact alike_pure (some items)
    | some (.table entries removals) | some (.buffer data) | some (.object className title fields)
    | none => exact alike_pure none
  | _ => exact alike_pure none

theorem alike_pairLists (table : Table) :
    Alike numbering (pairLists table) (pairLists (rename numbering table)) := by
  induction table with
  | nil => exact alike_pure []
  | cons entry rest ih =>
    refine alike_bind (alike_newList [entry.name, entry.value]) fun first ↦ ?_
    exact alike_bind ih fun others ↦ alike_pure (first :: others)

/-- What is not nil and no range is spread as its items, or its pairs, or itself. -/
theorem alike_spreadItems (value : Value) :
    Alike numbering
      (value.sequence? >>= fun found ↦
        match found with
        | some items => pure items
        | none => do
          match ← Compute.cell? value with
          | some (.table entries _) => pairLists entries
          | _ => return [value])
      ((rename numbering value).sequence? >>= fun found ↦
        match found with
        | some items => pure items
        | none => do
          match ← Compute.cell? (rename numbering value) with
          | some (.table entries _) => pairLists entries
          | _ => return [rename numbering value]) := by
  refine alike_bind (alike_sequence? value) fun found ↦ ?_
  cases found with
  | some items => exact alike_pure items
  | none =>
    refine alike_bind (alike_cell? value) fun cell ↦ ?_
    rcases cell with _ | cell
    · exact alike_pure [value]
    · cases cell with
      | table entries removals => exact alike_pairLists entries
      | _ => exact alike_pure [value]

theorem alike_spread (value : Value) :
    Alike numbering value.spread (rename numbering value).spread := by
  have hother : Alike numbering _ _ := alike_spreadItems value
  cases value with
  | nil => exact alike_pure []
  | range first last exclusive mark => exact alike_enumerate first last exclusive
  | tuple items mark =>
    rw [rename_tuple] at hother ⊢
    exact hother
  | _ => exact hother

theorem alike_toSequence (value : Value) :
    Alike numbering value.toSequence (rename numbering value).toSequence := by
  refine alike_bind (alike_sequence? value) fun found ↦ ?_
  cases found with
  | some items => exact alike_pure items
  | none => exact alike_pure [value]

end Value

/-! ### Going through a value item by item -/

/-- What is left of an iteration, with the address that it goes through renamed. -/
def Iteration.renamed (numbering : Numbering) : Iteration → Iteration
  | known items => known (rename numbering items)
  | reading address place => reading (numbering.cell address) place
  | queue address place revision => queue (numbering.cell address) place revision
  | table address place size left removals =>
    table (numbering.cell address) place size left removals
  | characters rest => characters rest
  | steps next step left => steps next step left

instance : Renamable Iteration := ⟨Iteration.renamed⟩

namespace Iteration

theorem alike_nextName (address place size left seen : Nat) (entries : Table)
    (removals : List Nat) :
    Alike numbering (nextName address place size left seen entries removals)
      (nextName (numbering.cell address) place size left seen (rename numbering entries)
        removals) := by
  unfold nextName
  rw [length_rename]
  split
  · exact alike_refuse _
  · dsimp only
    rw [getElem?_rename]
    cases entries[shifted place (removals.take (removals.length - seen))]? with
    | none => exact alike_pure none
    | some entry =>
      simp only [rename_some, name_rename]
      split
      · exact alike_refuse _
      · exact alike_pure (some (entry.name, Iteration.table address _ size _ removals.length))

theorem step?_rename (items : List Value) (place : Nat) (after : Iteration) :
    step? (rename numbering items) place (rename numbering after) =
      rename numbering (step? items place after) := by
  unfold step?
  rw [getElem?_rename]
  cases items[place]? <;> rfl

theorem alike_next (iteration : Iteration) :
    Alike numbering iteration.next (rename numbering iteration).next := by
  match iteration with
  | .known [] | .characters [] | .steps _ _ 0 => exact alike_pure none
  | .known (item :: rest) => exact alike_pure (some (item, known rest))
  | .characters (c :: rest) =>
    exact alike_bind (alike_newPart _) fun item ↦ alike_pure (some (item, characters rest))
  | .steps value step (left + 1) =>
    exact alike_bind (alike_newInt value) fun item ↦
      alike_pure (some (item, steps (value + step) step left))
  | .reading address place =>
    refine alike_bind (alike_cell? (.cell address)) fun found ↦ ?_
    match found with
    | some (.list items) =>
      exact alike_pure_of_eq (step?_rename items place (reading address (place + 1)))
    | some (.buffer data) =>
      refine alike_pure_of_eq ?_
      rw [← step?_rename, rename_byteItems]
      rfl
    | some (.table entries removals) | some (.queue items revision)
    | some (.object className title fields) | none => exact alike_pure none
  | .queue address place revision =>
    refine alike_bind (alike_cell? (.cell address)) fun found ↦ ?_
    match found with
    | some (.queue items now) =>
      simp only [rename_some, Cell.rename_queue]
      split
      · exact alike_pure_of_eq (step?_rename items place (queue address (place + 1) revision))
      · exact alike_refuse _
    | some (.table entries removals) | some (.list items) | some (.buffer data)
    | some (.object className title fields) | none => exact alike_pure none
  | .table address place size left seen =>
    refine alike_bind (alike_cell? (.cell address)) fun found ↦ ?_
    match found with
    | some (.table entries removals) => exact alike_nextName address place size left seen entries removals
    | some (.list items) | some (.queue items revision) | some (.buffer data)
    | some (.object className title fields) | none => exact alike_pure none

theorem alike_take (count : Nat) (iteration : Iteration) :
    Alike numbering (iteration.take count) ((rename numbering iteration).take count) := by
  induction count generalizing iteration with
  | zero => exact alike_pure []
  | succ count ih =>
    refine alike_bind (alike_next iteration) fun found ↦ ?_
    match found with
    | none => exact alike_pure []
    | some (item, rest) => exact alike_bind (ih rest) fun others ↦ alike_pure (item :: others)

theorem rename_ofCell? (address : Nat) (cell : Cell) :
    ofCell? (numbering.cell address) (rename numbering cell) =
      rename numbering (ofCell? address cell) := by
  cases cell with
  | table entries removals =>
    rw [Cell.rename_table, ofCell?, length_rename]
    rfl
  | _ => rfl

end Iteration

namespace Value

theorem alike_iteration (value : Value) :
    Alike numbering value.iteration (rename numbering value).iteration := by
  cases value with
  | text s mark => exact alike_pure (Iteration.characters s.toList)
  | symbol s mark => exact alike_pure (Iteration.characters s.toList)
  | tuple items mark =>
    rw [rename_tuple]
    exact alike_pure (Iteration.known items)
  | range first last exclusive mark =>
    exact alike_bind (alike_rangeBounds first last exclusive) fun bounds ↦
      alike_pure (Iteration.integers bounds.1 bounds.2 1)
  | bytes data mark =>
    refine alike_pure_of_eq ?_
    change _ = Iteration.known (rename numbering (byteItems data))
    rw [rename_byteItems]
  | progression start stop step mark => exact alike_pure (Iteration.integers start stop step)
  | node tag children mark =>
    refine alike_pure_of_eq ?_
    change _ = Iteration.known (rename numbering (childrenOf mark children))
    rw [rename_childrenOf]
  | cell address =>
    refine alike_bind (alike_cell? (.cell address)) fun found ↦ ?_
    have hstarted : (rename numbering found).bind (Iteration.ofCell? (numbering.cell address)) =
        rename numbering (found.bind (Iteration.ofCell? address)) := by
      cases found with
      | none => rfl
      | some cell => exact Iteration.rename_ofCell? address cell
    rw [hstarted]
    cases found.bind (Iteration.ofCell? address) with
    | none => exact alike_refuse _
    | some iteration => exact alike_pure iteration
  | _ => exact alike_refuse _

theorem alike_pair (value : Value) :
    Alike numbering value.pair (rename numbering value).pair := by
  refine alike_bind (alike_iteration value) fun iteration ↦ ?_
  refine alike_bind (Iteration.alike_take 3 iteration) fun items ↦ ?_
  match items with
  | [first, second] => exact alike_pure (first, second)
  | [] | [_] | _ :: _ :: _ :: _ => exact alike_refuse _

end Value

/-! ### Names of table entries -/

namespace Eval

theorem alike_convertAll {convert convert' : Value → Compute (Except String Value)}
    (hconvert : ∀ item, Alike numbering (convert item) (convert' (rename numbering item)))
    (items : List Value) :
    Alike numbering (convertAll convert items) (convertAll convert' (rename numbering items)) := by
  induction items with
  | nil => exact alike_pure (Except.ok [])
  | cons item rest ih =>
    refine alike_bind (hconvert item) fun first ↦ ?_
    cases first with
    | error kind => exact alike_pure (Except.error kind)
    | ok first =>
      refine alike_bind ih fun others ↦ ?_
      cases others with
      | error kind => exact alike_pure (Except.error kind)
      | ok others => exact alike_pure (Except.ok (first :: others))

theorem alike_plainName (name : Value) :
    Alike numbering (plainName name) (plainName (rename numbering name)) := by
  apply alike_get
  intro left right hmirrors
  rw [hmirrors.key?, isSome_rename, hmirrors.kindName]
  split
  · exact alike_pure (Except.ok name)
  · exact alike_pure (Except.error (left.kindName name))

section

variable {atCell atCell' : Nat → Compute (Except String Value)}
  (hcell : ∀ address, Alike numbering (atCell address) (atCell' (numbering.cell address)))

include hcell

theorem alike_entryName (name : Value) :
    Alike numbering (entryName atCell name) (entryName atCell' (rename numbering name)) := by
  cases name with
  | cell address => exact hcell address
  | tuple items mark =>
    have hplain := @alike_plainName numbering (Value.tuple items mark)
    rw [Value.rename_tuple] at hplain ⊢
    exact hplain
  | _ => exact alike_plainName _

theorem alike_cellName {left right : Memory} (hmirrors : numbering.Mirrors left right)
    (address : Nat) :
    Alike numbering (cellName left atCell address)
      (cellName right atCell' (numbering.cell address)) := by
  have hplain : Alike numbering (plainName (.cell address))
      (plainName (.cell (numbering.cell address))) := alike_plainName (.cell address)
  unfold cellName
  rw [hmirrors.cells]
  match left.heap[address]? with
  | some (.list items) =>
    refine alike_bind (alike_convertAll (alike_entryName hcell) items) fun names ↦ ?_
    cases names with
    | error kind => exact alike_pure (Except.error kind)
    | ok names => exact alike_bind (alike_newTuple names) fun tuple ↦ alike_pure (Except.ok tuple)
  | some (.table entries removals) | some (.queue items revision) | some (.buffer data)
  | some (.object className title fields) | none => exact hplain

end

theorem alike_keyName (found : Except String Value) :
    Alike numbering (keyName found) (keyName (rename numbering found)) := by
  cases found with
  | error kind => exact alike_pure (Except.error kind)
  | ok plain =>
    apply alike_get
    intro left right hmirrors
    simp only [hmirrors.key?, hmirrors.kindName]
    cases left.key? plain with
    | none => exact alike_pure (Except.error (left.kindName plain))
    | some key => exact alike_pure (Except.ok (plain, key))

/-- How far lists may be followed depends on the number of cells, which may differ; but no way is longer
than there are cells on the left. -/
theorem alike_entryKey (name : Value) :
    Alike numbering (entryKey name) (entryKey (rename numbering name)) := by
  apply alike_get
  intro left right hmirrors
  have hkeys : ∀ address ∉ left.addresses, ∀ below other,
      cellName left below address = cellName left other address := by
    intro address haddress below other
    rw [cellName, cellName, Memory.getElem?_of_not_mem haddress]
  have hcard : left.addresses.card < left.heap.size + 1 := by simp [Memory.addresses]
  have hstop : Alike numbering (refuse .recursion : Compute (Except String Value))
      (refuse .recursion) := alike_refuse .recursion
  refine alike_bind (alike_entryName (fun address ↦ ?_) name) alike_keyName
  rw [← follow_of_le hkeys hcard (Nat.succ_le_succ hmirrors.size)]
  exact follow_relates numbering.cell_injective (Alike numbering) (fun _ ↦ hstop)
    (fun _ _ hbelow ↦ alike_cellName hbelow hmirrors) _ [] address

end Eval

end

end Treewalk
