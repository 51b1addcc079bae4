import Treewalk.Library
import Treewalk.Evaluate

/-!
Realms. A realm is a set of cells, closures and frames, and a thing is within it when all that it
refers to is. A memory is within a realm that leads nowhere else: its cells hold only values within
the realm, the blocks of the realm captured only its frames, and whatever is new is in it. A
computation that is given things of a realm gives back things of the realm and changes no cell
outside of it (`Compute.Confined`): no reference is forged. In the realm that leaves nothing out
there is whatever there can be (`within_of_whole`).
-/

set_option autoImplicit false
set_option relaxedAutoImplicit false

namespace Treewalk

/-- A set of cells, closures and frames. -/
structure Realm where
  cell : Nat → Prop
  closure : Nat → Prop
  frame : Nat → Prop

/-- A realm that leaves nothing out. -/
structure Realm.Whole (realm : Realm) : Prop where
  cell : ∀ address, realm.cell address
  closure : ∀ index, realm.closure index
  frame : ∀ number, realm.frame number

/-- Things that may refer to cells, closures and frames; within a whole realm all of them are. -/
class Confinable (α : Type) where
  Within : Realm → α → Prop
  within_of_whole {realm : Realm} (whole : realm.Whole) (item : α) : Within realm item

export Confinable (Within within_of_whole)

/-- The realm that leaves nothing out. -/
def Realm.everything : Realm := ⟨fun _ ↦ True, fun _ ↦ True, fun _ ↦ True⟩

theorem Realm.whole_everything : everything.Whole :=
  ⟨fun _ ↦ trivial, fun _ ↦ trivial, fun _ ↦ trivial⟩

theorem Realm.within_everything {α : Type} [Confinable α] (item : α) : Within everything item :=
  within_of_whole whole_everything item

/-! ### Things that refer to nothing -/

/-- Types whose things refer to nothing. -/
class Plain (α : Type) : Prop

instance {α : Type} [Plain α] : Confinable α where
  Within _ _ := True
  within_of_whole _ _ := trivial

instance : Plain Unit := ⟨⟩
instance : Plain Bool := ⟨⟩
instance : Plain Nat := ⟨⟩
instance : Plain Int := ⟨⟩
instance : Plain Char := ⟨⟩
instance : Plain UInt8 := ⟨⟩
instance : Plain String := ⟨⟩
instance : Plain Binary64 := ⟨⟩
instance : Plain Number := ⟨⟩
instance : Plain Regexp := ⟨⟩
instance : Plain Mark := ⟨⟩
instance : Plain Tree := ⟨⟩
instance : Plain Site := ⟨⟩
instance : Plain Datum := ⟨⟩
instance : Plain Key := ⟨⟩

/-! ### Things made of others -/

section

variable {α β : Type} [Confinable α] [Confinable β] {realm : Realm}

instance : Confinable (List α) where
  Within realm items := ∀ item ∈ items, Within realm item
  within_of_whole whole _ := fun item _ ↦ within_of_whole whole item

instance : Confinable (Option α) where
  Within realm found := ∀ item ∈ found, Within realm item
  within_of_whole whole _ := fun item _ ↦ within_of_whole whole item

instance : Confinable (α × β) where
  Within realm pair := Within realm pair.1 ∧ Within realm pair.2
  within_of_whole whole pair := ⟨within_of_whole whole pair.1, within_of_whole whole pair.2⟩

instance {ε : Type} : Confinable (Except ε α) where
  Within realm ended := ∀ item, ended = .ok item → Within realm item
  within_of_whole whole _ := fun item _ ↦ within_of_whole whole item

theorem within_nil : Within realm ([] : List α) := fun _ hmem ↦ nomatch hmem

theorem within_cons {item : α} {items : List α} (hitem : Within realm item)
    (hitems : Within realm items) : Within realm (item :: items) :=
  List.forall_mem_cons.mpr ⟨hitem, hitems⟩

theorem within_head {item : α} {items : List α} (hitems : Within realm (item :: items)) :
    Within realm item :=
  hitems item List.mem_cons_self

theorem within_tail {item : α} {items : List α} (hitems : Within realm (item :: items)) :
    Within realm items :=
  fun other hother ↦ hitems other (List.mem_cons_of_mem item hother)

theorem within_singleton {item : α} (hitem : Within realm item) : Within realm [item] :=
  within_cons hitem within_nil

theorem within_append {items others : List α} (hitems : Within realm items)
    (hothers : Within realm others) : Within realm (items ++ others) :=
  List.forall_mem_append.mpr ⟨hitems, hothers⟩

theorem within_of_subset {items others : List α} (hsubset : items ⊆ others)
    (hothers : Within realm others) : Within realm items :=
  fun item hmem ↦ hothers item (hsubset hmem)

theorem within_take (count : Nat) {items : List α} (hitems : Within realm items) :
    Within realm (items.take count) :=
  within_of_subset (List.take_subset count items) hitems

theorem within_drop (count : Nat) {items : List α} (hitems : Within realm items) :
    Within realm (items.drop count) :=
  within_of_subset (List.drop_subset count items) hitems

theorem within_reverse {items : List α} (hitems : Within realm items) :
    Within realm items.reverse :=
  within_of_subset (fun _ hmem ↦ List.mem_reverse.mp hmem) hitems

theorem within_eraseIdx {items : List α} (hitems : Within realm items) (place : Nat) :
    Within realm (items.eraseIdx place) :=
  within_of_subset (List.eraseIdx_subset) hitems

theorem within_none : Within realm (none : Option α) := fun _ hmem ↦ nomatch hmem

@[simp] theorem within_some {item : α} : Within realm (some item) ↔ Within realm item :=
  ⟨fun hsome ↦ hsome item rfl, fun hitem _ hmem ↦ Option.some.inj hmem ▸ hitem⟩

theorem within_getElem? {items : List α} (hitems : Within realm items) (place : Nat) :
    Within realm items[place]? :=
  fun item hmem ↦ hitems item (List.mem_of_getElem? hmem)

theorem within_headD {items : List α} (hitems : Within realm items) {missing : α}
    (hmissing : Within realm missing) : Within realm (items.headD missing) := by
  cases items with
  | nil => exact hmissing
  | cons item rest => exact within_head hitems

theorem within_getD {found : Option α} (hfound : Within realm found) {missing : α}
    (hmissing : Within realm missing) : Within realm (found.getD missing) := by
  cases found with
  | none => exact hmissing
  | some item => exact within_some.mp hfound

end

/-! ### Values -/

namespace Realm

mutual

/-- Whether a value refers only to things of a realm. -/
def Has (realm : Realm) : Value → Prop
  | .tuple items _ => HasAll realm items
  | .range first last _ _ => Has realm first ∧ Has realm last
  | .cell address => realm.cell address
  | .closure index => realm.closure index
  | .inner index _ => realm.closure index
  | .method receiver _ _ => Has realm receiver
  | _ => True

/-- Whether several values refer only to things of a realm. -/
def HasAll (realm : Realm) : List Value → Prop
  | [] => True
  | item :: rest => Has realm item ∧ HasAll realm rest

end

mutual

theorem Whole.has {realm : Realm} (hwhole : realm.Whole) (item : Value) : realm.Has item := by
  match item with
  | .tuple items _ => exact hwhole.hasAll items
  | .range first last _ _ => exact ⟨hwhole.has first, hwhole.has last⟩
  | .cell address => exact hwhole.cell address
  | .closure index => exact hwhole.closure index
  | .inner index _ => exact hwhole.closure index
  | .method receiver _ _ => exact hwhole.has receiver
  | .nil | .bool _ | .int _ _ | .float _ _ | .text _ _ | .symbol _ _ | .regexp _ | .bytes _ _
  | .progression _ _ _ _ | .node _ _ _ | .hostClass _ | .function _ => exact trivial

theorem Whole.hasAll {realm : Realm} (hwhole : realm.Whole) (items : List Value) :
    realm.HasAll items := by
  match items with
  | [] => exact trivial
  | item :: rest => exact ⟨hwhole.has item, hwhole.hasAll rest⟩

end

end Realm

instance : Confinable Value where
  Within := Realm.Has
  within_of_whole := Realm.Whole.has

section

variable {realm : Realm}

theorem within_nothing : Within realm Value.nil := trivial

theorem within_iff_hasAll {items : List Value} : Within realm items ↔ realm.HasAll items := by
  induction items with
  | nil => exact ⟨fun _ ↦ trivial, fun _ ↦ within_nil⟩
  | cons item rest ih =>
    refine ⟨fun hitems ↦ ⟨within_head hitems, ih.mp (within_tail hitems)⟩, ?_⟩
    exact fun hitems ↦ within_cons hitems.1 (ih.mpr hitems.2)

theorem within_tuple {items : List Value} {mark : Mark} :
    Within realm (Value.tuple items mark) ↔ Within realm items :=
  within_iff_hasAll.symm

/-- The value of a scalar refers to nothing. -/
theorem within_scalar (mark : Mark) (scalar : Scalar) : Within realm (scalar.toValue mark) := by
  cases scalar with
  | int i =>
    change Within realm (Value.markedInt i mark)
    unfold Value.markedInt
    split <;> exact trivial
  | text s =>
    change Within realm (Value.markedText s mark)
    unfold Value.markedText
    split <;> exact trivial
  | _ => exact trivial

/-- A tree as a value refers to nothing. -/
theorem within_toValue (site : Site) : Within realm site.toValue := by
  unfold Site.toValue
  split
  · exact within_scalar _ _
  · exact trivial

theorem within_childrenOf (mark : Mark) (children : List Tree) :
    Within realm (Value.childrenOf mark children) := by
  intro item hmem
  obtain ⟨site, -, rfl⟩ := List.mem_map.mp hmem
  exact within_toValue site

theorem within_byteItems (data : List UInt8) : Within realm (Value.byteItems data) := by
  intro item hmem
  obtain ⟨byte, -, rfl⟩ := List.mem_map.mp hmem
  exact trivial

end

/-! ### Tables, cells and closures -/

instance : Confinable Entry where
  Within realm entry := Within realm entry.name ∧ Within realm entry.value
  within_of_whole whole entry :=
    ⟨within_of_whole whole entry.name, within_of_whole whole entry.value⟩

/-- Whether a cell refers only to things of a realm. -/
def Cell.IsWithin (realm : Realm) : Cell → Prop
  | list items => Within realm items
  | table entries _ => Within realm entries
  | queue items _ => Within realm items
  | buffer _ => True
  | object _ _ fields => Within realm fields

instance : Confinable Cell where
  Within := Cell.IsWithin
  within_of_whole whole cell := by
    cases cell with
    | buffer data => exact trivial
    | _ => exact within_of_whole whole _

/-- A closure is within a realm when the frames that it captured are. -/
def Closure.IsWithin (realm : Realm) : Closure → Prop
  | block _ _ chain => ∀ number ∈ chain, realm.frame number
  | symbolProc _ _ => True

instance : Confinable Closure where
  Within := Closure.IsWithin
  within_of_whole whole closure := by
    cases closure with
    | block parameters body chain => exact fun number _ ↦ whole.frame number
    | symbolProc name node => exact trivial

section

variable {realm : Realm} {table : Table}

theorem within_find? (htable : Within realm table) (key : Key) :
    Within realm (table.find? key) := by
  induction table with
  | nil => exact within_none
  | cons entry rest ih =>
    unfold Table.find?
    split
    · exact within_some.mpr (within_head htable).2
    · exact ih (within_tail htable)

theorem within_insert (htable : Within realm table) (key : Key) {name item : Value}
    (hname : Within realm name) (hitem : Within realm item) :
    Within realm (table.insert key name item) := by
  induction table with
  | nil => exact within_singleton ⟨hname, hitem⟩
  | cons entry rest ih =>
    unfold Table.insert
    split
    · exact within_cons ⟨(within_head htable).1, hitem⟩ (within_tail htable)
    · exact within_cons (within_head htable) (ih (within_tail htable))

theorem within_erase (htable : Within realm table) (key : Key) :
    Within realm (table.erase key) := by
  induction table with
  | nil => exact within_nil
  | cons entry rest ih =>
    unfold Table.erase
    split
    · exact within_tail htable
    · exact within_cons (within_head htable) (ih (within_tail htable))

theorem within_merge (htable : Within realm table) {added : Table} (hadded : Within realm added) :
    Within realm (table.merge added) := by
  unfold Table.merge
  induction added generalizing table with
  | nil => exact htable
  | cons entry rest ih =>
    have hentry := within_head hadded
    exact ih (within_insert htable entry.key hentry.1 hentry.2) (within_tail hadded)

theorem within_names (htable : Within realm table) : Within realm table.names := by
  intro name hmem
  obtain ⟨entry, hentry, rfl⟩ := List.mem_map.mp hmem
  exact (htable entry hentry).1

end

/-! ### Memory -/

/-- A memory within a realm that leads nowhere else. -/
structure Memory.IsWithin (realm : Realm) (memory : Memory) : Prop where
  cells : ∀ address, realm.cell address → Within realm memory.heap[address]?
  closures : ∀ index, realm.closure index → Within realm (memory.closure? index)
  newCells : ∀ address, memory.heap.size ≤ address → realm.cell address
  newClosures : ∀ index, memory.closures.size ≤ index → realm.closure index

instance : Confinable Memory where
  Within := Memory.IsWithin
  within_of_whole whole _ := ⟨fun _ _ ↦ within_of_whole whole _, fun _ _ ↦ within_of_whole whole _,
    fun address _ ↦ whole.cell address, fun index _ ↦ whole.closure index⟩

/-- The contents of a cell of the realm are within it. -/
theorem within_cell? {realm : Realm} {memory : Memory} (hmemory : Within realm memory)
    {value : Value} (hvalue : Within realm value) : Within realm (memory.cell? value) := by
  cases value with
  | cell address => exact hmemory.cells address hvalue
  | _ => exact within_none

/-- A memory within a realm that goes on from another one: outside of the realm the cells are the
same. -/
structure Realm.Keeps (realm : Realm) (before after : Memory) : Prop where
  within : Within realm after
  outside : ∀ address, ¬ realm.cell address → after.heap[address]? = before.heap[address]?

namespace Realm.Keeps

variable {realm : Realm}

theorem refl {memory : Memory} (hmemory : Within realm memory) : realm.Keeps memory memory :=
  ⟨hmemory, fun _ _ ↦ rfl⟩

theorem trans {first middle last : Memory} (hfirst : realm.Keeps first middle)
    (hlast : realm.Keeps middle last) : realm.Keeps first last where
  within := hlast.within
  outside address haddress :=
    (hlast.outside address haddress).trans (hfirst.outside address haddress)

theorem of_whole (hwhole : realm.Whole) (before after : Memory) : realm.Keeps before after :=
  ⟨within_of_whole hwhole after, fun address haddress ↦ absurd (hwhole.cell address) haddress⟩

variable {memory : Memory} (hmemory : Within realm memory)

include hmemory

theorem mint : realm.Keeps memory memory.mint.2 :=
  ⟨{ hmemory with }, fun _ _ ↦ rfl⟩

/-- A new cell is in the realm. -/
theorem allocate {cell : Cell} (hcell : Within realm cell) :
    realm.Keeps memory (memory.allocate cell).2 where
  within :=
    { hmemory with
      cells := fun address haddress ↦ by
        simp only [Memory.allocate, Array.getElem?_push]
        split
        · exact within_some.mpr hcell
        · exact hmemory.cells address haddress
      newCells := fun address haddress ↦ by
        simp only [Memory.allocate, Array.size_push] at haddress
        exact hmemory.newCells address (Nat.le_of_succ_le haddress) }
  outside address haddress := by
    have hold : address ≠ memory.heap.size := by
      rintro rfl
      exact haddress (hmemory.newCells _ (Nat.le_refl _))
    simp only [Memory.allocate, Array.getElem?_push, if_neg hold]

/-- A cell of the realm may get other contents of the realm. -/
theorem store {address : Nat} (haddress : realm.cell address) {cell : Cell}
    (hcell : Within realm cell) : realm.Keeps memory (memory.store address cell) where
  within :=
    { hmemory with
      cells := fun other hother ↦ by
        simp only [Memory.store, Array.getElem?_setIfInBounds]
        split
        · split
          · exact within_some.mpr hcell
          · exact within_none
        · exact hmemory.cells other hother
      newCells := fun other hother ↦ by
        simp only [Memory.store, Array.size_setIfInBounds] at hother
        exact hmemory.newCells other hother }
  outside other hother := by
    have hne : address ≠ other := by
      rintro rfl
      exact hother haddress
    simp only [Memory.store, Array.getElem?_setIfInBounds_ne hne]

/-- A new closure is in the realm, and so are the frames that it captured. -/
theorem close {closure : Closure} (hclosure : Within realm closure) :
    realm.Keeps memory (memory.close closure).2 where
  within :=
    { hmemory with
      closures := fun index hindex ↦ by
        simp only [Memory.close, Memory.closure?, Array.getElem?_push]
        split
        · exact within_some.mpr hclosure
        · exact hmemory.closures index hindex
      newClosures := fun index hindex ↦ by
        simp only [Memory.close, Array.size_push] at hindex
        exact hmemory.newClosures index (Nat.le_of_succ_le hindex) }
  outside _ _ := rfl

end Realm.Keeps

/-! ### Computations -/

namespace Compute

variable {α β : Type} [Confinable α] [Confinable β] {realm : Realm}

/-- A computation that stays within a realm: on a memory within it, it gives back a thing within it,
and however it ends, no cell outside has changed. -/
def Confined (realm : Realm) (computation : Compute α) : Prop :=
  ∀ memory, Within realm memory → Within realm (computation.run.run memory).1 ∧
    realm.Keeps memory (computation.run.run memory).2

theorem confined_pure {result : α} (hresult : Within realm result) :
    Confined realm (pure result : Compute α) :=
  fun _ hmemory ↦ ⟨fun _ heq ↦ Except.ok.inj heq ▸ hresult, .refl hmemory⟩

theorem confined_throw (cause : Cause) : Confined realm (throw cause : Compute α) :=
  fun _ hmemory ↦ ⟨nofun, .refl hmemory⟩

theorem confined_get : Confined realm (get : Compute Memory) :=
  fun _ hmemory ↦ ⟨fun _ heq ↦ Except.ok.inj heq ▸ hmemory, .refl hmemory⟩

theorem confined_bind {computation : Compute α} {after : α → Compute β}
    (hfirst : Confined realm computation)
    (hafter : ∀ result, Within realm result → Confined realm (after result)) :
    Confined realm (computation >>= after) := by
  intro memory hmemory
  have hrun : (computation >>= after).run.run memory =
      (ExceptT.bindCont after (computation.run.run memory).1).run
        (computation.run.run memory).2 := rfl
  obtain ⟨hresult, hkeeps⟩ := hfirst memory hmemory
  rw [hrun]
  rcases heq : computation.run.run memory with ⟨cause | result, changed⟩
  · rw [heq] at hkeeps
    exact ⟨nofun, hkeeps⟩
  · rw [heq] at hresult hkeeps
    obtain ⟨hlast, hlater⟩ := hafter result (hresult result rfl) changed hkeeps.within
    exact ⟨hlast, hkeeps.trans hlater⟩

theorem confined_mint : Confined realm mint :=
  fun _ hmemory ↦ ⟨fun _ _ ↦ trivial, .mint hmemory⟩

theorem confined_allocate {cell : Cell} (hcell : Within realm cell) :
    Confined realm (allocate cell) := by
  refine fun memory hmemory ↦ ⟨fun result heq ↦ ?_, .allocate hmemory hcell⟩
  obtain rfl := Except.ok.inj heq
  exact hmemory.newCells _ (Nat.le_refl _)

theorem confined_store {value : Value} (hvalue : Within realm value) {cell : Cell}
    (hcell : Within realm cell) : Confined realm (store value cell) := by
  cases value with
  | cell address => exact fun memory hmemory ↦ ⟨fun _ _ ↦ trivial, .store hmemory hvalue hcell⟩
  | _ => exact confined_pure trivial

end Compute

end Treewalk
