import Mathlib.Data.List.Basic
import Mathlib.Data.List.InsertIdx
import Mathlib.Order.Monotone.Basic
import Treewalk.Compute

/-!
Renaming of addresses. Cells are known by their addresses and frames by their numbers, and nothing
but sameness of either is ever looked at: what a script does stays the same when cells and frames
are numbered differently. This module says what becomes of values, keys, tables, cells, closures,
data and failures when addresses and numbers are renamed, and that what is read off a single value
is the same before and after.
-/

set_option autoImplicit false
set_option relaxedAutoImplicit false

namespace Treewalk

/-- How the addresses of cells and the numbers of frames are changed. What was different stays
different, and cells stay in order. -/
structure Numbering where
  cell : Nat → Nat
  frame : Nat → Nat
  cell_strictMono : StrictMono cell
  frame_injective : Function.Injective frame

theorem Numbering.cell_injective (numbering : Numbering) : Function.Injective numbering.cell :=
  numbering.cell_strictMono.injective

/-- Things in which addresses and numbers can be renamed. -/
class Renamable (α : Type) where
  rename : Numbering → α → α

export Renamable (rename)

/-! ### Things without addresses -/

/-- Types whose things hold no addresses. -/
class Addressless (α : Type) : Prop

instance {α : Type} [Addressless α] : Renamable α := ⟨fun _ item ↦ item⟩

instance : Addressless Unit := ⟨⟩
instance : Addressless Bool := ⟨⟩
instance : Addressless Nat := ⟨⟩
instance : Addressless Int := ⟨⟩
instance : Addressless Char := ⟨⟩
instance : Addressless UInt8 := ⟨⟩
instance : Addressless String := ⟨⟩
instance : Addressless Binary64 := ⟨⟩
instance : Addressless Number := ⟨⟩
instance : Addressless Regexp := ⟨⟩
instance : Addressless Mark := ⟨⟩
instance : Addressless Tree := ⟨⟩
instance : Addressless Site := ⟨⟩

/-! ### Things made of others -/

section

variable {α β : Type} [Renamable α] [Renamable β] {numbering : Numbering}

instance : Renamable (List α) := ⟨fun numbering items ↦ items.map (rename numbering)⟩
instance : Renamable (Option α) := ⟨fun numbering found ↦ found.map (rename numbering)⟩
instance : Renamable (α × β) := ⟨fun numbering pair ↦ (rename numbering pair.1, rename numbering pair.2)⟩
instance {ε : Type} [Renamable ε] : Renamable (Except ε α) :=
  ⟨fun numbering ended ↦
    match ended with
    | .error failure => .error (rename numbering failure)
    | .ok result => .ok (rename numbering result)⟩

@[simp] theorem rename_of_addressless {γ : Type} [Addressless γ] (item : γ) :
    rename numbering item = item := rfl

@[simp] theorem rename_pair (first : α) (second : β) :
    rename numbering (first, second) = (rename numbering first, rename numbering second) := rfl

@[simp] theorem rename_pair_of_addressless {γ δ : Type} [Addressless γ] [Addressless δ]
    (pair : γ × δ) : rename numbering pair = pair := rfl

@[simp] theorem rename_fst (pair : α × β) : (rename numbering pair).1 = rename numbering pair.1 := rfl

@[simp] theorem rename_snd (pair : α × β) : (rename numbering pair).2 = rename numbering pair.2 := rfl

@[simp] theorem rename_ok {ε : Type} [Renamable ε] (result : α) :
    rename numbering (.ok result : Except ε α) = .ok (rename numbering result) := rfl

@[simp] theorem rename_error {ε : Type} [Renamable ε] (failure : ε) :
    rename numbering (.error failure : Except ε α) = .error (rename numbering failure) := rfl

@[simp] theorem rename_none : rename numbering (none : Option α) = none := rfl

@[simp] theorem rename_some (item : α) :
    rename numbering (some item) = some (rename numbering item) := rfl

@[simp] theorem rename_option_of_addressless {γ : Type} [Addressless γ] (found : Option γ) :
    rename numbering found = found := by
  cases found <;> rfl

@[simp] theorem isSome_rename (found : Option α) :
    (rename numbering found).isSome = found.isSome := by
  cases found <;> rfl

@[simp] theorem isNone_rename (found : Option α) :
    (rename numbering found).isNone = found.isNone := by
  cases found <;> rfl

theorem rename_getD (found : Option α) (missing : α) :
    rename numbering (found.getD missing) = (rename numbering found).getD (rename numbering missing) := by
  cases found <;> rfl

theorem rename_list (items : List α) : rename numbering items = items.map (rename numbering) := rfl

@[simp] theorem rename_nil : rename numbering ([] : List α) = [] := rfl

@[simp] theorem rename_cons (item : α) (rest : List α) :
    rename numbering (item :: rest) = rename numbering item :: rename numbering rest := rfl

@[simp] theorem rename_list_of_addressless {γ : Type} [Addressless γ] (items : List γ) :
    rename numbering items = items :=
  List.map_id items

@[simp] theorem rename_lists_of_addressless {γ : Type} [Addressless γ] (items : List (List γ)) :
    rename numbering items = items := by
  induction items with
  | nil => rfl
  | cons item rest ih => rw [rename_cons, rename_list_of_addressless, ih]

@[simp] theorem rename_append (items others : List α) :
    rename numbering (items ++ others) = rename numbering items ++ rename numbering others :=
  List.map_append

@[simp] theorem length_rename (items : List α) : (rename numbering items).length = items.length :=
  List.length_map _

@[simp] theorem isEmpty_rename (items : List α) :
    (rename numbering items).isEmpty = items.isEmpty := by
  cases items <;> rfl

@[simp] theorem getElem?_rename (items : List α) (place : Nat) :
    (rename numbering items)[place]? = rename numbering items[place]? :=
  List.getElem?_map

theorem rename_take (count : Nat) (items : List α) :
    rename numbering (items.take count) = (rename numbering items).take count :=
  List.map_take

theorem rename_drop (count : Nat) (items : List α) :
    rename numbering (items.drop count) = (rename numbering items).drop count :=
  List.map_drop

theorem rename_reverse (items : List α) :
    rename numbering items.reverse = (rename numbering items).reverse :=
  List.map_reverse

theorem rename_eraseIdx (items : List α) (place : Nat) :
    rename numbering (items.eraseIdx place) = (rename numbering items).eraseIdx place := by
  rw [rename_list, rename_list]
  exact (List.eraseIdx_map _ _ _).symm

theorem rename_set (items : List α) (place : Nat) (item : α) :
    rename numbering (items.set place item) =
      (rename numbering items).set place (rename numbering item) :=
  List.map_set

theorem rename_headD (items : List α) (missing : α) :
    rename numbering (items.headD missing) =
      (rename numbering items).headD (rename numbering missing) := by
  cases items <;> rfl

theorem rename_tail (items : List α) :
    rename numbering items.tail = (rename numbering items).tail := by
  cases items <;> rfl

theorem rename_dropLast (items : List α) :
    rename numbering items.dropLast = (rename numbering items).dropLast := by
  rw [rename_list, rename_list, List.map_dropLast]

theorem rename_getLast? (items : List α) :
    rename numbering items.getLast? = (rename numbering items).getLast? := by
  rw [rename_list, List.getLast?_map]
  rfl

/-- Things that come out different stay different when they are listed. -/
theorem rename_list_injective (hinjective : Function.Injective (rename numbering : α → α)) :
    Function.Injective (rename numbering : List α → List α) :=
  List.map_injective_iff.mpr hinjective

end

/-! ### Values and keys -/

mutual

/-- A value with the addresses in it renamed. -/
def Value.renamed (numbering : Numbering) : Value → Value
  | .tuple items mark => .tuple (Value.allRenamed numbering items) mark
  | .range first last exclusive mark =>
    .range (first.renamed numbering) (last.renamed numbering) exclusive mark
  | .cell address => .cell (numbering.cell address)
  | .method receiver name mark => .method (receiver.renamed numbering) name mark
  | value => value

/-- Values with the addresses in them renamed. -/
def Value.allRenamed (numbering : Numbering) : List Value → List Value
  | [] => []
  | item :: rest => item.renamed numbering :: Value.allRenamed numbering rest

end

/-- The part of a key with the address that it may be renamed. -/
def Key.Part.renamed (numbering : Numbering) : Key.Part → Key.Part
  | .cell address => .cell (numbering.cell address)
  | part => part

instance : Renamable Value := ⟨Value.renamed⟩
instance : Renamable Key.Part := ⟨Key.Part.renamed⟩

section

variable {numbering : Numbering}

namespace Value

theorem allRenamed_eq (items : List Value) : allRenamed numbering items = rename numbering items := by
  induction items with
  | nil => rfl
  | cons item rest ih => rw [allRenamed, ih]; rfl

@[simp] theorem rename_nothing : rename numbering nil = nil := rfl
@[simp] theorem rename_bool (b : Bool) : rename numbering (bool b) = bool b := rfl
@[simp] theorem rename_int (i : Int) (mark : Mark) : rename numbering (int i mark) = int i mark := rfl
@[simp] theorem rename_float (x : Binary64) (mark : Mark) :
    rename numbering (float x mark) = float x mark := rfl
@[simp] theorem rename_text (s : String) (mark : Mark) :
    rename numbering (text s mark) = text s mark := rfl
@[simp] theorem rename_symbol (s : String) (mark : Mark) :
    rename numbering (symbol s mark) = symbol s mark := rfl
@[simp] theorem rename_range (first last : Value) (exclusive : Bool) (mark : Mark) :
    rename numbering (range first last exclusive mark) =
      range (rename numbering first) (rename numbering last) exclusive mark := rfl
@[simp] theorem rename_regexp (pattern : Regexp) :
    rename numbering (regexp pattern) = regexp pattern := rfl
@[simp] theorem rename_bytes (data : List UInt8) (mark : Mark) :
    rename numbering (bytes data mark) = bytes data mark := rfl
@[simp] theorem rename_progression (start stop step : Int) (mark : Mark) :
    rename numbering (progression start stop step mark) = progression start stop step mark := rfl
@[simp] theorem rename_node (tag : String) (children : List Tree) (mark : Mark) :
    rename numbering (node tag children mark) = node tag children mark := rfl
@[simp] theorem rename_cell (address : Nat) :
    rename numbering (cell address) = cell (numbering.cell address) := rfl
@[simp] theorem rename_closure (index : Nat) : rename numbering (closure index) = closure index := rfl
@[simp] theorem rename_inner (index : Nat) (part : Inner) :
    rename numbering (inner index part) = inner index part := rfl
@[simp] theorem rename_hostClass (name : String) :
    rename numbering (hostClass name) = hostClass name := rfl
@[simp] theorem rename_function (name : String) :
    rename numbering (function name) = function name := rfl
@[simp] theorem rename_method (receiver : Value) (name : String) (mark : Mark) :
    rename numbering (method receiver name mark) = method (rename numbering receiver) name mark := rfl

@[simp] theorem rename_tuple (items : List Value) (mark : Mark) :
    rename numbering (tuple items mark) = tuple (rename numbering items) mark := by
  rw [← allRenamed_eq]
  rfl

@[simp] theorem rename_ofInt (i : Int) : rename numbering (ofInt i) = ofInt i := rfl
@[simp] theorem rename_ofText (s : String) : rename numbering (ofText s) = ofText s := rfl

@[simp] theorem rename_markedInt (i : Int) (mark : Mark) :
    rename numbering (markedInt i mark) = markedInt i mark := by
  unfold markedInt
  split <;> rfl

@[simp] theorem rename_markedText (s : String) (mark : Mark) :
    rename numbering (markedText s mark) = markedText s mark := by
  unfold markedText
  split <;> rfl

end Value

@[simp] theorem rename_scalar (mark : Mark) (scalar : Scalar) :
    rename numbering (scalar.toValue mark) = scalar.toValue mark := by
  cases scalar with
  | int i => exact Value.rename_markedInt i mark
  | text s => exact Value.rename_markedText s mark
  | _ => rfl

/-- A tree as a value holds no addresses. -/
@[simp] theorem rename_toValue (site : Site) : rename numbering site.toValue = site.toValue := by
  unfold Site.toValue
  split
  · exact rename_scalar _ _
  · rfl

@[simp] theorem rename_childrenOf (mark : Mark) (children : List Tree) :
    rename numbering (Value.childrenOf mark children) = Value.childrenOf mark children := by
  simp [Value.childrenOf, rename_list, Function.comp_def]

@[simp] theorem rename_byteItems (data : List UInt8) :
    rename numbering (Value.byteItems data) = Value.byteItems data := by
  simp [Value.byteItems, rename_list, Function.comp_def]

/-! ### What is read off a value -/

namespace Value

variable (value : Value)

@[simp] theorem isNil_rename : (rename numbering value).isNil = value.isNil := by
  cases value <;> rfl

@[simp] theorem isTruthy_rename : (rename numbering value).isTruthy = value.isTruthy := by
  cases value <;> rfl

@[simp] theorem isCallable_rename : (rename numbering value).isCallable = value.isCallable := by
  cases value <;> rfl

@[simp] theorem integer?_rename : (rename numbering value).integer? = value.integer? := by
  cases value <;> rfl

@[simp] theorem number?_rename : (rename numbering value).number? = value.number? := by
  cases value <;> rfl

@[simp] theorem text?_rename : (rename numbering value).text? = value.text? := by
  cases value <;> rfl

end Value

/-! ### Keys -/

namespace Key

theorem Part.rename_injective : Function.Injective (rename numbering : Part → Part) := by
  intro part other hsame
  cases part <;> cases other <;> simp_all [rename, Part.renamed, numbering.cell_injective.eq_iff]

theorem rename_injective : Function.Injective (rename numbering : Key → Key) :=
  rename_list_injective Part.rename_injective

@[simp] theorem rename_inj {key other : Key} :
    rename numbering key = rename numbering other ↔ key = other :=
  rename_injective.eq_iff

theorem rename_thing (mark : Mark) (content : Key) :
    rename numbering (thing mark content) = thing mark (rename numbering content) := by
  cases mark <;> rfl

@[simp] theorem rename_ofBool (b : Bool) : rename numbering (ofBool b) = ofBool b := rfl

@[simp] theorem rename_ofFloat (mark : Mark) (x : Binary64) :
    rename numbering (ofFloat mark x) = ofFloat mark x := by
  unfold ofFloat
  split
  · rfl
  · split
    · exact rename_thing mark _
    · rfl

end Key

@[simp] theorem Scalar.rename_key (mark : Mark) (scalar : Scalar) :
    rename numbering (scalar.key mark) = scalar.key mark := by
  cases scalar with
  | float x => exact Key.rename_ofFloat _ x
  | _ => rfl

namespace Tree

mutual

/-- The key of a tree holds no addresses. -/
theorem rename_key (mark : Mark) (tree : Tree) :
    rename numbering (tree.key mark) = tree.key mark := by
  match tree with
  | .leaf scalar => exact Scalar.rename_key mark scalar
  | .node tag children =>
    unfold key
    rw [rename_cons, rename_keys mark 0 children]
    rfl

theorem rename_keys (mark : Mark) (place : Nat) (trees : List Tree) :
    rename numbering (keys mark place trees) = keys mark place trees := by
  match trees with
  | [] => rfl
  | tree :: rest =>
    unfold keys
    rw [rename_append, rename_key _ tree, rename_keys mark _ rest]

end

end Tree

@[simp] theorem Site.rename_key (site : Site) : rename numbering site.key = site.key :=
  Tree.rename_key site.mark site.tree

namespace Value

mutual

/-- A renamed value is the thing that is known by the renamed key. -/
theorem identity_rename (value : Value) :
    (rename numbering value).identity = rename numbering value.identity := by
  match value with
  | .tuple items mark =>
    rw [rename_tuple, identity, identity, Key.rename_thing, rename_cons, length_rename,
      identities_rename items]
    rfl
  | .range first last exclusive mark =>
    rw [rename_range, identity, identity, Key.rename_thing, rename_append, rename_cons,
      identity_rename first, identity_rename last]
    rfl
  | .method receiver name mark =>
    rw [rename_method, identity, identity, Key.rename_thing, rename_cons, identity_rename receiver]
    rfl
  | .node tag children mark =>
    rw [rename_node, identity, Key.rename_thing, Tree.rename_key]
  | .int _ mark | .float _ mark | .text _ mark | .symbol _ mark | .bytes _ mark
  | .progression _ _ _ mark => cases mark <;> rfl
  | .nil | .bool _ | .regexp _ | .cell _ | .closure _ | .inner _ _ | .hostClass _ | .function _ =>
    rfl

theorem identities_rename (items : List Value) :
    identities (rename numbering items) = rename numbering (identities items) := by
  match items with
  | [] => rfl
  | item :: rest =>
    rw [rename_cons, identities, identities, rename_append, identity_rename item,
      identities_rename rest]

end

/-- Numbering keeps sameness. -/
@[simp] theorem identical_rename (value other : Value) :
    (rename numbering value).identical (rename numbering other) = value.identical other := by
  simp [identical, identity_rename]

end Value

/-! ### Tables, cells and closures -/

instance : Renamable Entry :=
  ⟨fun numbering entry ↦
    ⟨rename numbering entry.key, rename numbering entry.name, rename numbering entry.value⟩⟩

@[simp] theorem rename_entry (key : Key) (name value : Value) :
    rename numbering (Entry.mk key name value) =
      ⟨rename numbering key, rename numbering name, rename numbering value⟩ := rfl

@[simp] theorem key_rename (entry : Entry) :
    (rename numbering entry).key = rename numbering entry.key := rfl

@[simp] theorem name_rename (entry : Entry) :
    (rename numbering entry).name = rename numbering entry.name := rfl

@[simp] theorem value_rename (entry : Entry) :
    (rename numbering entry).value = rename numbering entry.value := rfl

/-- A cell with the addresses in it renamed. -/
def Cell.renamed (numbering : Numbering) : Cell → Cell
  | list items => list (rename numbering items)
  | table entries removals => table (rename numbering entries) removals
  | queue items revision => queue (rename numbering items) revision
  | buffer data => buffer data
  | object className title fields => object className title (rename numbering fields)

instance : Renamable Cell := ⟨Cell.renamed⟩

/-- A closure with the frames that it captured renamed. -/
def Closure.renamed (numbering : Numbering) : Closure → Closure
  | block parameters body chain => block parameters body (chain.map numbering.frame)
  | symbolProc name node => symbolProc name node

instance : Renamable Closure := ⟨Closure.renamed⟩

@[simp] theorem Cell.rename_list (items : List Value) :
    rename numbering (list items) = list (rename numbering items) := rfl
@[simp] theorem Cell.rename_table (entries : Table) (removals : List Nat) :
    rename numbering (table entries removals) = table (rename numbering entries) removals := rfl
@[simp] theorem Cell.rename_queue (items : List Value) (revision : Nat) :
    rename numbering (queue items revision) = queue (rename numbering items) revision := rfl
@[simp] theorem Cell.rename_buffer (data : List UInt8) :
    rename numbering (buffer data) = buffer data := rfl
@[simp] theorem Cell.rename_object (className : String) (title : Option String)
    (fields : List (String × Value)) :
    rename numbering (object className title fields) =
      object className title (rename numbering fields) := rfl

@[simp] theorem Closure.rename_block (parameters body : Site) (chain : Chain) :
    rename numbering (block parameters body chain) =
      block parameters body (chain.map numbering.frame) := rfl
@[simp] theorem Closure.rename_symbolProc (name : String) (node : Tree) :
    rename numbering (symbolProc name node) = symbolProc name node := rfl

theorem Cell.rename_withItems (items : List Value) (cell : Cell) :
    rename numbering (cell.withItems items) =
      (rename numbering cell).withItems (rename numbering items) := by
  cases cell with
  | queue old revision => simp [withItems]
  | _ => rfl

namespace Table

variable (table : Table) (key : Key)

@[simp] theorem find?_rename :
    find? (rename numbering key) (rename numbering table) = rename numbering (table.find? key) := by
  induction table with
  | nil => rfl
  | cons entry rest ih =>
    rw [rename_cons, find?, find?, ih]
    simp only [key_rename, Key.rename_inj, value_rename]
    split <;> rfl

@[simp] theorem has_rename : has (rename numbering key) (rename numbering table) = table.has key := by
  simp [has]

theorem rename_insert (name value : Value) :
    rename numbering (table.insert key name value) =
      insert (rename numbering key) (rename numbering name) (rename numbering value)
        (rename numbering table) := by
  induction table with
  | nil => rfl
  | cons entry rest ih =>
    rw [rename_cons, insert, insert]
    simp only [key_rename, Key.rename_inj]
    split
    · rfl
    · rw [rename_cons, ih]

@[simp] theorem place?_rename :
    place? (rename numbering key) (rename numbering table) = table.place? key := by
  induction table with
  | nil => rfl
  | cons entry rest ih =>
    rw [rename_cons, place?, place?, ih]
    simp only [key_rename, Key.rename_inj]

theorem rename_erase :
    rename numbering (table.erase key) = erase (rename numbering key) (rename numbering table) := by
  induction table with
  | nil => rfl
  | cons entry rest ih =>
    rw [rename_cons, erase, erase]
    simp only [key_rename, Key.rename_inj]
    split
    · rfl
    · rw [rename_cons, ih]

theorem rename_merge (added : Table) :
    rename numbering (table.merge added) = (rename numbering table).merge (rename numbering added) := by
  unfold merge
  induction added generalizing table with
  | nil => rfl
  | cons entry rest ih => rw [List.foldl_cons, ih, rename_insert]; rfl

theorem rename_names : rename numbering table.names = (rename numbering table).names := by
  simp [names, rename_list, Function.comp_def]

end Table

end

/-! ### Data -/

mutual

/-- A datum with the numbers of objects in it renamed. -/
def Datum.renamed (numbering : Numbering) : Datum → Datum
  | .tuple items => .tuple (Datum.allRenamed numbering items)
  | .range first last exclusive => .range (first.renamed numbering) (last.renamed numbering) exclusive
  | .list items => .list (Datum.allRenamed numbering items)
  | .table entries => .table (Datum.entriesRenamed numbering entries)
  | .queue items => .queue (Datum.allRenamed numbering items)
  | .object address className title fields =>
    .object (numbering.cell address) className title (Datum.fieldsRenamed numbering fields)
  | datum => datum

/-- Data with the numbers of objects in them renamed. -/
def Datum.allRenamed (numbering : Numbering) : List Datum → List Datum
  | [] => []
  | item :: rest => item.renamed numbering :: Datum.allRenamed numbering rest

/-- Pairs of data with the numbers of objects in them renamed. -/
def Datum.entriesRenamed (numbering : Numbering) : List (Datum × Datum) → List (Datum × Datum)
  | [] => []
  | (name, item) :: rest =>
    (name.renamed numbering, item.renamed numbering) :: Datum.entriesRenamed numbering rest

/-- Named data with the numbers of objects in them renamed. -/
def Datum.fieldsRenamed (numbering : Numbering) : List (String × Datum) → List (String × Datum)
  | [] => []
  | (name, item) :: rest => (name, item.renamed numbering) :: Datum.fieldsRenamed numbering rest

end

instance : Renamable Datum := ⟨Datum.renamed⟩

section

variable {numbering : Numbering}

namespace Datum

theorem allRenamed_eq (items : List Datum) : allRenamed numbering items = rename numbering items := by
  induction items with
  | nil => rfl
  | cons item rest ih => rw [allRenamed, ih]; rfl

theorem entriesRenamed_eq (entries : List (Datum × Datum)) :
    entriesRenamed numbering entries = rename numbering entries := by
  induction entries with
  | nil => rfl
  | cons entry rest ih => rw [entriesRenamed, ih]; rfl

theorem fieldsRenamed_eq (fields : List (String × Datum)) :
    fieldsRenamed numbering fields = rename numbering fields := by
  induction fields with
  | nil => rfl
  | cons field rest ih => rw [fieldsRenamed, ih]; rfl

@[simp] theorem rename_tuple (items : List Datum) :
    rename numbering (tuple items) = tuple (rename numbering items) := by
  rw [← allRenamed_eq]; rfl

@[simp] theorem rename_list (items : List Datum) :
    rename numbering (list items) = list (rename numbering items) := by
  rw [← allRenamed_eq]; rfl

@[simp] theorem rename_queue (items : List Datum) :
    rename numbering (queue items) = queue (rename numbering items) := by
  rw [← allRenamed_eq]; rfl

@[simp] theorem rename_table (entries : List (Datum × Datum)) :
    rename numbering (table entries) = table (rename numbering entries) := by
  rw [← entriesRenamed_eq]; rfl

@[simp] theorem rename_object (address : Nat) (className : String) (title : Option String)
    (fields : List (String × Datum)) :
    rename numbering (object address className title fields) =
      object (numbering.cell address) className title (rename numbering fields) := by
  rw [← fieldsRenamed_eq]; rfl

@[simp] theorem rename_range (first last : Datum) (exclusive : Bool) :
    rename numbering (range first last exclusive) =
      range (rename numbering first) (rename numbering last) exclusive := rfl

/-! ### Printed forms -/

mutual

/-- No printed form shows an address. -/
@[simp] theorem literal_rename (datum : Datum) :
    (rename numbering datum).literal = datum.literal := by
  match datum with
  | .tuple items => simp [literal, literals_rename items]
  | .list items => simp [literal, literals_rename items]
  | .queue items => simp [literal, literals_rename items]
  | .range first last exclusive =>
    simp [literal, literal_rename first, literal_rename last]
  | .table entries => simp [literal, entryLiterals_rename entries]
  | .object address className title fields => simp [literal, fieldLiterals_rename fields]
  | .nil | .bool _ | .int _ | .float _ | .text _ | .symbol _ | .regexp _ | .bytes _
  | .progression _ _ _ | .node _ _ | .buffer _ | .block _ _ | .symbolProc _ | .hostClass _
  | .function _ | .method _ | .again _ => rfl

theorem literals_rename (items : List Datum) :
    literals (rename numbering items) = literals items := by
  match items with
  | [] => rfl
  | item :: rest =>
    rw [rename_cons, literals, literals, literal_rename item, literals_rename rest]

theorem entryLiterals_rename (entries : List (Datum × Datum)) :
    entryLiterals (rename numbering entries) = entryLiterals entries := by
  match entries with
  | [] => rfl
  | (name, item) :: rest =>
    rw [rename_cons, rename_pair, entryLiterals, entryLiterals, literal_rename name,
      literal_rename item, entryLiterals_rename rest]

theorem fieldLiterals_rename (fields : List (String × Datum)) :
    fieldLiterals (rename numbering fields) = fieldLiterals fields := by
  match fields with
  | [] => rfl
  | (name, item) :: rest =>
    rw [rename_cons, rename_pair, fieldLiterals, fieldLiterals, literal_rename item,
      fieldLiterals_rename rest]

end

@[simp] theorem plain_rename (datum : Datum) : (rename numbering datum).plain = datum.plain := by
  have hliteral : (rename numbering datum).literal = datum.literal := literal_rename datum
  cases datum with
  | text s => rfl
  | symbol s => rfl
  | tuple items | list items | queue items | table entries | object _ _ _ fields =>
    simpa [plain] using hliteral
  | _ => exact hliteral

mutual

@[simp] theorem inspect_rename (datum : Datum) :
    (rename numbering datum).inspect = datum.inspect := by
  match datum with
  | .tuple items => simp [inspect, inspections_rename items]
  | .list items => simp [inspect, inspections_rename items]
  | .table entries => simp [inspect, entryInspections_rename entries]
  | .range first last exclusive =>
    simp [inspect, inspect_rename first, inspect_rename last]
  | .queue items =>
    have hliteral : (rename numbering (queue items)).literal = (queue items).literal :=
      literal_rename _
    simpa [inspect] using hliteral
  | .object address className title fields =>
    have hliteral : (rename numbering (object address className title fields)).literal =
        (object address className title fields).literal := literal_rename _
    simpa [inspect] using hliteral
  | .nil | .bool _ | .int _ | .float _ | .text _ | .symbol _ | .regexp _ | .bytes _
  | .progression _ _ _ | .node _ _ | .buffer _ | .block _ _ | .symbolProc _ | .hostClass _
  | .function _ | .method _ | .again _ => rfl

theorem inspections_rename (items : List Datum) :
    inspections (rename numbering items) = inspections items := by
  match items with
  | [] => rfl
  | item :: rest =>
    rw [rename_cons, inspections, inspections, inspect_rename item, inspections_rename rest]

theorem entryInspections_rename (entries : List (Datum × Datum)) :
    entryInspections (rename numbering entries) = entryInspections entries := by
  match entries with
  | [] => rfl
  | (name, item) :: rest =>
    rw [rename_cons, rename_pair, entryInspections, entryInspections, inspect_rename name,
      inspect_rename item, entryInspections_rename rest]

end

end Datum

end

/-! ### Failures -/

/-- What went wrong, with the addresses in the receiver that was refused renamed. -/
def Cause.renamed (numbering : Numbering) : Cause → Cause
  | denied receiver kind member => denied (rename numbering receiver) kind member
  | cause => cause

instance : Renamable Cause := ⟨Cause.renamed⟩

instance : Renamable Failure :=
  ⟨fun numbering failure ↦ { failure with cause := rename numbering failure.cause }⟩

section

variable {numbering : Numbering}

@[simp] theorem Cause.rename_plain (kind : Kind) :
    rename numbering (plain kind) = plain kind := rfl

@[simp] theorem Cause.kind_rename (cause : Cause) : (rename numbering cause).kind = cause.kind := by
  cases cause <;> rfl

@[simp] theorem Cause.message?_rename (cause : Cause) :
    (rename numbering cause).message? = cause.message? := by
  cases cause <;> rfl

@[simp] theorem Failure.rename_mk (cause : Cause) (node : Option Tree) :
    rename numbering (Failure.mk cause node) = ⟨rename numbering cause, node⟩ := rfl

end

end Treewalk
