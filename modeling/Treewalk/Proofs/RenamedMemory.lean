import Mathlib.Data.Finset.Prod
import Treewalk.Proofs.Renaming

/-!
Memories that are numbered differently. A numbering matches two memories when the cells of the left
one stand in the right one under their new addresses, when the closures are the same but for the
frames that they captured, and when both are numbered in step from here on
(`Numbering.Matches`). The right memory may hold more cells, to which nothing leads. All that is read
off memory is then the same on both sides: kinds, keys, printed forms, equality and order.

Values that lead back to themselves need care, as they are followed only until a cell comes up again:
more cells that nothing leads to must not make the way longer (`follow_of_le`).
-/

set_option autoImplicit false
set_option relaxedAutoImplicit false

namespace Treewalk

/-! ### Following keys into each other -/

section

variable {κ ρ : Type} [DecidableEq κ] {stop : κ → ρ} {step : (κ → ρ) → κ → ρ} {keys : Finset κ}

/-- Where more keys may be followed than there are keys that lead on, one more makes no difference. -/
theorem follow_succ (hstep : ∀ key ∉ keys, ∀ below other, step below key = step other key)
    {depth : Nat} {path : List κ} (hdepth : (keys \ path.toFinset).card < depth) (key : κ) :
    follow stop step (depth + 1) path key = follow stop step depth path key := by
  induction depth generalizing path key with
  | zero => omega
  | succ depth ih =>
    rw [follow, follow]
    by_cases hpath : key ∈ path
    · rw [if_pos hpath, if_pos hpath]
    · rw [if_neg hpath, if_neg hpath]
      by_cases hkey : key ∈ keys
      · have hfewer : (keys \ (key :: path).toFinset).card < (keys \ path.toFinset).card := by
          apply Finset.card_lt_card
          rw [Finset.ssubset_iff_of_subset (by
            apply Finset.sdiff_subset_sdiff (Finset.Subset.refl keys)
            simp)]
          exact ⟨key, by simp [hkey, hpath], by simp⟩
        congr 1
        funext other
        exact ih (by omega) other
      · exact hstep key hkey _ _

theorem follow_of_le (hstep : ∀ key ∉ keys, ∀ below other, step below key = step other key)
    {depth more : Nat} (hdepth : keys.card < depth) (hmore : depth ≤ more) (key : κ) :
    follow stop step more [] key = follow stop step depth [] key := by
  induction hmore with
  | refl => rfl
  | step hle ih =>
    rw [follow_succ hstep (by simpa using hdepth.trans_le hle), ih]

/-- What keys come to is related to what they come to under other names, provided that this holds of
the defaults and is kept by every step. -/
theorem follow_relates {κ' ρ' : Type} [DecidableEq κ'] {stop' : κ' → ρ'}
    {step' : (κ' → ρ') → κ' → ρ'} {name : κ → κ'} (hname : Function.Injective name)
    (relates : ρ → ρ' → Prop) (hstop : ∀ key, relates (stop key) (stop' (name key)))
    (hstep : ∀ below below', (∀ key, relates (below key) (below' (name key))) →
      ∀ key, relates (step below key) (step' below' (name key))) (depth : Nat) (path : List κ)
    (key : κ) :
    relates (follow stop step depth path key)
      (follow stop' step' depth (path.map name) (name key)) := by
  induction depth generalizing path key with
  | zero => exact hstop key
  | succ depth ih =>
    rw [follow, follow]
    by_cases hpath : key ∈ path
    · rw [if_pos hpath, if_pos ((List.mem_map_of_injective hname).mpr hpath)]
      exact hstop key
    · rw [if_neg hpath, if_neg fun hmem ↦ hpath ((List.mem_map_of_injective hname).mp hmem)]
      exact hstep _ _ (ih (key :: path)) key

end

/-! ### Memories -/

/-- The right memory is the left one, numbered differently; it may hold more cells. -/
structure Numbering.Mirrors (numbering : Numbering) (left right : Memory) : Prop where
  cells : ∀ address, right.heap[numbering.cell address]? = rename numbering left.heap[address]?
  size : left.heap.size ≤ right.heap.size
  closures : right.closures = left.closures.map (rename numbering)
  marks : right.marks = left.marks

/-- The memories mirror each other, and as long as the left one has no more cells than the limit, new
cells are numbered in step. -/
structure Numbering.Matches (numbering : Numbering) (limit : Nat) (left right : Memory) : Prop extends
    numbering.Mirrors left right where
  next : ∀ count, left.heap.size + count < limit →
    numbering.cell (left.heap.size + count) = right.heap.size + count

/-- Every memory can be numbered differently. -/
theorem Numbering.exists_mirrors (numbering : Numbering) (left : Memory) :
    ∃ right, numbering.Mirrors left right := by
  obtain ⟨heap, hcells, hsize⟩ : ∃ heap : Array Cell,
      (∀ address, heap[numbering.cell address]? = rename numbering left.heap[address]?) ∧
        heap.size ≤ numbering.cell left.heap.size ∧ left.heap.size ≤ heap.size := by
    generalize left.heap = cells
    obtain ⟨cells⟩ := cells
    induction cells using List.reverseRecOn with
    | nil => exact ⟨#[], by simp, by simp, by simp⟩
    | append_singleton cells cell ih =>
      obtain ⟨heap, hcells, hsize, hleast⟩ := ih
      simp only [List.getElem?_toArray, List.size_toArray] at hcells hsize hleast
      have hgap : heap.size + (numbering.cell cells.length - heap.size) =
          numbering.cell cells.length := by omega
      -- The gap up to the new address is filled with cells that nothing leads to.
      refine ⟨heap ++ Array.replicate (numbering.cell cells.length - heap.size) default ++
        #[rename numbering cell], ?_, ?_, ?_⟩
      · intro address
        rcases Nat.lt_trichotomy address cells.length with hlt | rfl | hgt
        · have hold : numbering.cell address < heap.size := by
            have hcell := hcells address
            rw [List.getElem?_eq_getElem hlt] at hcell
            exact (Array.getElem?_eq_some_iff.mp hcell).1
          rw [Array.getElem?_append_left (by simp only [Array.size_append, Array.size_replicate]; omega),
            Array.getElem?_append_left hold, hcells, List.getElem?_toArray,
            List.getElem?_append_left hlt]
        · rw [Array.getElem?_append_right
            (by simp only [Array.size_append, Array.size_replicate]; omega)]
          simp [hgap]
        · have hmore := numbering.cell_strictMono hgt
          rw [Array.getElem?_eq_none (by
            simp only [Array.size_append, Array.size_replicate, List.size_toArray,
              List.length_singleton]
            omega), List.getElem?_toArray, List.getElem?_eq_none (by simpa using Nat.succ_le_of_lt hgt)]
          rfl
      · have hmore := numbering.cell_strictMono (Nat.lt_succ_self cells.length)
        simp only [Array.size_append, Array.size_replicate, List.size_toArray, List.length_append,
          List.length_singleton, hgap]
        exact hmore
      · simp only [Array.size_append, Array.size_replicate, List.size_toArray, List.length_append,
          List.length_singleton]
        omega
  exact ⟨⟨heap, left.closures.map (rename numbering), left.marks⟩, hcells, hsize.2, rfl, rfl⟩

namespace Value

variable {numbering : Numbering} {heap other : Array Cell}

mutual

/-- A value can be a key on both sides or on neither, and the keys correspond. -/
theorem key?_rename
    (hcells : ∀ address, other[numbering.cell address]? = rename numbering heap[address]?)
    (value : Value) :
    (rename numbering value).key? other = rename numbering (value.key? heap) := by
  match value with
  | .tuple items mark =>
    rw [rename_tuple, key?, key?, keys?_rename hcells items, length_rename]
    cases keys? heap items <;> rfl
  | .range first last exclusive mark =>
    rw [rename_range, key?, key?, key?_rename hcells first, key?_rename hcells last]
    cases first.key? heap with
    | none => rfl
    | some a =>
      cases last.key? heap with
      | none => rfl
      | some b =>
        change some (Key.Part.range exclusive :: rename numbering a ++ rename numbering b) =
          rename numbering (some (Key.Part.range exclusive :: a ++ b))
        rw [rename_some, rename_append, rename_cons]
        rfl
  | .float x mark => exact congrArg some (Key.rename_ofFloat mark x).symm
  | .node tag children mark => exact congrArg some (Tree.rename_key mark (.node tag children)).symm
  | .cell address =>
    rw [rename_cell, key?, key?, hcells]
    cases heap[address]? with
    | none => rfl
    | some cell => cases cell <;> rfl
  | .method receiver name mark =>
    rw [rename_method, key?, key?, identity_rename]
    rfl
  | .progression start stop step mark =>
    rw [rename_progression, key?, key?, rename_some, rename_cons, rename_nil]
    unfold Progression.key
    split <;> rfl
  | .inner index part =>
    rw [rename_inner, key?, key?]
    split <;> rfl
  | .nil | .bool _ | .int _ _ | .text _ _ | .symbol _ _ | .regexp _ | .bytes _ _ | .closure _
  | .hostClass _ | .function _ => rfl

theorem keys?_rename
    (hcells : ∀ address, other[numbering.cell address]? = rename numbering heap[address]?)
    (items : List Value) :
    keys? other (rename numbering items) = rename numbering (keys? heap items) := by
  match items with
  | [] => rfl
  | item :: rest =>
    rw [rename_cons, keys?, keys?, key?_rename hcells item, keys?_rename hcells rest]
    cases item.key? heap with
    | none => rfl
    | some a =>
      cases keys? heap rest with
      | none => rfl
      | some b => exact congrArg some (rename_append a b).symm

end

/-- Whether a value is compared part by part with others of its kind. -/
def isCompound : Value → Bool
  | tuple _ _ | range _ _ _ _ | cell _ => true
  | _ => false

variable {cells cells' : Nat → Nat → Bool} {simple simple' : Value → Value → Bool}

/-- What has no parts equals no tuple and no range; with anything else it is compared as a whole. -/
theorem sameWith_of_not_compound {value : Value} (hvalue : value.isCompound = false)
    (against : Value) :
    value.sameWith cells simple against =
      match against with
      | .tuple _ _ | .range _ _ _ _ => false
      | _ => simple value against := by
  cases value with
  | tuple items mark => cases hvalue
  | range first last exclusive mark => cases hvalue
  | cell address => cases hvalue
  | _ => cases against <;> rfl

mutual

/-- Whether values are equal does not depend on how they are numbered. -/
theorem sameWith_rename
    (hcells : ∀ a b, cells' (numbering.cell a) (numbering.cell b) = cells a b)
    (hsimple : ∀ a b, simple' (rename numbering a) (rename numbering b) = simple a b)
    (value against : Value) :
    (rename numbering value).sameWith cells' simple' (rename numbering against) =
      value.sameWith cells simple against := by
  match value with
  | .tuple items mark =>
    cases against with
    | tuple others mark' =>
      rw [rename_tuple, rename_tuple]
      exact sameItemsWith_rename hcells hsimple items others
    | _ => rfl
  | .range first last exclusive mark =>
    cases against with
    | range first' last' exclusive' mark' =>
      rw [rename_range, rename_range, sameWith, sameWith, identical_rename, identical_rename,
        sameWith_rename hcells hsimple first, sameWith_rename hcells hsimple last]
    | _ => rfl
  | .cell address =>
    have hwhole := hsimple (.cell address) against
    cases against with
    | cell address' => exact hcells address address'
    | tuple others mark' => rfl
    | range first' last' exclusive' mark' => rfl
    | _ => exact hwhole
  | .nil | .bool _ | .int _ _ | .float _ _ | .text _ _ | .symbol _ _ | .regexp _ | .bytes _ _
  | .progression _ _ _ _ | .node _ _ _ | .closure _ | .inner _ _ | .hostClass _ | .function _
  | .method _ _ _ =>
    rw [sameWith_of_not_compound rfl, sameWith_of_not_compound rfl, ← hsimple]
    cases against <;> rfl

theorem sameItemsWith_rename
    (hcells : ∀ a b, cells' (numbering.cell a) (numbering.cell b) = cells a b)
    (hsimple : ∀ a b, simple' (rename numbering a) (rename numbering b) = simple a b)
    (items others : List Value) :
    sameItemsWith cells' simple' (rename numbering items) (rename numbering others) =
      sameItemsWith cells simple items others := by
  match items, others with
  | [], [] | [], _ :: _ | _ :: _, [] => rfl
  | item :: rest, other :: others =>
    rw [rename_cons, rename_cons, sameItemsWith, sameItemsWith, identical_rename,
      sameWith_rename hcells hsimple item, sameItemsWith_rename hcells hsimple rest]

end

variable {memory memory' : Memory} {order order' : Nat → Nat → Option Bool} {relation : Relation}

mutual

theorem orderedWith?_rename
    (hcells : ∀ a b, order' (numbering.cell a) (numbering.cell b) = order a b)
    (hsimple : ∀ a b, memory'.orderedSimple? relation (rename numbering a) (rename numbering b) =
      memory.orderedSimple? relation a b)
    (hmatching : ∀ a b, memory'.matching (rename numbering a) (rename numbering b) =
      memory.matching a b) (value against : Value) :
    (rename numbering value).orderedWith? memory' order' relation (rename numbering against) =
      value.orderedWith? memory order relation against := by
  have hwhole := hsimple value against
  match value with
  | .tuple items mark =>
    cases against with
    | tuple others mark' =>
      rw [rename_tuple, rename_tuple]
      exact orderedItemsWith?_rename hcells hsimple hmatching items others
    | _ => exact hwhole
  | .cell address =>
    cases against with
    | cell address' => exact hcells address address'
    | _ => exact hwhole
  | .nil | .bool _ | .int _ _ | .float _ _ | .text _ _ | .symbol _ _ | .range _ _ _ _ | .regexp _
  | .bytes _ _ | .progression _ _ _ _ | .node _ _ _ | .closure _ | .inner _ _ | .hostClass _
  | .function _ | .method _ _ _ => cases against <;> exact hwhole

theorem orderedItemsWith?_rename
    (hcells : ∀ a b, order' (numbering.cell a) (numbering.cell b) = order a b)
    (hsimple : ∀ a b, memory'.orderedSimple? relation (rename numbering a) (rename numbering b) =
      memory.orderedSimple? relation a b)
    (hmatching : ∀ a b, memory'.matching (rename numbering a) (rename numbering b) =
      memory.matching a b) (items others : List Value) :
    orderedItemsWith? memory' order' relation (rename numbering items) (rename numbering others) =
      orderedItemsWith? memory order relation items others := by
  match items, others with
  | [], [] | [], _ :: _ | _ :: _, [] => rfl
  | item :: rest, other :: others =>
    rw [rename_cons, rename_cons, orderedItemsWith?, orderedItemsWith?, hmatching,
      orderedWith?_rename hcells hsimple hmatching item,
      orderedItemsWith?_rename hcells hsimple hmatching rest]

end

variable {atCell atCell' atClosure atClosure' : Nat → Datum}

mutual

theorem toDatum_rename
    (hcells : ∀ address, atCell' (numbering.cell address) = rename numbering (atCell address))
    (hclosures : ∀ index, atClosure' index = rename numbering (atClosure index)) (value : Value) :
    (rename numbering value).toDatum atCell' atClosure' =
      rename numbering (value.toDatum atCell atClosure) := by
  match value with
  | .tuple items mark =>
    rw [rename_tuple, toDatum, toDatum, Datum.rename_tuple, toData_rename hcells hclosures items]
  | .range first last exclusive mark =>
    rw [rename_range, toDatum, toDatum, Datum.rename_range, toDatum_rename hcells hclosures first,
      toDatum_rename hcells hclosures last]
  | .cell address => exact hcells address
  | .closure index => exact hclosures index
  | .nil | .bool _ | .int _ _ | .float _ _ | .text _ _ | .symbol _ _ | .regexp _ | .bytes _ _
  | .progression _ _ _ _ | .node _ _ _ | .inner _ _ | .hostClass _ | .function _
  | .method _ _ _ => rfl

theorem toData_rename
    (hcells : ∀ address, atCell' (numbering.cell address) = rename numbering (atCell address))
    (hclosures : ∀ index, atClosure' index = rename numbering (atClosure index))
    (items : List Value) :
    toData atCell' atClosure' (rename numbering items) =
      rename numbering (toData atCell atClosure items) := by
  match items with
  | [] => rfl
  | item :: rest =>
    rw [rename_cons, toData, toData, rename_cons, toDatum_rename hcells hclosures item,
      toData_rename hcells hclosures rest]

end

end Value

/-! ### What is read off memory -/

/-- The addresses at which there are cells. -/
def Memory.addresses (memory : Memory) : Finset Nat := Finset.range memory.heap.size

theorem Memory.getElem?_of_not_mem {memory : Memory} {address : Nat}
    (haddress : address ∉ memory.addresses) : memory.heap[address]? = none := by
  rw [addresses, Finset.mem_range, Nat.not_lt] at haddress
  exact Array.getElem?_eq_none haddress

namespace Numbering.Mirrors

variable {numbering : Numbering} {left right : Memory} (hmirrors : numbering.Mirrors left right)

include hmirrors

@[simp] theorem cell?_rename (value : Value) :
    right.cell? (rename numbering value) = rename numbering (left.cell? value) := by
  cases value with
  | cell address => exact hmirrors.cells address
  | _ => rfl

theorem closure? (index : Nat) : right.closure? index = rename numbering (left.closure? index) := by
  rw [Memory.closure?, Memory.closure?, hmirrors.closures, Array.getElem?_map]
  rfl

theorem kindName (value : Value) :
    right.kindName (rename numbering value) = left.kindName value := by
  have hcell (address : Nat) := hmirrors.cells address
  cases value with
  | cell address =>
    rw [Value.rename_cell, Memory.kindName, Memory.kindName, hcell]
    cases left.heap[address]? with
    | none => rfl
    | some cell => cases cell <;> rfl
  | closure index =>
    rw [Value.rename_closure, Memory.kindName, Memory.kindName, hmirrors.closure? index]
    cases left.closure? index with
    | none => rfl
    | some closure => cases closure <;> rfl
  | method receiver name mark =>
    cases receiver with
    | cell address =>
      simp only [Value.rename_method, Value.rename_cell, Memory.kindName, hcell]
      cases left.heap[address]? with
      | none => rfl
      | some cell => cases cell <;> rfl
    | _ => rfl
  | _ => rfl

theorem describe (value : Value) :
    right.describe (rename numbering value) = left.describe value := by
  have hkind := hmirrors.kindName value
  cases value with
  | nil => rfl
  | hostClass name => rfl
  | _ => exact congrArg ("an instance of " ++ ·) hkind

theorem key? (value : Value) :
    right.key? (rename numbering value) = rename numbering (left.key? value) :=
  value.key?_rename hmirrors.cells

theorem bytes? (value : Value) : right.bytes? (rename numbering value) = left.bytes? value := by
  cases value with
  | cell address =>
    simp only [Value.rename_cell, Memory.bytes?, Memory.cell?, hmirrors.cells]
    cases left.heap[address]? with
    | none => rfl
    | some cell => cases cell <;> rfl
  | _ => rfl

theorem isGranted (value : Value) :
    right.isGranted (rename numbering value) = left.isGranted value := by
  cases value with
  | cell address =>
    simp only [Value.rename_cell, Memory.isGranted, Memory.cell?, hmirrors.cells]
    cases left.heap[address]? with
    | none => rfl
    | some cell => cases cell <;> simp
  | tuple items mark => rw [Value.rename_tuple, Memory.isGranted, Memory.isGranted, isEmpty_rename]
  | _ => rfl

/-! ### Equality and order -/

theorem sameSimple (value other : Value) :
    right.sameSimple (rename numbering value) (rename numbering other) =
      left.sameSimple value other := by
  unfold Memory.sameSimple
  simp only [Value.number?_rename, Value.text?_rename, hmirrors.bytes?, hmirrors.key?]
  cases left.key? value with
  | none => rfl
  | some key =>
    cases left.key? other with
    | none => rfl
    | some key' => simp only [rename_some, Key.rename_inj]

/-- A pair of cells that leads on is one of two cells that are there. -/
theorem follow_pairs {ρ : Type} {default : ρ} {leftStep rightStep : (Nat × Nat → ρ) → Nat × Nat → ρ}
    (hmissing : ∀ pair, left.heap[pair.1]? = none ∨ left.heap[pair.2]? = none →
      ∀ below other, leftStep below pair = leftStep other pair)
    (hstep : ∀ below below' : Nat × Nat → ρ,
      (∀ pair, below' (Prod.map numbering.cell numbering.cell pair) = below pair) → ∀ pair,
        rightStep below' (Prod.map numbering.cell numbering.cell pair) = leftStep below pair)
    (a b : Nat) :
    follow (fun _ ↦ default) rightStep right.longestPath [] (numbering.cell a, numbering.cell b) =
      follow (fun _ ↦ default) leftStep left.longestPath [] (a, b) := by
  have hname : Function.Injective (Prod.map numbering.cell numbering.cell) :=
    numbering.cell_injective.prodMap numbering.cell_injective
  have hmapped : follow (fun _ ↦ default) rightStep right.longestPath []
      (numbering.cell a, numbering.cell b) =
        follow (fun _ ↦ default) leftStep right.longestPath [] (a, b) :=
    follow_relates hname (fun result other ↦ other = result) (fun _ ↦ rfl) hstep _ [] (a, b)
  have hkeys : ∀ pair ∉ left.addresses ×ˢ left.addresses, ∀ below other,
      leftStep below pair = leftStep other pair := by
    intro pair hpair
    apply hmissing pair
    by_contra hboth
    rw [not_or] at hboth
    refine hpair (Finset.mem_product.mpr ⟨?_, ?_⟩)
    · exact by_contra fun hfirst ↦ hboth.1 (Memory.getElem?_of_not_mem hfirst)
    · exact by_contra fun hsecond ↦ hboth.2 (Memory.getElem?_of_not_mem hsecond)
  have hlonger : left.longestPath ≤ right.longestPath := by
    unfold Memory.longestPath
    exact Nat.succ_le_succ (Nat.mul_le_mul hmirrors.size hmirrors.size)
  have hcard : (left.addresses ×ˢ left.addresses).card < left.longestPath := by
    simp [Memory.addresses, Memory.longestPath]
  rw [← follow_of_le hkeys hcard hlonger]
  exact hmapped

theorem sameCells (a b : Nat) :
    right.sameCells (numbering.cell a) (numbering.cell b) = left.sameCells a b := by
  refine hmirrors.follow_pairs (fun pair hmissing below other ↦ ?_)
    (fun below below' hbelow pair ↦ ?_) a b
  · unfold Memory.sameFrom
    rcases hmissing with hmissing | hmissing
    · rw [hmissing]
    · rw [hmissing]
      cases left.heap[pair.1]? with
      | none => rfl
      | some cell => cases cell <;> rfl
  · obtain ⟨a, b⟩ := pair
    have hitems (items others : List Value) :
        Value.sameItemsWith (fun a b ↦ below' (a, b)) right.sameSimple (rename numbering items)
            (rename numbering others) =
          Value.sameItemsWith (fun a b ↦ below (a, b)) left.sameSimple items others :=
      Value.sameItemsWith_rename (fun a b ↦ hbelow (a, b)) hmirrors.sameSimple items others
    have hentries (entries others : Table) :
        ((rename numbering entries).all fun entry ↦
            ((rename numbering others).find? entry.key).any fun other ↦
              Value.sameItemsWith (fun a b ↦ below' (a, b)) right.sameSimple [entry.value] [other]) =
          entries.all fun entry ↦ (others.find? entry.key).any fun other ↦
            Value.sameItemsWith (fun a b ↦ below (a, b)) left.sameSimple [entry.value] [other] := by
      rw [rename_list, List.all_map]
      congr 1
      funext entry
      simp only [Function.comp_apply, key_rename, Table.find?_rename, value_rename]
      cases others.find? entry.key with
      | none => rfl
      | some other => exact hitems [entry.value] [other]
    simp only [Memory.sameFrom, Prod.map_apply, hmirrors.cells]
    cases left.heap[a]? with
    | none => rfl
    | some cell =>
      cases left.heap[b]? with
      | none => cases cell <;> rfl
      | some cell' =>
        cases cell <;> cases cell' <;>
          simp [hitems, hentries, numbering.cell_injective.eq_iff]

theorem same (value other : Value) :
    right.same (rename numbering value) (rename numbering other) = left.same value other :=
  Value.sameWith_rename hmirrors.sameCells hmirrors.sameSimple value other

theorem matching (value other : Value) :
    right.matching (rename numbering value) (rename numbering other) = left.matching value other := by
  rw [Memory.matching, Memory.matching, Value.identical_rename, hmirrors.same]

theorem orderedSimple? (relation : Relation) (value other : Value) :
    right.orderedSimple? relation (rename numbering value) (rename numbering other) =
      left.orderedSimple? relation value other := by
  unfold Memory.orderedSimple?
  simp only [Value.number?_rename, Value.text?_rename, hmirrors.bytes?]

theorem orderedCells? (relation : Relation) (a b : Nat) :
    right.orderedCells? relation (numbering.cell a) (numbering.cell b) =
      left.orderedCells? relation a b := by
  refine hmirrors.follow_pairs (fun pair hmissing below other ↦ ?_)
    (fun below below' hbelow pair ↦ ?_) a b
  · unfold Memory.orderedFrom?
    rcases hmissing with hmissing | hmissing
    · rw [hmissing]
    · rw [hmissing]
      cases left.heap[pair.1]? with
      | none => rfl
      | some cell => cases cell <;> rfl
  · obtain ⟨a, b⟩ := pair
    have hitems (items others : List Value) :
        Value.orderedItemsWith? right (fun a b ↦ below' (a, b)) relation (rename numbering items)
            (rename numbering others) =
          Value.orderedItemsWith? left (fun a b ↦ below (a, b)) relation items others :=
      Value.orderedItemsWith?_rename (fun a b ↦ hbelow (a, b)) (hmirrors.orderedSimple? relation)
        hmirrors.matching items others
    have hsimple : right.orderedSimple? relation (.cell (numbering.cell a))
        (.cell (numbering.cell b)) = left.orderedSimple? relation (.cell a) (.cell b) :=
      hmirrors.orderedSimple? relation (.cell a) (.cell b)
    simp only [Memory.orderedFrom?, Prod.map_apply, hmirrors.cells]
    cases left.heap[a]? with
    | none => exact hsimple
    | some cell =>
      cases left.heap[b]? with
      | none => cases cell <;> exact hsimple
      | some cell' =>
        cases cell <;> cases cell' <;> first
          | exact hitems _ _
          | exact hsimple

theorem ordered? (relation : Relation) (value other : Value) :
    right.ordered? relation (rename numbering value) (rename numbering other) =
      left.ordered? relation value other :=
  Value.orderedWith?_rename (hmirrors.orderedCells? relation) (hmirrors.orderedSimple? relation)
    hmirrors.matching value other

/-! ### Views -/

theorem closureDatum (index : Nat) :
    right.closureDatum index = rename numbering (left.closureDatum index) := by
  rw [Memory.closureDatum, Memory.closureDatum, hmirrors.closure? index]
  cases left.closure? index with
  | none => rfl
  | some closure => cases closure <;> rfl

theorem cellDatum (address : Nat) :
    right.cellDatum (numbering.cell address) = rename numbering (left.cellDatum address) := by
  have hkeys : ∀ address ∉ left.addresses, ∀ below other,
      left.datumFrom below address = left.datumFrom other address := by
    intro address haddress below other
    rw [Memory.datumFrom, Memory.datumFrom, Memory.getElem?_of_not_mem haddress]
  have hstep (below below' : Nat → Datum)
      (hbelow : ∀ address, below' (numbering.cell address) = rename numbering (below address))
      (address : Nat) : right.datumFrom below' (numbering.cell address) =
        rename numbering (left.datumFrom below address) := by
    have hdatum (value : Value) :
        (rename numbering value).toDatum below' right.closureDatum =
          rename numbering (value.toDatum below left.closureDatum) :=
      value.toDatum_rename hbelow hmirrors.closureDatum
    rw [Memory.datumFrom, Memory.datumFrom, hmirrors.cells]
    cases left.heap[address]? with
    | none => rfl
    | some cell =>
      cases cell <;> simp [rename_list, Function.comp_def, hdatum]
      all_goals rfl
  have hstop (address : Nat) :
      right.cellAgain (numbering.cell address) = rename numbering (left.cellAgain address) := by
    rw [Memory.cellAgain, Memory.cellAgain, hmirrors.cells]
    cases left.heap[address]? with
    | none => rfl
    | some cell => cases cell <;> rfl
  have hmapped := follow_relates numbering.cell_injective
    (fun datum other ↦ other = rename numbering datum) hstop hstep (right.heap.size + 1) [] address
  have hcard : left.addresses.card < left.heap.size + 1 := by simp [Memory.addresses]
  rw [Memory.cellDatum, Memory.cellDatum,
    ← follow_of_le hkeys hcard (Nat.succ_le_succ hmirrors.size)]
  exact hmapped

/-- What is seen of a value is the same on both sides, under other numbers. -/
theorem view (value : Value) :
    right.view (rename numbering value) = rename numbering (left.view value) :=
  value.toDatum_rename hmirrors.cellDatum hmirrors.closureDatum

end Numbering.Mirrors

/-! ### Changes -/

namespace Numbering.Matches

variable {numbering : Numbering} {limit : Nat} {left right : Memory}
  (hmatches : numbering.Matches limit left right)

include hmatches

theorem mint : numbering.Matches limit left.mint.2 right.mint.2 :=
  { hmatches with marks := congrArg (· + 1) hmatches.marks }

/-- As long as the limit is not reached, a new cell gets its address on both sides. -/
theorem allocate (hlimit : left.heap.size < limit) (cell : Cell) :
    (right.allocate (rename numbering cell)).1 = rename numbering (left.allocate cell).1 ∧
      numbering.Matches limit (left.allocate cell).2 (right.allocate (rename numbering cell)).2 := by
  have hnew : numbering.cell left.heap.size = right.heap.size := hmatches.next 0 hlimit
  refine ⟨congrArg Value.cell hnew.symm, ?_⟩
  exact
    { hmatches with
      cells := by
        intro address
        simp only [Memory.allocate, Array.getElem?_push, ← hnew, numbering.cell_injective.eq_iff]
        split
        · rfl
        · exact hmatches.cells address
      size := by
        simp only [Memory.allocate, Array.size_push]
        exact Nat.succ_le_succ hmatches.size
      next := by
        intro count hcount
        simp only [Memory.allocate, Array.size_push] at hcount ⊢
        have hnext := hmatches.next (count + 1) (by omega)
        rw [Nat.add_right_comm, Nat.add_assoc, hnext]
        omega }

/-- A cell gets new contents on both sides. -/
theorem store (address : Nat) (cell : Cell) :
    numbering.Matches limit (left.store address cell)
      (right.store (numbering.cell address) (rename numbering cell)) :=
  { hmatches with
    cells := by
      intro other
      have hcell := hmatches.cells address
      have hbounds : numbering.cell address < right.heap.size ↔ address < left.heap.size := by
        have hsome := congrArg Option.isSome hcell
        rwa [isSome_rename, Bool.eq_iff_iff, isSome_getElem?, isSome_getElem?] at hsome
      simp only [Memory.store, Array.getElem?_setIfInBounds, numbering.cell_injective.eq_iff, hbounds]
      split
      · split <;> rfl
      · exact hmatches.cells other
    size := by
      simp only [Memory.store, Array.size_setIfInBounds]
      exact hmatches.size
    next := by
      simp only [Memory.store, Array.size_setIfInBounds]
      exact hmatches.next }

theorem close (closure : Closure) :
    (right.close (rename numbering closure)).1 = (left.close closure).1 ∧
      numbering.Matches limit (left.close closure).2 (right.close (rename numbering closure)).2 := by
  have hsize : right.closures.size = left.closures.size := by
    rw [hmatches.closures, Array.size_map]
  refine ⟨congrArg Value.closure hsize, ?_⟩
  exact
    { hmatches with
      closures := by
        simp only [Memory.close, Array.map_push, hmatches.closures] }

end Numbering.Matches

end Treewalk
