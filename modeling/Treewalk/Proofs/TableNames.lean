import Mathlib.Data.List.Perm.Subperm
import Treewalk.Proofs.Parameters

/-!
What becomes the name of an entry of a table literal. A list is frozen to the tuple of its frozen
items, all the way down (`Value.Freezes`); what is no list stays what it is, with all that it holds. A
frozen value serves as a name if it can be a key.

A list that leads back to itself has no frozen form, and the conversion of it goes on without end. It is
told by its cell coming up again on the way along the lists (`Eval.Way`): along a way that comes to an
end each list nests less deep than the one before, and so none comes up twice. So the conversion
answers with a frozen form that can be a key, refuses a value that has none, or has met a list without
end, and all that it does to memory is to give out marks for the tuples that it makes
(`Eval.run_entryKey`).
-/

set_option autoImplicit false
set_option relaxedAutoImplicit false

namespace Treewalk

namespace Value

/-- The items of the list that a value is, if it is one. -/
def list? (heap : Array Cell) : Value → Option (List Value)
  | .cell address =>
    match heap[address]? with
    | some (.list items) => some items
    | _ => none
  | _ => none

mutual

/-- What a value is once all lists are tuples: a list is the tuple of what its items are, and any other
value is left as it is. -/
inductive Freezes (heap : Array Cell) : Value → Value → Prop where
  | kept {value : Value} (hlist : value.list? heap = none) : Freezes heap value value
  | list {value : Value} {items names : List Value} (mark : Mark)
      (hlist : value.list? heap = some items) (hnames : FreezeAll heap items names) :
      Freezes heap value (.tuple names mark)

/-- What values are, one by one, once all lists are tuples. -/
inductive FreezeAll (heap : Array Cell) : List Value → List Value → Prop where
  | nil : FreezeAll heap [] []
  | cons {item name : Value} {rest names : List Value} (hfirst : Freezes heap item name)
      (hrest : FreezeAll heap rest names) : FreezeAll heap (item :: rest) (name :: names)

end

/-- Lists lie in each other at most so deep below a value. -/
def Nests (heap : Array Cell) : Nat → Value → Prop
  | 0, value => value.list? heap = none
  | depth + 1, value => ∀ items, value.list? heap = some items → ∀ item ∈ items, Nests heap depth item

variable {heap : Array Cell} {depth : Nat} {value plain : Value}

theorem exists_cell_of_list? {items : List Value} (hlist : value.list? heap = some items) :
    ∃ address, value = .cell address ∧ heap[address]? = some (.list items) := by
  unfold list? at hlist
  split at hlist
  · next address =>
    split at hlist
    · next found hfound =>
      obtain rfl := Option.some_inj.mp hlist
      exact ⟨address, rfl, hfound⟩
    · cases hlist
  · cases hlist

/-- A list that comes to an end encloses what comes to an end sooner. -/
def Encloses (heap : Array Cell) (outer inner : Value) : Prop :=
  ∀ depth, Nests heap depth outer → ∃ level < depth, Nests heap level inner

theorem Encloses.of_mem {items : List Value} {item : Value} (hlist : value.list? heap = some items)
    (hitem : item ∈ items) : Encloses heap value item := by
  intro depth hnests
  cases depth with
  | zero => cases hnests.symm.trans hlist
  | succ level => exact ⟨level, Nat.lt_succ_self level, hnests items hlist item hitem⟩

theorem Encloses.trans {outer middle inner : Value} (hfirst : Encloses heap outer middle)
    (hsecond : Encloses heap middle inner) : Encloses heap outer inner := by
  intro depth hnests
  obtain ⟨level, hlevel, hmiddle⟩ := hfirst depth hnests
  obtain ⟨lower, hlower, hinner⟩ := hsecond level hmiddle
  exact ⟨lower, Nat.lt_trans hlower hlevel, hinner⟩

/-- What encloses something without an end has none either. -/
theorem Encloses.endless {outer inner : Value} (hencloses : Encloses heap outer inner)
    (hinner : ∀ depth, ¬ Nests heap depth inner) (depth : Nat) : ¬ Nests heap depth outer := by
  intro hnests
  obtain ⟨level, -, hlevel⟩ := hencloses depth hnests
  exact hinner level hlevel

/-- What encloses itself has no end. -/
theorem Encloses.irrefl (hencloses : Encloses heap value value) (depth : Nat) :
    ¬ Nests heap depth value := by
  induction depth using Nat.strongRecOn with
  | ind depth ih =>
    intro hnests
    obtain ⟨level, hlevel, hlower⟩ := hencloses depth hnests
    exact ih level hlevel hlower

/-! ### Tuples as keys -/

theorem isSome_keys?_iff {names : List Value} :
    (keys? heap names).isSome ↔ ∀ name ∈ names, (name.key? heap).isSome := by
  induction names with
  | nil => exact iff_of_true rfl nofun
  | cons name rest ih =>
    rw [List.forall_mem_cons, ← ih, keys?]
    cases name.key? heap <;> cases keys? heap rest <;> simp

theorem isSome_key?_tuple_iff {names : List Value} {mark : Mark} :
    ((tuple names mark).key? heap).isSome ↔ ∀ name ∈ names, (name.key? heap).isSome := by
  rw [key?, Option.isSome_map, isSome_keys?_iff]

theorem list?_eq_none_of_key? (hkey : (value.key? heap).isSome) : value.list? heap = none := by
  cases value with
  | cell address =>
    unfold key? at hkey
    unfold list?
    dsimp only
    split
    · next hcell => simp [hcell] at hkey
    · rfl
  | _ => rfl

theorem FreezeAll.exists_name {items names : List Value} (hnames : FreezeAll heap items names)
    (hkeys : ∀ name ∈ names, (name.key? heap).isSome) :
    ∀ item ∈ items, ∃ name, item.Freezes heap name ∧ (name.key? heap).isSome := by
  match hnames with
  | .nil => exact nofun
  | .cons hfirst hrest =>
    obtain ⟨hkey, hothers⟩ := List.forall_mem_cons.mp hkeys
    exact List.forall_mem_cons.mpr ⟨⟨_, hfirst, hkey⟩, hrest.exists_name hothers⟩

/-- The items of a list with a frozen form that can be a key have such forms too. -/
theorem Freezes.items {items : List Value} (hfreezes : value.Freezes heap plain)
    (hkey : (plain.key? heap).isSome) (hlist : value.list? heap = some items) :
    ∀ item ∈ items, ∃ name, item.Freezes heap name ∧ (name.key? heap).isSome := by
  cases hfreezes with
  | kept hnone => cases hnone.symm.trans hlist
  | list mark hitems hnames =>
    obtain rfl := Option.some_inj.mp (hitems.symm.trans hlist)
    exact hnames.exists_name (isSome_key?_tuple_iff.mp hkey)

end Value

/-! ### Conversion to names -/

/-- Nothing was done to memory but that marks were given out. -/
structure Memory.Mints (before after : Memory) : Prop where
  heap : after.heap = before.heap
  closures : after.closures = before.closures
  marks : before.marks ≤ after.marks

namespace Memory.Mints

theorem refl (memory : Memory) : memory.Mints memory := ⟨rfl, rfl, Nat.le_refl _⟩

theorem trans {first middle last : Memory} (hfirst : first.Mints middle)
    (hlast : middle.Mints last) : first.Mints last :=
  ⟨hlast.heap.trans hfirst.heap, hlast.closures.trans hfirst.closures,
    Nat.le_trans hfirst.marks hlast.marks⟩

end Memory.Mints

namespace Compute

theorem run_bind {α β : Type} (computation : Compute α) (after : α → Compute β) (memory : Memory) :
    (computation >>= after).run.run memory =
      (ExceptT.bindCont after (computation.run.run memory).1).run
        (computation.run.run memory).2 := rfl

/-- A new tuple has the items that it is made of, and takes at most a mark. -/
theorem run_newTuple (items : List Value) (memory : Memory) :
    ∃ mark changed, (newTuple items).run.run memory = (.ok (.tuple items mark), changed) ∧
      memory.Mints changed := by
  unfold newTuple
  split
  · next hempty =>
    obtain rfl := List.isEmpty_iff.mp hempty
    exact ⟨.common, memory, rfl, .refl memory⟩
  · exact ⟨_, _, rfl, rfl, rfl, Nat.le_succ _⟩

end Compute

namespace Eval

variable {heap : Array Cell} {before after : Memory}

/-- What becomes of a value that is converted to a name: its frozen form, if that can be a key; a
refusal, if no frozen form can; or no name, if lists lie in it without an end. Marks are given out, and
no more is done to memory. -/
inductive Converts (heap : Array Cell) (value : Value) (before : Memory) :
    Except Cause (Except String Value) × Memory → Prop where
  | named {plain : Value} {after : Memory} (hmints : before.Mints after)
      (hfreezes : value.Freezes heap plain) (hkey : (plain.key? heap).isSome) :
      Converts heap value before (.ok (.ok plain), after)
  | refused {kind : String} {after : Memory} (hmints : before.Mints after)
      (hnone : ∀ plain, value.Freezes heap plain → plain.key? heap = none) :
      Converts heap value before (.ok (.error kind), after)
  | endless {after : Memory} (hmints : before.Mints after)
      (hendless : ∀ depth, ¬ value.Nests heap depth) :
      Converts heap value before (.error (.plain .recursion), after)

/-- What becomes of values that are converted to names one by one, up to the first that has none. -/
inductive ConvertsAll (heap : Array Cell) (items : List Value) (before : Memory) :
    Except Cause (Except String (List Value)) × Memory → Prop where
  | named {names : List Value} {after : Memory} (hmints : before.Mints after)
      (hnames : Value.FreezeAll heap items names) (hkeys : ∀ name ∈ names, (name.key? heap).isSome) :
      ConvertsAll heap items before (.ok (.ok names), after)
  | refused {kind : String} {after : Memory} (hmints : before.Mints after)
      (hnone : ∃ item ∈ items, ∀ plain, item.Freezes heap plain → plain.key? heap = none) :
      ConvertsAll heap items before (.ok (.error kind), after)
  | endless {after : Memory} (hmints : before.Mints after)
      (hendless : ∃ item ∈ items, ∀ depth, ¬ item.Nests heap depth) :
      ConvertsAll heap items before (.error (.plain .recursion), after)

theorem ConvertsAll.cons {item : Value} {rest : List Value} {first : Value} {ended}
    (hmints : before.Mints after) (hfreezes : item.Freezes heap first)
    (hkey : (first.key? heap).isSome) (hrest : ConvertsAll heap rest after ended) :
    ConvertsAll heap (item :: rest) before
      (ended.1.map (·.map (first :: ·)), ended.2) := by
  cases hrest with
  | named hmore hnames hkeys =>
    exact .named (hmints.trans hmore) (.cons hfreezes hnames) (List.forall_mem_cons.mpr ⟨hkey, hkeys⟩)
  | refused hmore hnone =>
    obtain ⟨other, hother, hnone⟩ := hnone
    exact .refused (hmints.trans hmore) ⟨other, List.mem_cons_of_mem item hother, hnone⟩
  | endless hmore hendless =>
    obtain ⟨other, hother, hendless⟩ := hendless
    exact .endless (hmints.trans hmore) ⟨other, List.mem_cons_of_mem item hother, hendless⟩

theorem converts_plainName {value : Value} (hlist : value.list? heap = none) {memory : Memory}
    (hheap : memory.heap = heap) :
    Converts heap value memory ((plainName value).run.run memory) := by
  subst hheap
  have hrun : (plainName value).run.run memory =
      (.ok (if (memory.key? value).isSome then .ok value else .error (memory.kindName value)),
        memory) := by
    have hget : (get : Compute Memory).run.run memory = (.ok memory, memory) := rfl
    rw [plainName, Compute.run_bind_of_ok hget]
    split <;> rfl
  rw [hrun]
  split
  · next hkey => exact .named (.refl memory) (.kept hlist) hkey
  · next hkey =>
    refine .refused (.refl memory) fun plain hfreezes ↦ ?_
    cases hfreezes with
    | kept _ => exact Option.not_isSome_iff_eq_none.mp hkey
    | list _ hitems _ => cases hlist.symm.trans hitems

theorem converts_convertAll {convert : Value → Compute (Except String Value)} {items : List Value}
    (hconvert : ∀ item ∈ items, ∀ memory : Memory, memory.heap = heap →
      Converts heap item memory ((convert item).run.run memory))
    {memory : Memory} (hheap : memory.heap = heap) :
    ConvertsAll heap items memory ((convertAll convert items).run.run memory) := by
  induction items generalizing memory with
  | nil => exact .named (.refl memory) .nil nofun
  | cons item rest ih =>
    obtain ⟨hitem, hrest⟩ := List.forall_mem_cons.mp hconvert
    have hfirst := hitem memory hheap
    unfold convertAll
    generalize hended : (convert item).run.run memory = ended at hfirst
    cases hfirst with
    | named hmints hfreezes hkey =>
      rw [Compute.run_bind_of_ok hended]
      have hothers := ConvertsAll.cons hmints hfreezes hkey (ih hrest (hmints.heap.trans hheap))
      dsimp only
      rw [Compute.run_bind]
      generalize (convertAll convert rest).run.run _ = all at hothers ⊢
      obtain ⟨_ | _ | _, last⟩ := all <;> exact hothers
    | refused hmints hnone =>
      rw [Compute.run_bind_of_ok hended]
      exact .refused hmints ⟨item, List.mem_cons_self, hnone⟩
    | endless hmints hendless =>
      rw [Compute.run_bind, hended]
      exact .endless hmints ⟨item, List.mem_cons_self, hendless⟩

/-- A list is converted to the tuple of its converted items, if they all have names. -/
theorem converts_cellName_of_list {memory now : Memory} {address : Nat} {items : List Value}
    {atCell : Nat → Compute (Except String Value)} (hcell : memory.heap[address]? = some (.list items))
    (hitems : ConvertsAll memory.heap items now ((convertAll (entryName atCell) items).run.run now)) :
    Converts memory.heap (.cell address) now ((cellName memory atCell address).run.run now) := by
  have hlist : (Value.cell address).list? memory.heap = some items := by simp [Value.list?, hcell]
  unfold cellName
  rw [hcell]
  dsimp only
  generalize hended : (convertAll (entryName atCell) items).run.run now = ended at hitems
  cases hitems with
  | @named names between hmints hnames hkeys =>
    obtain ⟨mark, changed, htuple, hmore⟩ := Compute.run_newTuple names between
    rw [Compute.run_bind_of_ok hended]
    dsimp only
    rw [Compute.run_bind_of_ok htuple]
    exact .named (hmints.trans hmore) (.list mark hlist hnames) (Value.isSome_key?_tuple_iff.mpr hkeys)
  | refused hmints hnone =>
    rw [Compute.run_bind_of_ok hended]
    refine .refused hmints fun plain hfreezes ↦ Option.not_isSome_iff_eq_none.mp fun hkey ↦ ?_
    obtain ⟨item, hitem, hnone⟩ := hnone
    obtain ⟨name, hname, hsome⟩ := hfreezes.items hkey hlist item hitem
    rw [hnone name hname] at hsome
    cases hsome
  | endless hmints hendless =>
    rw [Compute.run_bind, hended]
    obtain ⟨item, hitem, hendless⟩ := hendless
    exact .endless hmints ((Value.Encloses.of_mem hlist hitem).endless hendless)

/-- A way along lists: no cell comes up twice, all of them are there, and each encloses what the way
leads to. -/
structure Way (heap : Array Cell) (path : List Nat) (value : Value) : Prop where
  distinct : path.Nodup
  there : ∀ address ∈ path, address < heap.size
  encloses : ∀ address ∈ path, Value.Encloses heap (.cell address) value

/-- A way leads on from a list that it has not come by to each of the items. -/
theorem Way.step {path : List Nat} {address : Nat} {items : List Value} {item : Value}
    (hway : Way heap path (.cell address)) (hpath : address ∉ path)
    (hcell : heap[address]? = some (.list items)) (hitem : item ∈ items) :
    Way heap (address :: path) item := by
  have hencloses : Value.Encloses heap (.cell address) item :=
    .of_mem (by simp [Value.list?, hcell]) hitem
  exact
    { distinct := List.nodup_cons.mpr ⟨hpath, hway.distinct⟩
      there := List.forall_mem_cons.mpr ⟨(Array.getElem?_eq_some_iff.mp hcell).1, hway.there⟩
      encloses := List.forall_mem_cons.mpr
        ⟨hencloses, fun other hother ↦ (hway.encloses other hother).trans hencloses⟩ }

/-- A way is no longer than there are cells. -/
theorem Way.length_le {path : List Nat} {value : Value} (hway : Way heap path value) :
    path.length ≤ heap.size := by
  have hsubset : path ⊆ List.range heap.size := fun address haddress ↦
    List.mem_range.mpr (hway.there address haddress)
  have hle := (hway.distinct.subperm hsubset).length_le
  rwa [List.length_range] at hle

/-- A cell is converted along a way: the way ends where a cell comes up again, which encloses itself
then. -/
theorem converts_follow {memory now : Memory} {depth : Nat} {path : List Nat} {address : Nat}
    (hway : Way memory.heap path (.cell address)) (hdepth : memory.heap.size < depth + path.length)
    (hheap : now.heap = memory.heap) :
    Converts memory.heap (.cell address) now
      ((follow (fun _ ↦ Compute.refuse .recursion) (cellName memory) depth path address).run.run
        now) := by
  induction depth generalizing path address now with
  | zero => exact absurd hway.length_le (by omega)
  | succ depth ih =>
    unfold follow
    by_cases hpath : address ∈ path
    · rw [if_pos hpath]
      exact .endless (.refl now) (hway.encloses address hpath).irrefl
    · rw [if_neg hpath]
      by_cases hlist : ∃ items, memory.heap[address]? = some (.list items)
      · obtain ⟨items, hcell⟩ := hlist
        refine converts_cellName_of_list hcell (converts_convertAll (fun item hitem between hbetween ↦ ?_)
          hheap)
        cases item with
        | cell inner =>
          exact ih (hway.step hpath hcell hitem) (by rw [List.length_cons]; omega) hbetween
        | _ => exact converts_plainName rfl hbetween
      · have hnone : (Value.cell address).list? memory.heap = none := by
          unfold Value.list?
          dsimp only
          split
          · next items hcell => exact absurd ⟨items, hcell⟩ hlist
          · rfl
        have hrun : cellName memory (follow (fun _ ↦ Compute.refuse .recursion) (cellName memory) depth
            (address :: path)) address = plainName (.cell address) := by
          unfold cellName
          split
          · next items hcell => exact absurd ⟨items, hcell⟩ hlist
          · rfl
        rw [hrun]
        exact converts_plainName hnone hheap

/-- A value becomes the name of an entry if its frozen form can be a key, and else it is refused, or it
has no end. -/
theorem run_entryKey (value : Value) (memory : Memory) :
    (∃ plain key changed, (entryKey value).run.run memory = (.ok (.ok (plain, key)), changed) ∧
        memory.Mints changed ∧ value.Freezes memory.heap plain ∧
          plain.key? memory.heap = some key) ∨
      (∃ kind changed, (entryKey value).run.run memory = (.ok (.error kind), changed) ∧
        memory.Mints changed ∧
          ∀ plain, value.Freezes memory.heap plain → plain.key? memory.heap = none) ∨
      ∃ changed, (entryKey value).run.run memory = (.error (.plain .recursion), changed) ∧
        memory.Mints changed ∧ ∀ depth, ¬ value.Nests memory.heap depth := by
  have hget : (get : Compute Memory).run.run memory = (.ok memory, memory) := rfl
  have hconverts : Converts memory.heap value memory
      ((entryName (follow (fun _ ↦ Compute.refuse .recursion) (cellName memory)
        (memory.heap.size + 1) []) value).run.run memory) := by
    cases value with
    | cell address => exact converts_follow ⟨List.nodup_nil, nofun, nofun⟩ (Nat.lt_succ_self _) rfl
    | _ => exact converts_plainName rfl rfl
  unfold entryKey
  rw [Compute.run_bind_of_ok hget]
  dsimp only
  generalize hended : (entryName _ value).run.run memory = ended at hconverts
  cases hconverts with
  | @named plain after hmints hfreezes hkey =>
    obtain ⟨key, hkey⟩ := Option.isSome_iff_exists.mp hkey
    have hafter : (get : Compute Memory).run.run after = (.ok after, after) := rfl
    refine Or.inl ⟨plain, key, after, ?_, hmints, hfreezes, hkey⟩
    rw [Compute.run_bind_of_ok hended, keyName, Compute.run_bind_of_ok hafter, Memory.key?,
      hmints.heap, hkey]
    rfl
  | @refused kind after hmints hnone =>
    refine Or.inr (Or.inl ⟨kind, after, ?_, hmints, hnone⟩)
    rw [Compute.run_bind_of_ok hended]
    rfl
  | @endless after hmints hendless =>
    refine Or.inr (Or.inr ⟨after, ?_, hmints, hendless⟩)
    rw [Compute.run_bind, hended]
    rfl

end Eval

end Treewalk
