import Treewalk.Proofs.ElementaryComputations

/-!
Tame computations. Besides elementary steps they change cells, but only a cell that they have looked at
and found to be no object of the host, or one that they have just made (`Compute.Tame`). Which cells are
free to be changed grows on the way, so that it is an index of the property. Tame computations stay
within a realm (`Tame.confined`): given things of the realm they give back things of the realm, and what
changes is a cell of the realm. And objects stay what they are (`Tame.keepsObjects`).
-/

set_option autoImplicit false
set_option relaxedAutoImplicit false

namespace Treewalk

variable {realm : Realm} {free : Value → Prop}

/-! ### Memories -/

/-- Whether a cell is an object of the host. -/
def Cell.isObject : Cell → Bool
  | object _ _ _ => true
  | _ => false

/-- A memory in which the objects of another one are what they were. -/
def Memory.KeepsObjects (before after : Memory) : Prop :=
  ∀ (address : Nat) (cell : Cell), cell.isObject = true → before.heap[address]? = some cell →
    after.heap[address]? = some cell

/-- A memory in which the cells of another one are what they were, or no objects before and after. -/
def Memory.Spares (before after : Memory) : Prop :=
  ∀ (address : Nat) (cell : Cell), before.heap[address]? = some cell →
    ∃ later, after.heap[address]? = some later ∧
      (later = cell ∨ cell.isObject = false ∧ later.isObject = false)

/-- Whether a place is a cell that is there and no object. -/
def Memory.IsFree (memory : Memory) (place : Value) : Prop :=
  ∃ cell, memory.cell? place = some cell ∧ cell.isObject = false

namespace Memory

variable {before after : Memory}

theorem KeepsObjects.refl (memory : Memory) : memory.KeepsObjects memory := fun _ _ _ hcell ↦ hcell

theorem KeepsObjects.trans {first middle last : Memory} (hfirst : first.KeepsObjects middle)
    (hlast : middle.KeepsObjects last) : first.KeepsObjects last :=
  fun address cell hobject hcell ↦ hlast address cell hobject (hfirst address cell hobject hcell)

namespace Spares

theorem refl (memory : Memory) : memory.Spares memory :=
  fun _ cell hcell ↦ ⟨cell, hcell, Or.inl rfl⟩

theorem trans {first middle last : Memory} (hfirst : first.Spares middle)
    (hlast : middle.Spares last) : first.Spares last := by
  intro address cell hcell
  obtain ⟨between, hbetween, hsame⟩ := hfirst address cell hcell
  obtain ⟨later, hlater, hagain⟩ := hlast address between hbetween
  refine ⟨later, hlater, ?_⟩
  rcases hsame with rfl | ⟨hcellFree, hbetweenFree⟩
  · exact hagain
  · rcases hagain with rfl | ⟨-, hlaterFree⟩
    · exact Or.inr ⟨hcellFree, hbetweenFree⟩
    · exact Or.inr ⟨hcellFree, hlaterFree⟩

theorem of_extends (hextends : before.Extends after) : before.Spares after := by
  intro address cell hcell
  obtain ⟨added, hadded⟩ := hextends.heap
  refine ⟨cell, ?_, Or.inl rfl⟩
  rw [← Array.getElem?_toList] at hcell
  rw [← Array.getElem?_toList, ← hadded,
    List.getElem?_append_left (List.getElem?_eq_some_iff.mp hcell).1, hcell]

/-- A cell that is no object may become anything but an object. -/
theorem store {memory : Memory} {address : Nat} (hfree : memory.IsFree (.cell address)) {cell : Cell}
    (hcell : cell.isObject = false) : memory.Spares (memory.store address cell) := by
  intro other old hold
  by_cases hother : address = other
  · subst hother
    obtain ⟨found, hfound, hobject⟩ := hfree
    obtain rfl : found = old := Option.some.inj (hfound.symm.trans hold)
    have hbound : address < memory.heap.size := (Array.getElem?_eq_some_iff.mp hold).1
    exact ⟨cell, Array.getElem?_setIfInBounds_self_of_lt hbound, Or.inr ⟨hobject, hcell⟩⟩
  · exact ⟨old, (Array.getElem?_setIfInBounds_ne hother).trans hold, Or.inl rfl⟩

theorem keepsObjects (hspares : before.Spares after) : before.KeepsObjects after := by
  intro address cell hobject hcell
  obtain ⟨later, hlater, rfl | ⟨hfree, -⟩⟩ := hspares address cell hcell
  · exact hlater
  · rw [hobject] at hfree
    cases hfree

theorem isFree (hspares : before.Spares after) {place : Value} (hfree : before.IsFree place) :
    after.IsFree place := by
  obtain ⟨cell, hcell, hobject⟩ := hfree
  cases place with
  | cell address =>
    obtain ⟨later, hlater, rfl | ⟨-, hlaterFree⟩⟩ := hspares address cell hcell
    · exact ⟨later, hlater, hobject⟩
    · exact ⟨later, hlater, hlaterFree⟩
  | _ => cases hcell

end Spares

end Memory

/-! ### Tame computations -/

/-- A computation that takes elementary steps within a realm and changes only cells that are free to be
changed: those that were so from the start, those that it has looked at and found to be no objects, and
those that it has made itself. -/
inductive Compute.Tame (realm : Realm) : (Value → Prop) → ∀ {α : Type} [Confinable α], Compute α → Prop
  | elementary {free : Value → Prop} {α : Type} [Confinable α] {computation : Compute α}
    (helementary : Elementary realm computation) : Tame realm free computation
  | throw {free : Value → Prop} {α : Type} [Confinable α] (cause : Cause) :
    Tame realm free (MonadExcept.throw cause : Compute α)
  | store {free : Value → Prop} {place : Value} {cell : Cell} (hfree : free place)
    (hplace : Within realm place) (hcell : Within realm cell) (hobject : cell.isObject = false) :
    Tame realm free (Compute.store place cell)
  | examine {free : Value → Prop} {α : Type} [Confinable α] {place : Value}
    {after : Option Cell → Compute α} (hplace : Within realm place)
    (hafter : ∀ found, Within realm found →
      Tame realm (fun other ↦ free other ∨
        other = place ∧ ∃ cell, found = some cell ∧ cell.isObject = false) (after found)) :
    Tame realm free (Compute.cell? place >>= after)
  | fresh {free : Value → Prop} {α : Type} [Confinable α] {cell : Cell} {after : Value → Compute α}
    (hcell : Within realm cell) (hobject : cell.isObject = false)
    (hafter : ∀ place, Within realm place →
      Tame realm (fun other ↦ free other ∨ other = place) (after place)) :
    Tame realm free (Compute.allocate cell >>= after)
  | bind {free : Value → Prop} {α β : Type} [Confinable α] [Confinable β] {computation : Compute α}
    {after : α → Compute β} (hfirst : Tame realm free computation)
    (hafter : ∀ result, Within realm result → Tame realm free (after result)) :
    Tame realm free (computation >>= after)

namespace Compute

/-- A computation that leaves objects as they are, however it ends. -/
def KeepsObjects {α : Type} (computation : Compute α) : Prop :=
  ∀ memory : Memory, memory.KeepsObjects (computation.run.run memory).2

theorem bind_apply {α β : Type} (computation : Compute α) (after : α → Compute β) (memory : Memory) :
    (computation >>= after).run.run memory =
      (ExceptT.bindCont after (computation.run.run memory).1).run
        (computation.run.run memory).2 := rfl

namespace Tame

variable {α β : Type} [Confinable α] [Confinable β]

/-! ### What tame computations have in common -/

theorem confined_of_free {computation : Compute α} (htame : Tame realm free computation) :
    Confined realm computation := by
  induction htame with
  | elementary helementary => exact helementary.confined
  | throw cause => exact confined_throw cause
  | store _ hplace hcell => exact confined_store hplace hcell
  | examine hplace _ hafter => exact confined_bind (Elementary.cell? hplace).confined hafter
  | fresh hcell _ _ hafter => exact confined_bind (confined_allocate hcell) hafter
  | bind _ _ hfirst hafter => exact confined_bind hfirst hafter

/-- Whatever a tame computation changes is no object, as long as what is free to be changed is none. -/
theorem spares {computation : Compute α} (htame : Tame realm free computation) (hwhole : realm.Whole)
    {memory : Memory} (hfree : ∀ place, free place → memory.IsFree place) :
    memory.Spares (computation.run.run memory).2 := by
  induction htame generalizing memory with
  | elementary helementary => exact .of_extends (helementary.additive hwhole memory)
  | throw => exact .refl memory
  | @store free place cell hplace _ _ hobject =>
    cases place with
    | cell address => exact .store (hfree _ hplace) hobject
    | _ => exact .refl memory
  | @examine free α _ place after _ _ ih =>
    refine ih (memory.cell? place) (within_of_whole hwhole _) fun other hother ↦ ?_
    rcases hother with hother | ⟨rfl, cell, hfound, hobject⟩
    · exact hfree other hother
    · exact ⟨cell, hfound, hobject⟩
  | @fresh free α _ cell after _ hobject _ ih =>
    have hadded : memory.Spares (memory.allocate cell).2 := .of_extends (.allocate memory cell)
    refine hadded.trans (ih _ (within_of_whole hwhole _) fun other hother ↦ ?_)
    rcases hother with hother | rfl
    · exact hadded.isFree (hfree other hother)
    · exact ⟨cell, Array.getElem?_push_size, hobject⟩
  | @bind free α β _ _ computation after _ _ hfirst hafter =>
    have hspares := hfirst hfree
    rw [bind_apply]
    rcases heq : computation.run.run memory with ⟨cause | result, changed⟩
    · rw [heq] at hspares
      exact hspares
    · rw [heq] at hspares
      exact hspares.trans (hafter result (within_of_whole hwhole _) fun place hplace ↦
        hspares.isFree (hfree place hplace))

/-- No reference is forged where nothing is free from the start. -/
theorem confined {computation : Compute α} (htame : Tame realm (fun _ ↦ False) computation) :
    Confined realm computation :=
  htame.confined_of_free

/-- And no object changes. -/
theorem keepsObjects {computation : Compute α}
    (htame : Tame .everything (fun _ ↦ False) computation) : KeepsObjects computation :=
  fun _ ↦ (htame.spares Realm.whole_everything nofun).keepsObjects

/-! ### Steps -/

theorem pure {result : α} (hresult : Within realm result) :
    Tame realm free (Pure.pure result : Compute α) :=
  .elementary (.pure hresult)

theorem refuse (kind : Kind) : Tame realm free (Compute.refuse kind : Compute α) :=
  .throw (.plain kind)

theorem get : Tame realm free (MonadState.get : Compute Memory) := .elementary .get

theorem cell? {value : Value} (hvalue : Within realm value) : Tame realm free (Compute.cell? value) :=
  .elementary (.cell? hvalue)

theorem ofExcept {ended : Except Cause α} (hended : Within realm ended) :
    Tame realm free (Compute.ofExcept ended) := by
  cases ended with
  | ok result => exact pure (hended result rfl)
  | error cause => exact .throw cause

omit [Confinable α] in
theorem mapM {step : α → Compute β} {items : List α}
    (hstep : ∀ item ∈ items, Tame realm free (step item)) : Tame realm free (items.mapM step) := by
  induction items with
  | nil => exact pure within_nil
  | cons item rest ih =>
    rw [List.mapM_cons]
    refine bind (hstep item List.mem_cons_self) fun first hfirst ↦ ?_
    refine bind (ih fun other hother ↦ hstep other (List.mem_cons_of_mem item hother))
      fun others hothers ↦ ?_
    exact pure (within_cons hfirst hothers)

end Tame

end Compute

end Treewalk
