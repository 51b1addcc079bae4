import Mathlib.Data.List.Forall2
import Treewalk.Proofs.ElementaryComputations
import Treewalk.Proofs.Parameters

/-!
What a value lists when it is taken apart: the items of a tuple, list or queue, the integers of a
progression, and else the value alone (`Memory.Lists`). Only a progression with more integers than
can be counted is not taken apart (`Value.isEndless`). Taking a value apart makes new things, the
integers of a progression, but changes nothing that is there (`Value.toSequence_cases`).
-/

set_option autoImplicit false
set_option relaxedAutoImplicit false

namespace Treewalk

namespace Value

/-- A value is this integer, whichever thing it is. -/
def IsInt (i : Int) (value : Value) : Prop := ∃ mark, value = .int i mark

/-- Whether a value is a progression with more integers than can be counted. -/
def isEndless : Value → Bool
  | .progression start stop step _ => !Number.fitsWord (Progression.size start stop step)
  | _ => false

end Value

/-- The items of a list or a queue. -/
def Cell.listed? : Cell → Option (List Value)
  | .list items => some items
  | .queue items _ => some items
  | _ => none

namespace Memory

/-- Whether a value is a sequence: a tuple, a progression, a list or a queue. -/
def isSequence (memory : Memory) (value : Value) : Bool :=
  match value with
  | .tuple _ _ => true
  | .progression _ _ _ _ => true
  | _ => ((memory.cell? value).bind Cell.listed?).isSome

/-- A value has these items when it is taken apart. What is no sequence before anything is taken
apart stands for itself; lists may have been made since. -/
inductive Lists (before after : Memory) : Value → List Value → Prop where
  | tuple (items : List Value) (mark : Mark) : Lists before after (.tuple items mark) items
  | progression {start stop step : Int} (mark : Mark) {items : List Value}
      (hsize : Number.fitsWord (Progression.size start stop step) = true)
      (hitems : List.Forall₂ Value.IsInt (Progression.items start stop step) items) :
      Lists before after (.progression start stop step mark) items
  | cell {value : Value} {cell : Cell} {items : List Value} (hcell : after.cell? value = some cell)
      (hitems : cell.listed? = some items) : Lists before after value items
  | alone {value : Value} (halone : before.isSequence value = false) :
      Lists before after value [value]

/-- A cell that is there stays what it is when memory grows. -/
theorem Extends.cell? {before after : Memory} (hextends : before.Extends after) {value : Value}
    {cell : Cell} (hcell : before.cell? value = some cell) : after.cell? value = some cell := by
  cases value with
  | cell address =>
    obtain ⟨added, hadded⟩ := hextends.heap
    unfold Memory.cell? at hcell ⊢
    dsimp only at hcell ⊢
    rw [← Array.getElem?_toList] at hcell ⊢
    obtain ⟨hbound, -⟩ := List.getElem?_eq_some_iff.mp hcell
    rw [← hadded, List.getElem?_append_left hbound]
    exact hcell
  | _ => cases hcell

/-- A new cell is found. -/
theorem cell?_allocate (memory : Memory) (cell : Cell) :
    (memory.allocate cell).2.cell? (memory.allocate cell).1 = some cell := by
  simp [Memory.cell?, Memory.allocate]

end Memory

namespace Compute

/-- New integers are those that were asked for. -/
theorem mapM_newInt (ints : List Int) (memory : Memory) :
    ∃ items changed, (ints.mapM newInt).run.run memory = (.ok items, changed) ∧
      List.Forall₂ Value.IsInt ints items := by
  induction ints generalizing memory with
  | nil => exact ⟨[], memory, rfl, .nil⟩
  | cons i rest ih =>
    obtain ⟨first, minted, hfirst, hint⟩ : ∃ first minted,
        (newInt i).run.run memory = (.ok first, minted) ∧ Value.IsInt i first := by
      unfold newInt
      split
      · exact ⟨_, _, rfl, _, rfl⟩
      · exact ⟨_, _, rfl, _, rfl⟩
    obtain ⟨others, changed, hothers, hints⟩ := ih minted
    refine ⟨first :: others, changed, ?_, .cons hint hints⟩
    rw [List.mapM_cons, run_bind_of_ok hfirst, run_bind_of_ok hothers]
    rfl

end Compute

namespace Value

variable {before memory : Memory}

/-- A value that is no tuple and no progression has the items of its cell. -/
theorem run_sequence?_of_cell (memory : Memory) (value : Value)
    (htuple : ∀ items mark, value ≠ .tuple items mark)
    (hprogression : ∀ start stop step mark, value ≠ .progression start stop step mark) :
    value.sequence?.run.run memory = (.ok ((memory.cell? value).bind Cell.listed?), memory) := by
  cases value with
  | tuple items mark => exact absurd rfl (htuple items mark)
  | progression start stop step mark => exact absurd rfl (hprogression start stop step mark)
  | cell address =>
    have hcell : (Compute.cell? (.cell address)).run.run memory =
        (.ok (memory.cell? (.cell address)), memory) := rfl
    unfold sequence?
    dsimp only
    rw [Compute.run_bind_of_ok hcell]
    rcases memory.cell? (.cell address) with _ | cell
    · rfl
    · cases cell <;> rfl
  | _ => rfl

theorem isSequence_of_cell (value : Value) (htuple : ∀ items mark, value ≠ .tuple items mark)
    (hprogression : ∀ start stop step mark, value ≠ .progression start stop step mark) :
    memory.isSequence value = ((memory.cell? value).bind Cell.listed?).isSome := by
  cases value with
  | tuple items mark => exact absurd rfl (htuple items mark)
  | progression start stop step mark => exact absurd rfl (hprogression start stop step mark)
  | _ => rfl

/-- A progression is taken apart into new integers, unless it has more of them than can be counted. -/
theorem toSequence_progression (start stop step : Int) (mark : Mark) :
    (∃ items changed,
      (progression start stop step mark).toSequence.run.run memory = (.ok items, changed) ∧
      memory.Extends changed ∧
      ∀ after, changed.Extends after →
        Memory.Lists before after (progression start stop step mark) items) ∨
    (progression start stop step mark).toSequence.run.run memory =
      (.error (.plain .overflow), memory) ∧ (progression start stop step mark).isEndless = true := by
  by_cases hsize : Number.fitsWord (Progression.size start stop step) = true
  · have hextends := (Compute.Elementary.toSequence
      (Realm.within_everything (Value.progression start stop step mark))).additive
        Realm.whole_everything memory
    obtain ⟨items, changed, hitems, hints⟩ :=
      Compute.mapM_newInt (Progression.items start stop step) memory
    have hlisted : (progressionItems start stop step).run.run memory = (.ok items, changed) := by
      rw [progressionItems, if_pos hsize, hitems]
    have hsequence : (progression start stop step mark).sequence?.run.run memory =
        (.ok (some items), changed) := Compute.run_bind_of_ok hlisted _
    have hrun : (progression start stop step mark).toSequence.run.run memory =
        (.ok items, changed) := Compute.run_bind_of_ok hsequence _
    rw [hrun] at hextends
    exact Or.inl ⟨items, changed, hrun, hextends, fun _ _ ↦ .progression mark hsize hints⟩
  · refine Or.inr ⟨?_, ?_⟩
    · unfold toSequence sequence?
      dsimp only
      rw [progressionItems, if_neg hsize]
      rfl
    · rw [isEndless, Bool.eq_false_iff.mpr hsize]
      rfl

/-- A value is taken apart into items that it has, or it is endless. -/
theorem toSequence_cases (value : Value) (hgrown : before.Extends memory) :
    (∃ items changed, value.toSequence.run.run memory = (.ok items, changed) ∧
      memory.Extends changed ∧
      ∀ after, changed.Extends after → Memory.Lists before after value items) ∨
    ∃ changed, value.toSequence.run.run memory = (.error (.plain .overflow), changed) ∧
      memory.Extends changed ∧ value.isEndless = true := by
  by_cases htuple : ∃ items mark, value = .tuple items mark
  · obtain ⟨items, mark, rfl⟩ := htuple
    exact Or.inl ⟨items, memory, rfl, .refl memory, fun _ _ ↦ .tuple items mark⟩
  by_cases hprogression : ∃ start stop step mark, value = .progression start stop step mark
  · obtain ⟨start, stop, step, mark, rfl⟩ := hprogression
    rcases toSequence_progression start stop step mark with hlists | ⟨hrun, hendless⟩
    · exact Or.inl hlists
    · exact Or.inr ⟨memory, hrun, .refl memory, hendless⟩
  -- What is left has the items of its cell, or none and stands for itself.
  have hnone := fun items mark heq ↦ htuple ⟨items, mark, heq⟩
  have hnot := fun start stop step mark heq ↦ hprogression ⟨start, stop, step, mark, heq⟩
  have hsequence := run_sequence?_of_cell memory value hnone hnot
  rcases hlisted : (memory.cell? value).bind Cell.listed? with _ | items
  · rw [hlisted] at hsequence
    refine Or.inl ⟨[value], memory, Compute.run_bind_of_ok hsequence _, .refl memory,
      fun _ _ ↦ .alone ?_⟩
    rw [isSequence_of_cell value hnone hnot]
    rcases hcell : before.cell? value with _ | cell
    · rfl
    · rw [hgrown.cell? hcell] at hlisted
      rw [Option.bind_some] at hlisted ⊢
      rw [hlisted]
      rfl
  · rw [hlisted] at hsequence
    obtain ⟨cell, hcell, hitems⟩ := Option.bind_eq_some_iff.mp hlisted
    exact Or.inl ⟨items, memory, Compute.run_bind_of_ok hsequence _, .refl memory,
      fun _ hafter ↦ .cell (hafter.cell? hcell) hitems⟩

end Value

end Treewalk
