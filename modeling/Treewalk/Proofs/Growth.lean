import Treewalk.Evaluate

/-!
Memory only grows while a script is evaluated. The computations that evaluation itself makes put new
cells into the heap and give out new marks; they never touch a closure, change a cell that is there
or take a mark back. What host code does to the heap is another matter: it may replace any cell.
-/

set_option autoImplicit false
set_option relaxedAutoImplicit false

namespace Treewalk

/-- A memory that has everything another one has: the same closures, the same cells with perhaps
more behind them, and at least as many marks given out. -/
structure Memory.Extends (before after : Memory) : Prop where
  closures : after.closures = before.closures
  heap : before.heap.toList <+: after.heap.toList
  marks : before.marks ≤ after.marks

namespace Memory.Extends

theorem refl (memory : Memory) : memory.Extends memory :=
  ⟨rfl, List.prefix_rfl, Nat.le_refl _⟩

theorem trans {first middle last : Memory} (hfirst : first.Extends middle)
    (hlast : middle.Extends last) : first.Extends last :=
  ⟨hlast.closures.trans hfirst.closures, hfirst.heap.trans hlast.heap,
    Nat.le_trans hfirst.marks hlast.marks⟩

/-- A new cell stands behind all others. -/
theorem allocate (memory : Memory) (cell : Cell) : memory.Extends (memory.allocate cell).2 := by
  refine ⟨rfl, ?_, Nat.le_refl _⟩
  simp only [Memory.allocate, Array.toList_push]
  exact List.prefix_append _ _

/-- Giving out a mark changes neither cells nor closures. -/
theorem mint (memory : Memory) : memory.Extends memory.mint.2 :=
  ⟨rfl, List.prefix_rfl, Nat.le_succ _⟩

end Memory.Extends

end Treewalk
