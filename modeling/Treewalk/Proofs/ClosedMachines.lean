import Mathlib.Order.WellFounded
import Treewalk.Proofs.AlikeWalk

/-!
Machines in which nothing is missing. In a closed machine every address and every frame number leads
somewhere, so that a numbering that keeps what the machine has changes nothing in it
(`Machine.Closed`). Such a machine is its own twin, and when host code treats addresses as names and
none of them is fixed but those of the machine (`Machine.Indifferent`), evaluation leaves a closed
machine behind (`Machine.Indifferent.evaluate`).

Two runs that start on one machine come to the same when they end alike and on twins, where what was
there at the start keeps its number (`Machine.SameFrom`).
-/

set_option autoImplicit false
set_option relaxedAutoImplicit false

namespace Treewalk

/-- A numbering that keeps the cells and the frames that a machine has. -/
structure Numbering.Keeps (numbering : Numbering) (machine : Machine) : Prop where
  cell : ∀ address < machine.memory.heap.size, numbering.cell address = address
  frame : ∀ number < machine.frames.size, numbering.frame number = number

/-- A machine in which a numbering changes nothing. -/
structure Machine.FixedUnder (machine : Machine) (numbering : Numbering) : Prop where
  heap : ∀ address : Nat, rename numbering machine.memory.heap[address]? = machine.memory.heap[address]?
  closures : machine.memory.closures.map (rename numbering) = machine.memory.closures
  frames : ∀ number, rename numbering (machine.frames.frame number) = machine.frames.frame number
  locals : machine.evaluator.locals.map numbering.frame = machine.evaluator.locals
  globals : machine.evaluator.globals.map numbering.frame = machine.evaluator.globals
  context : rename numbering machine.evaluator.context = machine.evaluator.context
  handlers : rename numbering machine.handlers = machine.handlers

/-- Nothing in the machine refers to a cell or a frame that it does not have. -/
def Machine.Closed (machine : Machine) : Prop :=
  ∀ numbering : Numbering, numbering.Keeps machine → machine.FixedUnder numbering

/-- A closed machine, whose policy and whose library treat addresses as names, those of the machine
excepted. -/
structure Machine.Indifferent (library : Library) (blind : Bool) (seen : Tree → Tree)
    (machine : Machine) : Prop where
  closed : machine.Closed
  host : ∀ numbering : Numbering, numbering.Keeps machine → library.Alike numbering blind
  policy : ∀ numbering : Numbering, numbering.Keeps machine →
    machine.evaluator.policy.Alike numbering blind seen library

/-- Two ends of runs from one machine are the same under a numbering of what has been added since. -/
def Machine.SameFrom {α : Type} [Renamable α] (start : Machine) (inScope : Bool) (seen : Tree → Tree)
    (first second : Outcome α × Machine) : Prop :=
  ∃ comparison : Comparison, comparison.left = start ∧ comparison.right = start ∧
    comparison.seen = seen ∧ comparison.numbering.Keeps start ∧
    comparison.EndsAlike first.1 second.1 ∧ comparison.Twins inScope first.2 second.2

/-! ### Numberings -/

/-- The numbering that changes nothing. -/
def Numbering.same : Numbering where
  cell := id
  frame := id
  cell_strictMono := strictMono_id
  frame_injective := Function.injective_id

/-- Leaves out a number. -/
def Numbering.skip (missing number : Nat) : Nat := if number < missing then number else number + 1

namespace Numbering

theorem skip_of_lt {missing number : Nat} (hnumber : number < missing) :
    skip missing number = number :=
  if_pos hnumber

theorem skip_of_le {missing number : Nat} (hnumber : missing ≤ number) :
    skip missing number = number + 1 :=
  if_neg (Nat.not_lt.mpr hnumber)

theorem skip_strictMono (missing : Nat) : StrictMono (skip missing) := by
  intro number other hless
  unfold skip
  split <;> split <;> omega

/-- The numbering that leaves out a cell. -/
def skipCell (missing : Nat) : Numbering where
  cell := skip missing
  frame := id
  cell_strictMono := skip_strictMono missing
  frame_injective := Function.injective_id

variable {numbering : Numbering} {machine : Machine}

theorem keeps_same : same.Keeps machine := ⟨fun _ _ ↦ rfl, fun _ _ ↦ rfl⟩

theorem keeps_skipCell {missing : Nat} (hmissing : machine.memory.heap.size ≤ missing) :
    (skipCell missing).Keeps machine :=
  ⟨fun _ haddress ↦ skip_of_lt (haddress.trans_le hmissing), fun _ _ ↦ rfl⟩

/-- What is kept by a numbering of what is there later is kept by a numbering of what is there now. -/
theorem Keeps.of_swells {later : Machine} (hkeeps : numbering.Keeps later)
    (hswells : machine.Swells later) : numbering.Keeps machine :=
  ⟨fun address haddress ↦ hkeeps.cell address (haddress.trans_le hswells.memory.cells),
    fun number hnumber ↦ hkeeps.frame number (hnumber.trans_le hswells.frames)⟩

end Numbering

/-! ### Comparing runs from one machine -/

/-- The comparison of two runs that start on one machine. -/
def Comparison.ofStart (start : Machine) (blind : Bool) (seen : Tree → Tree) (early late : Prop)
    (numbering : Numbering) (limit frameLimit : Nat) : Comparison where
  numbering := numbering
  limit := limit
  frameLimit := frameLimit
  blind := blind
  seen := seen
  early := early
  late := late
  left := start
  right := start

section

variable {start : Machine} {blind : Bool} {seen : Tree → Tree} {early late : Prop}
  {numbering : Numbering} {limit frameLimit : Nat}

/-- A closed machine is its own twin, as long as new cells and frames keep their numbers, too. -/
theorem Machine.Closed.twins (hclosed : start.Closed) (hkeeps : numbering.Keeps start)
    (hcells : ∀ address, start.memory.heap.size ≤ address → address < limit →
      numbering.cell address = address)
    (hframes : ∀ number, start.frames.size ≤ number → number < frameLimit →
      numbering.frame number = number) :
    (Comparison.ofStart start blind seen early late numbering limit frameLimit).Twins true start
      start := by
  have hfixed := hclosed numbering hkeeps
  have hcell (address : Nat) : start.memory.heap[numbering.cell address]? =
      rename numbering start.memory.heap[address]? := by
    rw [hfixed.heap]
    by_cases haddress : address < start.memory.heap.size
    · rw [hkeeps.cell address haddress]
    · have hgrown : address ≤ numbering.cell address := numbering.cell_strictMono.le_apply
      rw [Array.getElem?_eq_none (by omega), Array.getElem?_eq_none (by omega)]
  have hbounds (number : Nat) :
      numbering.frame number < start.frames.size ↔ number < start.frames.size := by
    constructor
    · intro hless
      rwa [numbering.frame_injective (hkeeps.frame _ hless)] at hless
    · intro hless
      rwa [hkeeps.frame number hless]
  exact
    { memory :=
        { cells := hcell
          size := Nat.le_refl _
          closures := hfixed.closures.symm
          marks := rfl
          next := fun count hcount ↦ hcells _ (Nat.le_add_right _ _) hcount }
      frames := fun number ↦ by
        change start.frames.frame (numbering.frame number) =
          rename numbering (start.frames.frame number)
        rw [hfixed.frames]
        by_cases hnumber : number < start.frames.size
        · rw [hkeeps.frame number hnumber]
        · have hmissing := mt (hbounds number).mp hnumber
          unfold Frames.frame
          rw [Array.getD_eq_getD_getElem?, Array.getD_eq_getD_getElem?,
            Array.getElem?_eq_none (Nat.le_of_not_lt hmissing),
            Array.getElem?_eq_none (Nat.le_of_not_lt hnumber)]
      bounds := hbounds
      newFrames := fun count hcount ↦ hframes _ (Nat.le_add_right _ _) hcount
      locals := fun _ ↦ hfixed.locals.symm
      globals := hfixed.globals.symm
      context := hfixed.context.symm
      handlers := hfixed.handlers.symm
      policy := rfl
      samePolicy := rfl
      running := rfl
      threshold := rfl
      since := List.suffix_rfl
      deeds := .refl _ _
      requests := .refl _ _ }

/-- A machine that is its own twin under a numbering is not changed by it. -/
theorem Comparison.Twins.fixedUnder {machine : Machine}
    (hkeeps : numbering.Keeps machine)
    (htwins : (Comparison.ofStart start blind seen early late numbering limit frameLimit).Twins true
      machine machine) : machine.FixedUnder numbering where
  heap address := by
    by_cases haddress : address < machine.memory.heap.size
    · have hcell := htwins.memory.cells address
      rw [show (Comparison.ofStart start blind seen early late numbering limit frameLimit).numbering =
        numbering from rfl, hkeeps.cell address haddress] at hcell
      exact hcell.symm
    · rw [Array.getElem?_eq_none (Nat.le_of_not_lt haddress)]
      rfl
  closures := htwins.memory.closures.symm
  frames number := by
    by_cases hnumber : number < machine.frames.size
    · have hframe := htwins.frames number
      rw [show (Comparison.ofStart start blind seen early late numbering limit frameLimit).numbering =
        numbering from rfl, hkeeps.frame number hnumber] at hframe
      exact hframe.symm
    · unfold Frames.frame
      rw [Array.getD_eq_getD_getElem?, Array.getElem?_eq_none (Nat.le_of_not_lt hnumber)]
      rfl
  locals := (htwins.locals rfl).symm
  globals := htwins.globals.symm
  context := htwins.context.symm
  handlers := htwins.handlers.symm

/-- Host code that treats addresses as names is common ground for engines of two depths. -/
theorem Machine.Indifferent.ground {library : Library}
    (hstart : start.Indifferent library blind seen) (hkeeps : numbering.Keeps start)
    {depth depth' : Nat} (hearly : early ∨ depth' ≤ depth) (hlate : late ∨ depth ≤ depth') :
    Eval.AlikeGround (Comparison.ofStart start blind seen early late numbering limit frameLimit) library
      (Eval.engine library depth) (Eval.engine library depth') :=
  have hlibrary := hstart.host numbering hkeeps
  have hpolicy := hstart.policy numbering hkeeps
  ⟨Eval.alike_engine hlibrary hpolicy depth depth' hearly hlate, hlibrary, hpolicy⟩

end

/-! ### How comparisons end -/

namespace Comparison

variable {α : Type} [Renamable α] {comparison : Comparison} {inScope : Bool}

/-- Where none of the ways out is taken, runs end alike and on twins. -/
theorem Meets.resolve {first second : Outcome α × Machine}
    (hmeets : comparison.Meets inScope first second) (hgone : ¬ comparison.Gone first.2)
    (hearly : comparison.early → first.1 ≠ .exhausted)
    (hlate : comparison.late → second.1 ≠ .exhausted) :
    comparison.EndsAlike first.1 second.1 ∧ comparison.Twins inScope first.2 second.2 := by
  cases hmeets with
  | twins ends twins => exact ⟨ends, twins⟩
  | gone gone policy => exact absurd gone hgone
  | early early exhausted => exact absurd exhausted (hearly early)
  | late late exhausted => exact absurd exhausted (hlate late)

/-- Host code that is not blind has no way out but to have too many cells or frames. -/
theorem not_gone {machine : Machine} (hblind : comparison.blind = false)
    (hcells : machine.memory.heap.size ≤ comparison.limit)
    (hframes : machine.frames.size ≤ comparison.frameLimit) : ¬ comparison.Gone machine := by
  intro hgone
  cases hgone with
  | cells exceeds => omega
  | frames exceeds => omega
  | parameters blind found improper => simp [hblind] at blind

end Comparison

section

variable {α : Type} [Renamable α] {start : Machine} {seen : Tree → Tree} {early late : Prop}
  {numbering : Numbering} {limit frameLimit : Nat} {first second : Run α}

/-- Alike runs from one closed machine end on twins, provided that there are numbers for all that the
first one adds. -/
theorem Run.AlikeFor.twins
    (halike : first.AlikeFor (.ofStart start false seen early late numbering limit frameLimit) true
      second)
    (hclosed : start.Closed) (hkeeps : numbering.Keeps start)
    (hcells : ∀ address, start.memory.heap.size ≤ address → address < limit →
      numbering.cell address = address)
    (hframes : ∀ number, start.frames.size ≤ number → number < frameLimit →
      numbering.frame number = number)
    (hlimit : (first start).2.memory.heap.size ≤ limit)
    (hframeLimit : (first start).2.frames.size ≤ frameLimit)
    (hearly : early → (first start).1 ≠ .exhausted) (hlate : late → (second start).1 ≠ .exhausted) :
    (Comparison.ofStart start false seen early late numbering limit frameLimit).EndsAlike
        (first start).1 (second start).1 ∧
      (Comparison.ofStart start false seen early late numbering limit frameLimit).Twins true
        (first start).2 (second start).2 :=
  (halike.meets start start (hclosed.twins hkeeps hcells hframes)).resolve
    (Comparison.not_gone rfl hlimit hframeLimit) hearly hlate

end

/-- Evaluation leaves a machine to which everything still applies. -/
theorem Machine.Indifferent.evaluate {library : Library} {seen : Tree → Tree} {start : Machine}
    (hstart : start.Indifferent library false seen) (depth : Nat) (site : Site) :
    ((Eval.engine library depth).evaluate site start).2.Indifferent library false seen := by
  have hground {numbering : Numbering} (hkeeps : numbering.Keeps start) (limit frameLimit : Nat) :
      Eval.AlikeGround (.ofStart start false seen False False numbering limit frameLimit) library
        (Eval.engine library depth) (Eval.engine library depth) :=
    hstart.ground hkeeps (Or.inr (Nat.le_refl depth)) (Or.inr (Nat.le_refl depth))
  have hswells : start.Swells ((Eval.engine library depth).evaluate site start).2 :=
    ((hground Numbering.keeps_same 0 0).engines.evaluate site).swells start rfl
  refine ⟨fun numbering hkeeps ↦ ?_, fun numbering hkeeps ↦ hstart.host numbering ?_,
    fun numbering hkeeps ↦ ?_⟩
  -- New cells and frames keep their numbers up to the number of them that there are in the end.
  · have hkept := hkeeps.of_swells hswells
    have htwins := ((hground hkept _ _).engines.evaluate site).twins hstart.closed hkept
      (fun address _ ↦ hkeeps.cell address) (fun number _ ↦ hkeeps.frame number) (Nat.le_refl _)
      (Nat.le_refl _) nofun nofun
    exact htwins.2.fixedUnder hkeeps
  · exact hkeeps.of_swells hswells
  · rw [hswells.policy]
    exact hstart.policy numbering (hkeeps.of_swells hswells)

/-- Everything applies to the machine that has nothing yet, with the library of the default context. -/
theorem Machine.indifferent_empty (blind : Bool) (seen : Tree → Tree) :
    Machine.Indifferent Host.kernelLibrary blind seen {} := by
  refine ⟨fun numbering _ ↦ ?_, fun _ _ ↦ Host.alike_kernelLibrary, fun _ _ ↦ Policy.alike_permissive⟩
  constructor
  · intro address
    rfl
  · exact Array.map_empty
  · intro number
    rfl
  · rfl
  · rfl
  · rfl
  · rfl

end Treewalk
