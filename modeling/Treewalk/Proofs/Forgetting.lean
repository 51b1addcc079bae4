import Treewalk.Console
import Treewalk.Proofs.ClosedMachines
import Treewalk.Proofs.History

/-!
What a command line forgets. Two machines that differ in their heaps only, one of which has further
cells between those that both have and those that are still to come, are twins as long as no
variable is bound (`Machine.twins_withHeap`). All that a script of a command line is given is the
default context, as long as there are no globals (`Memory.Stocked`), and so it comes to the same, up
to addresses, on a machine on which nothing else is stored, and what is written about it is the same
text (`Console.react_wiped`).
-/

set_option autoImplicit false
set_option relaxedAutoImplicit false

namespace Treewalk

/-! ### Machines with another heap -/

/-- The machine with another heap. -/
def Machine.withHeap (heap : Array Cell) (machine : Machine) : Machine :=
  { machine with memory := { machine.memory with heap := heap } }

/-- The machine with a fresh evaluator, on which no variable is bound and no record kept. -/
def Machine.renewed (machine : Machine) : Machine where
  memory := machine.memory
  frames := Array.replicate machine.frames.size []
  threshold := machine.threshold

/-- The machine with a fresh evaluator, on which no variable is bound and nothing stored but what
there is at the start. There are as many frames, closures and marks as before, but nothing leads to
them. -/
def Machine.wiped (machine : Machine) : Machine :=
  machine.renewed.withHeap Console.startMemory.heap

theorem Machine.Renewed.renewed (machine : Machine) : machine.Renewed machine.renewed :=
  ⟨rfl, rfl, rfl, Array.size_replicate, rfl⟩

/-- Memory in which the default context and the globals of a command line are what they were at the
start. -/
structure Memory.Stocked (memory : Memory) : Prop where
  context : memory.heap[0]? = some Host.kernelCell
  globals : memory.heap[1]? = some (.table [] [])

theorem Session.seat_withHeap (session : Session) (heap : Array Cell) (machine : Machine) :
    session.seat (machine.withHeap heap) = (session.seat machine).withHeap heap := by
  unfold seat opened Machine.logged Machine.withHeap
  dsimp only
  split <;> rfl

/-- The numbering that keeps the first two addresses and leaves out some addresses after them. -/
def Numbering.afterStart (gap : Nat) : Numbering where
  cell address := if address < 2 then address else address + gap
  frame := id
  cell_strictMono := by
    intro address other hless
    dsimp only
    split <;> split <;> omega
  frame_injective := Function.injective_id

theorem Numbering.afterStart_of_le (gap : Nat) {address : Nat} (haddress : 2 ≤ address) :
    (afterStart gap).cell address = address + gap :=
  if_neg (Nat.not_lt.mpr haddress)

/-- The comparison of a machine to one with further cells. -/
def Comparison.ofHeap (numbering : Numbering) (heap : Array Cell) (machine : Machine)
    (limit frameLimit : Nat) : Comparison where
  numbering := numbering
  limit := limit
  frameLimit := frameLimit
  blind := false
  seen := id
  early := False
  late := False
  left := machine.withHeap heap
  right := machine

section

variable {numbering : Numbering} {heap : Array Cell} {machine : Machine}

/-- Where no variable is bound and no handler added, only the heap and the context have to be
numbered. -/
theorem Machine.twins_withHeap (hframe : numbering.frame = id)
    (hblank : ∀ number, machine.frames.frame number = [])
    (hcontext : rename numbering machine.evaluator.context = machine.evaluator.context)
    (hhandlers : machine.handlers = [])
    (hcells : ∀ address, machine.memory.heap[numbering.cell address]? = rename numbering heap[address]?)
    (hsize : heap.size ≤ machine.memory.heap.size)
    (hnext : ∀ count, numbering.cell (heap.size + count) = machine.memory.heap.size + count)
    (limit frameLimit : Nat) :
    (Comparison.ofHeap numbering heap machine limit frameLimit).Twins true (machine.withHeap heap)
      machine := by
  have hclosure (closure : Closure) : rename numbering closure = closure := by
    cases closure with
    | block parameters body chain => rw [Closure.rename_block, hframe, List.map_id]
    | symbolProc name node => rfl
  have hchain (chain : Chain) : chain = chain.map numbering.frame := by rw [hframe, List.map_id]
  exact
    { memory :=
        { cells := hcells
          size := hsize
          closures := by
            change _ = machine.memory.closures.map (rename numbering)
            rw [funext hclosure, Array.map_id']
          marks := rfl
          next := fun count _ ↦ hnext count }
      frames := fun number ↦ by
        change machine.frames.frame (numbering.frame number) =
          rename numbering (machine.frames.frame number)
        rw [hblank, hblank]
        rfl
      bounds := fun number ↦ by
        change numbering.frame number < machine.frames.size ↔ number < machine.frames.size
        rw [hframe, id]
      newFrames := fun count _ ↦ congrFun hframe _
      locals := fun _ ↦ hchain _
      globals := hchain _
      context := hcontext.symm
      handlers := by
        change machine.handlers = rename numbering machine.handlers
        rw [hhandlers]
        rfl
      policy := rfl
      samePolicy := rfl
      running := rfl
      threshold := rfl
      since := List.suffix_rfl
      deeds := .refl _ _
      requests := .refl _ _ }

end

/-! ### Scripts of a command line -/

namespace Console

variable {loader : Document.Loader}

/-- The session of a script where no globals are set. -/
def scriptSession : Session := { context := .cell 0 }

theorem session_eq {machine : Machine} (hstocked : machine.memory.Stocked) :
    (start loader).1.session none machine = scriptSession := by
  have hglobals : machine.memory.entriesAt (some 1) = [] := by
    unfold Memory.entriesAt
    rw [Option.bind_some, hstocked.globals]
  exact congrArg (fun globals ↦ { scriptSession with globals := globals }) hglobals

theorem react_fst (runner : Runner) (script : Script) (machine : Machine) :
    (react runner script machine).1 =
      reactionTo (runner.handle Host.kernelLibrary none script machine).1
        (runner.handle Host.kernelLibrary none script machine).2.memory := rfl

/-- Reports of failures that differ in addresses only read alike. -/
theorem formatIn_failed {comparison : Comparison} (hseen : comparison.seen = id)
    {failure failure' : Failure} (hsame : comparison.SameFailure failure failure') :
    (Report.failed failure').formatIn wording = (Report.failed failure).formatIn wording := by
  have hnode : failure'.node = failure.node := by
    simpa only [hseen, Option.map_id_fun, id] using hsame.node
  have hwording : wording failure'.cause = wording failure.cause := by
    rw [hsame.cause]
    cases failure.cause <;> rfl
  simp only [Report.formatIn, Report.messageIn?, Report.labelled, Report.node?, hnode, hwording,
    hsame.kind]

/-- What is written about two ends that are alike is the same text. -/
theorem reactionTo_reported {comparison : Comparison} (hseen : comparison.seen = id)
    {outcome outcome' : Outcome Value} {left right : Machine}
    (hends : comparison.EndsAlike outcome outcome')
    (hmirrors : comparison.numbering.Mirrors left.memory right.memory) :
    reactionTo (Runner.reported (outcome', right)).1 (Runner.reported (outcome', right)).2.memory =
      reactionTo (Runner.reported (outcome, left)).1 (Runner.reported (outcome, left)).2.memory := by
  rw [Runner.memory_reported, Runner.memory_reported]
  cases hends with
  | value result =>
    simp only [Runner.reported, reactionTo, hmirrors.view, Datum.inspect_rename]
  | failed same => exact congrArg (printing .report) (formatIn_failed hseen same)
  | aborted message => rfl
  | exhausted => rfl

section

variable {machine : Machine}

/-- On the seat of a script no variable is bound. -/
theorem frame_seat (number : Nat) :
    (scriptSession.seat (Runner.marked machine.renewed)).frames.frame number = [] := by
  have hold : machine.renewed.frames.frame number = [] := by
    unfold Frames.frame Machine.renewed
    rw [Array.getD_eq_getD_getElem?, Array.getElem?_replicate]
    split <;> rfl
  unfold Session.seat
  rw [Machine.frames_enter, Machine.frames_enter, Session.frames_opened, Frames.frame_pushed,
    Frames.frame_pushed]
  split
  · rfl
  · split
    · rfl
    · exact hold

/-- The seats of a script with and without what is stored since the start are twins. -/
theorem twins_seat (hstocked : machine.memory.Stocked) (limit frameLimit : Nat) :
    let seat := scriptSession.seat (Runner.marked machine.renewed)
    (Comparison.ofHeap (.afterStart (machine.memory.heap.size - 2)) startMemory.heap seat limit
      frameLimit).Twins true (seat.withHeap startMemory.heap) seat := by
  intro seat
  have hheap : seat.memory.heap = machine.memory.heap := by
    change (scriptSession.seat _).memory.heap = _
    rw [Session.memory_seat]
    rfl
  have hsize : 1 < machine.memory.heap.size := (Array.getElem?_eq_some_iff.mp hstocked.globals).1
  have hseat : seat.evaluator.context = .cell 0 := by
    simp only [seat, Session.seat, Machine.evaluator_enter, Session.evaluator_opened]
    rfl
  refine Machine.twins_withHeap rfl frame_seat ?_ (Session.handlers_seat _ _) (fun address ↦ ?_) ?_
    (fun count ↦ ?_) _ _
  · rw [hseat]
    rfl
  · rw [hheap]
    match address with
    | 0 => exact hstocked.context
    | 1 => exact hstocked.globals
    | address + 2 =>
      rw [Numbering.afterStart_of_le _ (Nat.le_add_left 2 address), Array.getElem?_eq_none (by omega)]
      rfl
  · rw [hheap]
    exact hsize
  · rw [hheap]
    change Numbering.cell _ (2 + count) = _
    rw [Numbering.afterStart_of_le _ (Nat.le_add_right 2 count)]
    omega

/-- The session of a script ends alike with and without what is stored since the start. -/
theorem run_wiped (hstocked : machine.memory.Stocked) (site : Site) :
    let run := scriptSession.run Host.kernelLibrary site
    ∃ comparison : Comparison, comparison.seen = id ∧
      comparison.EndsAlike (run (Runner.marked machine.wiped)).1
        (run (Runner.marked machine.renewed)).1 ∧
      comparison.numbering.Mirrors (run (Runner.marked machine.wiped)).2.memory
        (run (Runner.marked machine.renewed)).2.memory := by
  let engine := Eval.engine Host.kernelLibrary Session.depth
  let seat := scriptSession.seat (Runner.marked machine.renewed)
  let left := engine.evaluate site (seat.withHeap startMemory.heap)
  have hseat : scriptSession.seat (Runner.marked machine.wiped) = seat.withHeap startMemory.heap :=
    scriptSession.seat_withHeap _ (Runner.marked machine.renewed)
  let comparison : Comparison := .ofHeap (.afterStart (machine.memory.heap.size - 2))
    startMemory.heap seat left.2.memory.heap.size left.2.frames.size
  have hpolicy : comparison.left.evaluator.policy = Policy.permissive :=
    scriptSession.policy_seat _
  have hengine : engine.AlikeFor comparison engine :=
    Eval.alike_engine Host.alike_kernelLibrary (hpolicy ▸ Policy.alike_permissive) _ _
      (Or.inr (Nat.le_refl _)) (Or.inr (Nat.le_refl _))
  obtain ⟨hends, htwins⟩ := ((hengine.evaluate site).meets _ _ (twins_seat hstocked _ _)).resolve
    (Comparison.not_gone rfl (Nat.le_refl _) (Nat.le_refl _)) nofun nofun
  refine ⟨comparison, rfl, ?_, ?_⟩
  · rw [Session.run_of_idle Host.kernelLibrary _ site rfl,
      Session.run_of_idle Host.kernelLibrary _ site rfl, hseat]
    exact hends
  · rw [Session.run_of_idle Host.kernelLibrary _ site rfl,
      Session.run_of_idle Host.kernelLibrary _ site rfl, hseat, Session.memory_finish,
      Session.memory_finish]
    exact htwins.mirrors

/-- What is written about a script is the same text where nothing has been stored since the start. -/
theorem react_wiped (hstocked : machine.memory.Stocked) (script : Script) :
    (react (start loader).1 script machine.wiped).1 =
      (react (start loader).1 script machine.renewed).1 := by
  rw [react_fst, react_fst]
  unfold Runner.handle
  rcases (start loader).1.parse script with cause | tree
  · rfl
  · have hwiped : machine.wiped.memory.Stocked := ⟨rfl, rfl⟩
    have hrenewed : machine.renewed.memory.Stocked := hstocked
    dsimp only
    rw [Runner.evaluate_apply, Runner.evaluate_apply, session_eq hwiped, session_eq hrenewed]
    obtain ⟨comparison, hseen, hends, hmirrors⟩ := run_wiped hstocked ⟨tree, machine.memory.mint.1⟩
    exact (reactionTo_reported hseen hends hmirrors).symm

end

end Console

end Treewalk
