import Treewalk.Scope
import Mathlib.Order.Nat

/-!
Programs over one stack of frames. A program enters and leaves frames in nested order, with a captured
chain or without one, writes and reads names, takes snapshots, clears the stack, and may fail and go on
after a failure (`FrameStack.Program`). A program runs on whatever offers these operations
(`FrameStack.Operations`), and two things do. One holds the chain of frames itself, which entering and
leaving replace (`FrameStack.chains`). The other holds list objects that are known by their places
(`FrameStack.objects`): entering a frame and leaving it change the list in use where it stands, whereas
a captured chain, a snapshot and a clearing each make a list of their own, and what is saved for the way
back is the place of a list and not a copy of it.

Every frame that is left without a captured chain finds itself innermost or finds an empty stack
(`FrameStack.lawful_run`). A run changes no list but the one in use at its start, and that one stays in
use unless it was cleared away (`FrameStack.Follows`), so that a saved list is found again as it was and
a snapshot never changes. Hence both kinds of run agree (`FrameStack.run_view`), and the law of entering
and leaving holds of list objects too (`FrameStack.left_as_entered`).
-/

set_option autoImplicit false
set_option relaxedAutoImplicit false

namespace Treewalk

namespace FrameStack

/-! ### Programs -/

/-- A program over one stack. What follows a read may depend on what was read, and the base of a frame
is the number of one of the snapshots so far. -/
inductive Program where
  | done
  | fail
  | write (name : Name) (value : Value)
  | read (name : Name) (next : Option Value → Program)
  | snapshot
  | clear
  | frame (bindings : Table) (base : Option Nat) (body : Program)
  | attempt (body handler : Program)
  | andThen (first second : Program)

/-- What programs need of a stack: `Entry` is what a stack that entered a frame needs to know for
leaving it. Writing gives nothing when the stack is empty. -/
structure Operations (State Entry : Type) where
  write? : Name → Value → State → Option State
  read? : Name → State → Option Value
  snapshot : State → State
  clear : State → State
  enter : Table → Option Nat → State → Entry × State
  leave : Entry → State → State
  pushed : Entry → Nat
  stack : State → Chain

/-- How a frame was left: the frame that was pushed for it, whether it had a captured chain, whether the
stack was cleared inside it outside any nested frame with a captured chain, and the stack at its entry,
right before it was left, and right after. -/
structure Exit where
  pushed : Nat
  based : Bool
  cleared : Bool
  outside : Chain
  inside : Chain
  after : Chain
deriving Repr, DecidableEq

/-- A frame with a captured chain leaves the stack that it was entered on. A frame without one is taken
off that stack; but if it was cleared, then the stack is empty and nothing is taken off. -/
def Exit.Lawful (exit : Exit) : Prop :=
  if exit.based then exit.after = exit.outside
  else if exit.cleared then exit.inside = [] ∧ exit.after = []
  else exit.inside = exit.pushed :: exit.outside ∧ exit.after = exit.outside

/-- The end of a run: the state, whether there is a failure on its way, whether the stack was cleared
outside any frame with a captured chain, the stacks that snapshots were taken of, and how each frame was
left, in their order. -/
structure Ended (State : Type) where
  state : State
  failed : Bool := false
  cleared : Bool := false
  taken : List Chain := []
  exits : List Exit := []

/-- Two runs one after the other as one. -/
def Ended.followedBy {State : Type} (first second : Ended State) : Ended State :=
  { second with
    cleared := first.cleared || second.cleared
    taken := first.taken ++ second.taken
    exits := first.exits ++ second.exits }

/-- The end of a run, its state looked at in another way. -/
def Ended.map {State Other : Type} (view : State → Other) (ended : Ended State) : Ended Other :=
  { ended with state := view ended.state }

theorem Ended.failed_map {State Other : Type} (view : State → Other) (ended : Ended State) :
    (ended.map view).failed = ended.failed := rfl

/-- The run of a program. A frame is left however its body ends. -/
def Operations.run {State Entry : Type} (operations : Operations State Entry) :
    Program → State → Ended State
  | .done, state => { state }
  | .fail, state => { state, failed := true }
  | .write name value, state =>
    match operations.write? name value state with
    | some state => { state }
    | none => { state, failed := true }
  | .read name next, state => operations.run (next (operations.read? name state)) state
  | .snapshot, state =>
    { state := operations.snapshot state, taken := [operations.stack state] }
  | .clear, state => { state := operations.clear state, cleared := true }
  | .frame bindings base body, state =>
    let entered := operations.enter bindings base state
    let ended := operations.run body entered.2
    let left := operations.leave entered.1 ended.state
    { state := left
      failed := ended.failed
      cleared := base.isNone && ended.cleared
      taken := ended.taken
      exits := ended.exits ++
        [{ pushed := operations.pushed entered.1
           based := base.isSome
           cleared := ended.cleared
           outside := operations.stack state
           inside := operations.stack ended.state
           after := operations.stack left }] }
  | .attempt body handler, state =>
    let ended := operations.run body state
    if ended.failed then ended.followedBy (operations.run handler ended.state) else ended
  | .andThen first second, state =>
    let ended := operations.run first state
    if ended.failed then ended else ended.followedBy (operations.run second ended.state)

/-! ### Chains -/

/-- A store of frames with the chain in use and the snapshots so far. -/
structure Held where
  frames : Frames
  chain : Chain
  taken : List Chain
deriving Repr

/-- The operations of a stack that holds its chain. -/
def chains : Operations Held Entered where
  write? name value held :=
    (held.frames.set? held.chain name value).map fun frames ↦ { held with frames }
  read? name held := held.frames.find? name.key held.chain
  snapshot held := { held with taken := held.taken ++ [held.chain] }
  clear held := { held with chain := [] }
  enter bindings base held :=
    let (number, frames) := held.frames.allocate bindings
    let (entered, chain) :=
      Chain.enter number (base.map fun place ↦ held.taken.getD place []) held.chain
    (entered, { held with frames, chain })
  leave entered held := { held with chain := Chain.leave entered held.chain }
  pushed := Entered.frame
  stack := Held.chain

/-- What a run leaves behind: the stack that it began on, or an empty one if it was cleared, the
snapshots that there were and after them those that it took, and every frame left in the lawful
way. -/
structure Ended.Lawful (ended : Ended Held) (held : Held) : Prop where
  chain : ended.state.chain = if ended.cleared then [] else held.chain
  taken : ended.state.taken = held.taken ++ ended.taken
  exits : ∀ exit ∈ ended.exits, exit.Lawful

/-- The end of a run that has only written. -/
theorem Ended.Lawful.framed (held : Held) (frames : Frames) (failed : Bool) :
    Ended.Lawful { state := { held with frames }, failed } held :=
  ⟨rfl, (List.append_nil _).symm, List.forall_mem_nil _⟩

theorem Ended.Lawful.followedBy {first second : Ended Held} {held : Held}
    (hfirst : first.Lawful held) (hsecond : second.Lawful first.state) :
    (first.followedBy second).Lawful held := by
  refine ⟨?_, ?_, List.forall_mem_append.mpr ⟨hfirst.exits, hsecond.exits⟩⟩
  · change second.state.chain = if first.cleared || second.cleared then [] else held.chain
    rw [hsecond.chain, hfirst.chain]
    cases first.cleared <;> cases second.cleared <;> rfl
  · change second.state.taken = held.taken ++ (first.taken ++ second.taken)
    rw [hsecond.taken, hfirst.taken, List.append_assoc]

section

variable {number : Nat} {base : Option Chain} {chain inside : Chain} {cleared : Bool}

/-- The stack after leaving a frame whose body kept the stack that it was given, or cleared it. -/
theorem leave_enter
    (hinside : inside = if cleared then [] else (Chain.enter number base chain).2) :
    Chain.leave (Chain.enter number base chain).1 inside =
      if base.isNone && cleared then [] else chain := by
  subst hinside
  cases base with
  | some captured => rfl
  | none =>
    cases cleared with
    | true => rfl
    | false => exact if_pos rfl

/-- A frame whose body kept the stack that it was given, or cleared it, is left in the lawful way. -/
theorem lawful_exit
    (hinside : inside = if cleared then [] else (Chain.enter number base chain).2) :
    Exit.Lawful
      { pushed := (Chain.enter number base chain).1.frame
        based := base.isSome
        cleared, outside := chain, inside
        after := Chain.leave (Chain.enter number base chain).1 inside } := by
  unfold Exit.Lawful
  rw [leave_enter hinside, hinside]
  cases base with
  | some captured => rfl
  | none =>
    cases cleared with
    | true => exact ⟨rfl, rfl⟩
    | false => exact ⟨rfl, rfl⟩

end

/-- Every run on a chain is lawful, by induction on the program: the body of a frame begins on the stack
with the frame on top, and that is where it leaves it unless it clears it. -/
theorem lawful_run (program : Program) (held : Held) :
    (chains.run program held).Lawful held := by
  induction program generalizing held with
  | done | fail => exact .framed held held.frames _
  | snapshot => exact ⟨rfl, rfl, List.forall_mem_nil _⟩
  | clear => exact ⟨rfl, (List.append_nil _).symm, List.forall_mem_nil _⟩
  | write name value =>
    rw [Operations.run]
    cases hwrite : chains.write? name value held with
    | none => exact .framed held held.frames true
    | some after =>
      obtain ⟨frames, -, rfl⟩ := Option.map_eq_some_iff.mp hwrite
      exact .framed held frames false
  | read name next ih => exact ih _ held
  | frame bindings base body ih =>
    obtain ⟨hchain, htaken, hexits⟩ := ih (chains.enter bindings base held).2
    have hleft := leave_enter hchain
    have hexit := lawful_exit hchain
    rw [Option.isNone_map] at hleft
    rw [Option.isSome_map] at hexit
    rw [Operations.run]
    exact ⟨hleft, htaken, List.forall_mem_append.mpr ⟨hexits, List.forall_mem_singleton.mpr hexit⟩⟩
  | attempt body handler hbody hhandler =>
    rw [Operations.run]
    split
    · exact (hbody held).followedBy (hhandler _)
    · exact hbody held
  | andThen first second hfirst hsecond =>
    rw [Operations.run]
    split
    · exact hfirst held
    · exact (hfirst held).followedBy (hsecond _)

/-! ### List objects -/

/-- List objects by their places, innermost frames first, with the place of the list in use and those of
the snapshots so far, and the store of frames. -/
structure Shelf where
  frames : Frames
  lists : Array Chain
  current : Nat
  taken : List Nat
deriving Repr

namespace Shelf

/-- The contents of a list. -/
def list (shelf : Shelf) (place : Nat) : Chain := shelf.lists.getD place []

/-- The contents of the list in use. -/
def stack (shelf : Shelf) : Chain := shelf.list shelf.current

/-- Changes the list in use where it stands. -/
def put (shelf : Shelf) (chain : Chain) : Shelf :=
  { shelf with lists := shelf.lists.setIfInBounds shelf.current chain }

/-- Puts a new list in the place of the one in use, which stays where it is. -/
def swap (shelf : Shelf) (chain : Chain) : Shelf :=
  { shelf with lists := shelf.lists.push chain, current := shelf.lists.size }

/-- The snapshots by their contents. -/
def view (shelf : Shelf) : Held := ⟨shelf.frames, shelf.stack, shelf.taken.map shelf.list⟩

end Shelf

/-- What leaving a frame needs to know where lists are objects: the frame entered, and the place of the
list to go back to if it was swapped for another. -/
structure Opened where
  frame : Nat
  saved : Option Nat
deriving Repr

/-- The operations of a stack whose lists are objects. -/
def objects : Operations Shelf Opened where
  write? name value shelf :=
    (shelf.frames.set? shelf.stack name value).map fun frames ↦ { shelf with frames }
  read? name shelf := shelf.frames.find? name.key shelf.stack
  snapshot shelf :=
    { shelf with
      lists := shelf.lists.push shelf.stack
      taken := shelf.taken ++ [shelf.lists.size] }
  clear shelf := shelf.swap []
  enter bindings base shelf :=
    let (number, frames) := shelf.frames.allocate bindings
    let shelf := { shelf with frames }
    match base with
    | none => (⟨number, none⟩, shelf.put (number :: shelf.stack))
    | some place =>
      let captured := (shelf.taken.map shelf.list).getD place []
      (⟨number, some shelf.current⟩, shelf.swap (number :: captured))
  leave opened shelf :=
    match opened.saved with
    | some place => { shelf with current := place }
    | none =>
      match shelf.stack with
      | [] => shelf
      | number :: rest => if number = opened.frame then shelf.put rest else shelf
  pushed := Opened.frame
  stack := Shelf.stack

/-- The list in use and the snapshots are there, and no snapshot is in use. -/
structure Shelf.Sound (shelf : Shelf) : Prop where
  current : shelf.current < shelf.lists.size
  taken : ∀ place ∈ shelf.taken, place < shelf.lists.size ∧ place ≠ shelf.current

/-- What may have become of a shelf: lists are added, none but the one in use has changed, and that one
is still in use unless it was swapped for a list added since; what was taken since was added since. -/
structure Shelf.Follows (before after : Shelf) (swapped : Bool) : Prop where
  grown : before.lists.size ≤ after.lists.size
  kept : ∀ place < before.lists.size, place ≠ before.current → after.list place = before.list place
  current : if swapped then before.lists.size ≤ after.current else after.current = before.current
  taken : ∃ since, after.taken = before.taken ++ since ∧ ∀ place ∈ since, before.lists.size ≤ place

section

variable {shelf before middle after : Shelf} {first second : Bool}

theorem list_push_of_lt {place : Nat} (hplace : place < shelf.lists.size) (chain : Chain) :
    (shelf.lists.push chain).getD place [] = shelf.list place := by
  simp only [Shelf.list, Array.getD_eq_getD_getElem?, Array.getElem?_push, hplace.ne, if_false]

theorem stack_put (hsound : shelf.Sound) (chain : Chain) : (shelf.put chain).stack = chain := by
  simp [Shelf.stack, Shelf.list, Shelf.put, Array.getD_eq_getD_getElem?, hsound.current]

theorem stack_swap (chain : Chain) : (shelf.swap chain).stack = chain := by
  simp [Shelf.stack, Shelf.list, Shelf.swap, Array.getD_eq_getD_getElem?]

namespace Shelf.Follows

theorem refl (shelf : Shelf) : shelf.Follows shelf false :=
  ⟨le_rfl, fun _ _ _ ↦ rfl, rfl, [], (List.append_nil _).symm, List.forall_mem_nil _⟩

theorem trans (hfirst : before.Follows middle first) (hsecond : middle.Follows after second) :
    before.Follows after (first || second) := by
  refine ⟨hfirst.grown.trans hsecond.grown, ?_, ?_, ?_⟩
  · intro place hplace hother
    have hmiddle : place ≠ middle.current := by
      have hcurrent := hfirst.current
      split at hcurrent
      · omega
      · rwa [hcurrent]
    rw [hsecond.kept place (hplace.trans_le hfirst.grown) hmiddle, hfirst.kept place hplace hother]
  · have hgrown := hfirst.grown
    have hleft := hfirst.current
    have hright := hsecond.current
    cases first <;> cases second <;>
      simp only [Bool.false_eq_true, if_true, if_false, Bool.or_true, Bool.or_false] at * <;> omega
  · obtain ⟨earlier, hearlier, hfresh⟩ := hfirst.taken
    obtain ⟨since, hsince, hfresher⟩ := hsecond.taken
    refine ⟨earlier ++ since, ?_, List.forall_mem_append.mpr ⟨hfresh, fun place hplace ↦ ?_⟩⟩
    · rw [hsince, hearlier, List.append_assoc]
    · exact hfirst.grown.trans (hfresher place hplace)

theorem framed (shelf : Shelf) (frames : Frames) :
    shelf.Follows { shelf with frames } false :=
  ⟨le_rfl, fun _ _ _ ↦ rfl, rfl, [], (List.append_nil _).symm, List.forall_mem_nil _⟩

theorem put (shelf : Shelf) (chain : Chain) : shelf.Follows (shelf.put chain) false := by
  refine ⟨(Array.size_setIfInBounds ..).ge, ?_, rfl, [], (List.append_nil _).symm,
    List.forall_mem_nil _⟩
  intro place hplace hother
  simp [Shelf.list, Shelf.put, Array.getD_eq_getD_getElem?, hother.symm]

theorem swap (shelf : Shelf) (chain : Chain) : shelf.Follows (shelf.swap chain) true := by
  refine ⟨?_, fun place hplace _ ↦ list_push_of_lt hplace chain, ?_, [],
    (List.append_nil _).symm, List.forall_mem_nil _⟩
  · exact (Nat.le_succ _).trans_eq (Array.size_push ..).symm
  · exact le_rfl

theorem snapshot (shelf : Shelf) : shelf.Follows (objects.snapshot shelf) false := by
  refine ⟨?_, fun place hplace _ ↦ list_push_of_lt hplace shelf.stack, rfl, [shelf.lists.size], rfl,
    List.forall_mem_singleton.mpr le_rfl⟩
  exact (Nat.le_succ _).trans_eq (Array.size_push ..).symm

/-- After going back to the list that was in use. -/
theorem restore (hfollows : before.Follows after first) :
    before.Follows { after with current := before.current } false :=
  ⟨hfollows.grown, hfollows.kept, rfl, hfollows.taken⟩

/-- What was taken before is as it was. -/
theorem list_taken (hfollows : before.Follows after first) (hsound : before.Sound) :
    before.taken.map after.list = before.taken.map before.list := by
  refine List.map_congr_left fun place hplace ↦ ?_
  obtain ⟨hthere, hother⟩ := hsound.taken place hplace
  exact hfollows.kept place hthere hother

end Shelf.Follows

namespace Shelf.Sound

theorem framed (hsound : shelf.Sound) (frames : Frames) :
    ({ shelf with frames } : Shelf).Sound :=
  ⟨hsound.current, hsound.taken⟩

theorem put (hsound : shelf.Sound) (chain : Chain) : (shelf.put chain).Sound := by
  have hsize : (shelf.put chain).lists.size = shelf.lists.size := Array.size_setIfInBounds ..
  exact ⟨hsize ▸ hsound.current, hsize ▸ hsound.taken⟩

theorem swap (hsound : shelf.Sound) (chain : Chain) : (shelf.swap chain).Sound := by
  have hsize : (shelf.swap chain).lists.size = shelf.lists.size + 1 := Array.size_push ..
  refine ⟨hsize ▸ Nat.lt_succ_self _, fun place hplace ↦ ?_⟩
  have hthere := (hsound.taken place hplace).1
  exact ⟨hsize ▸ Nat.lt_succ_of_lt hthere, hthere.ne⟩

theorem snapshot (hsound : shelf.Sound) : (objects.snapshot shelf).Sound := by
  have hsize : (objects.snapshot shelf).lists.size = shelf.lists.size + 1 := Array.size_push ..
  refine ⟨hsize ▸ Nat.lt_succ_of_lt hsound.current, fun place hplace ↦ ?_⟩
  rw [hsize]
  rcases List.mem_append.mp hplace with hplace | hplace
  · obtain ⟨hthere, hother⟩ := hsound.taken place hplace
    exact ⟨Nat.lt_succ_of_lt hthere, hother⟩
  · obtain rfl := List.mem_singleton.mp hplace
    exact ⟨Nat.lt_succ_self _, hsound.current.ne'⟩

/-- After going back to the list that was in use. -/
theorem restore (hsound : before.Sound) (hafter : after.Sound)
    (hfollows : before.Follows after first) :
    ({ after with current := before.current } : Shelf).Sound := by
  obtain ⟨since, hsince, hfresh⟩ := hfollows.taken
  refine ⟨hsound.current.trans_le hfollows.grown, fun place hplace ↦
    ⟨(hafter.taken place hplace).1, ?_⟩⟩
  rcases List.mem_append.mp (hsince ▸ hplace) with hplace | hplace
  · exact (hsound.taken place hplace).2
  · exact (hsound.current.trans_le (hfresh place hplace)).ne'

end Shelf.Sound

theorem view_put (hsound : shelf.Sound) (chain : Chain) :
    (shelf.put chain).view = { shelf.view with chain } :=
  congrArg₂ (Held.mk shelf.frames) (stack_put hsound chain)
    ((Shelf.Follows.put shelf chain).list_taken hsound)

theorem view_swap (hsound : shelf.Sound) (chain : Chain) :
    (shelf.swap chain).view = { shelf.view with chain } :=
  congrArg₂ (Held.mk shelf.frames) (stack_swap chain)
    ((Shelf.Follows.swap shelf chain).list_taken hsound)

theorem view_snapshot (hsound : shelf.Sound) :
    (objects.snapshot shelf).view = chains.snapshot shelf.view := by
  have hstack : (objects.snapshot shelf).stack = shelf.stack :=
    list_push_of_lt hsound.current shelf.stack
  have htaken : (objects.snapshot shelf).taken.map (objects.snapshot shelf).list =
      shelf.taken.map shelf.list ++ [shelf.stack] := by
    change (shelf.taken ++ [shelf.lists.size]).map _ = _
    rw [List.map_append, (Shelf.Follows.snapshot shelf).list_taken hsound]
    exact congrArg (_ ++ [·]) (stack_swap shelf.stack)
  exact congrArg₂ (Held.mk shelf.frames) hstack htaken

/-- What there is to know for leaving a frame, with the list to go back to by its contents. -/
def Opened.view (opened : Opened) (shelf : Shelf) : Entered :=
  ⟨opened.frame, opened.saved.map shelf.list⟩

/-- Entering a frame where lists are objects. -/
theorem view_enter (hsound : shelf.Sound) (bindings : Table) (base : Option Nat) :
    let entered := objects.enter bindings base shelf
    let shown := chains.enter bindings base shelf.view
    entered.1.view shelf = shown.1 ∧ entered.2.view = shown.2 := by
  cases base with
  | none => exact ⟨rfl, view_put (hsound.framed _) _⟩
  | some place => exact ⟨rfl, view_swap (hsound.framed _) _⟩

theorem follows_enter (hsound : shelf.Sound) (bindings : Table) (base : Option Nat) :
    shelf.Follows (objects.enter bindings base shelf).2 base.isSome ∧
      (objects.enter bindings base shelf).2.Sound := by
  have hframed := Shelf.Follows.framed shelf (shelf.frames.push bindings)
  cases base with
  | none => exact ⟨hframed.trans (.put _ _), (hsound.framed _).put _⟩
  | some place => exact ⟨hframed.trans (.swap _ _), (hsound.framed _).swap _⟩

/-- Leaving a frame that was entered without a captured chain changes the list in use where it stands,
or nothing. -/
theorem leave_cases (frame : Nat) (shelf : Shelf) :
    let left := objects.leave ⟨frame, none⟩ shelf
    let chain := Chain.leave ⟨frame, none⟩ shelf.stack
    left = shelf.put chain ∨ left = shelf ∧ shelf.stack = chain := by
  intro left chain
  have hleft : left = match shelf.stack with
    | [] => shelf
    | number :: rest => if number = frame then shelf.put rest else shelf := rfl
  have hchain : chain = Chain.leave ⟨frame, none⟩ shelf.stack := rfl
  rw [hleft, hchain]
  cases shelf.stack with
  | nil => exact .inr ⟨rfl, rfl⟩
  | cons number rest =>
    by_cases hnumber : number = frame
    · simp only [Chain.leave, if_pos hnumber, true_or]
    · simp only [Chain.leave, if_neg hnumber, and_self, or_true]

theorem follows_leave (frame : Nat) (hsound : shelf.Sound) :
    shelf.Follows (objects.leave ⟨frame, none⟩ shelf) false ∧
      (objects.leave ⟨frame, none⟩ shelf).Sound := by
  rcases leave_cases frame shelf with hleft | ⟨hleft, -⟩
  · rw [hleft]
    exact ⟨.put _ _, hsound.put _⟩
  · rw [hleft]
    exact ⟨.refl _, hsound⟩

/-- Leaving a frame where lists are objects, when the list to go back to is as it was. -/
theorem view_leave (hsound : after.Sound) {opened : Opened}
    (hsaved : ∀ place, opened.saved = some place → after.list place = before.list place) :
    (objects.leave opened after).view = chains.leave (opened.view before) after.view := by
  obtain ⟨frame, saved⟩ := opened
  cases saved with
  | some place => exact congrArg₂ (Held.mk after.frames) (hsaved place rfl) rfl
  | none =>
    rcases leave_cases frame after with hleft | ⟨hleft, hstack⟩
    · rw [hleft, view_put hsound]
      rfl
    · rw [hleft]
      exact congrArg₂ (Held.mk after.frames) hstack rfl

end

/-- What the run of a program does to the lists, by induction on the program: the body of a frame with a
captured chain runs on a list of its own, and the one that was in use before is gone back to. -/
theorem follows_run (program : Program) {shelf : Shelf} (hsound : shelf.Sound) :
    shelf.Follows (objects.run program shelf).state (objects.run program shelf).cleared ∧
      (objects.run program shelf).state.Sound := by
  induction program generalizing shelf with
  | done | fail => exact ⟨.refl shelf, hsound⟩
  | snapshot => exact ⟨.snapshot shelf, hsound.snapshot⟩
  | clear => exact ⟨.swap shelf [], hsound.swap []⟩
  | write name value =>
    rw [Operations.run]
    cases hwrite : objects.write? name value shelf with
    | none => exact ⟨.refl shelf, hsound⟩
    | some after =>
      obtain ⟨frames, -, rfl⟩ := Option.map_eq_some_iff.mp hwrite
      exact ⟨.framed shelf frames, hsound.framed frames⟩
  | read name next ih => exact ih _ hsound
  | frame bindings base body ih =>
    obtain ⟨hentered, hinside⟩ := follows_enter hsound bindings base
    obtain ⟨hended, hafter⟩ := ih hinside
    have hfollows := hentered.trans hended
    cases base with
    | none =>
      obtain ⟨hleft, hlast⟩ := follows_leave shelf.frames.size hafter
      have hwhole := hfollows.trans hleft
      rw [Option.isSome_none, Bool.false_or, Bool.or_false] at hwhole
      exact ⟨hwhole, hlast⟩
    | some place => exact ⟨hfollows.restore, hsound.restore hafter hfollows⟩
  | attempt body handler hbody hhandler =>
    rw [Operations.run]
    obtain ⟨hfirst, hafter⟩ := hbody hsound
    obtain ⟨hsecond, hlast⟩ := hhandler hafter
    split
    · exact ⟨hfirst.trans hsecond, hlast⟩
    · exact ⟨hfirst, hafter⟩
  | andThen first second hbody hnext =>
    rw [Operations.run]
    obtain ⟨hfirst, hafter⟩ := hbody hsound
    obtain ⟨hsecond, hlast⟩ := hnext hafter
    split
    · exact ⟨hfirst, hafter⟩
    · exact ⟨hfirst.trans hsecond, hlast⟩

/-- The list to go back to from a frame with a captured chain stays as it is while its body runs. -/
theorem list_saved {shelf after : Shelf} (hsound : shelf.Sound) {bindings : Table} {base : Option Nat}
    {place : Nat} (hplace : (objects.enter bindings base shelf).1.saved = some place)
    {swapped : Bool} (hfollows : (objects.enter bindings base shelf).2.Follows after swapped) :
    after.list place = shelf.list place := by
  obtain ⟨hentered, -⟩ := follows_enter hsound bindings base
  cases base with
  | none => cases hplace
  | some captured =>
    obtain rfl : shelf.current = place := Option.some.inj hplace
    have hthere := hsound.current.trans_le hentered.grown
    rw [hfollows.kept _ hthere hsound.current.ne]
    exact list_push_of_lt hsound.current _

/-- Both kinds of run agree: a run on list objects, looked at by the contents of its lists, is the run on
the chains that they hold. The list that a frame with a captured chain goes back to was not in use
meanwhile. -/
theorem run_view (program : Program) {shelf : Shelf} (hsound : shelf.Sound) :
    (objects.run program shelf).map Shelf.view = chains.run program shelf.view := by
  induction program generalizing shelf with
  | done | fail => rfl
  | snapshot => exact congrArg (Ended.mk · false false [shelf.stack] []) (view_snapshot hsound)
  | clear => exact congrArg (Ended.mk · false true [] []) (view_swap hsound [])
  | write name value =>
    have hwrite : chains.write? name value shelf.view =
        (objects.write? name value shelf).map Shelf.view := by
      simp only [chains, objects, Option.map_map]
      rfl
    rw [Operations.run, Operations.run, hwrite]
    cases objects.write? name value shelf with
    | none => rfl
    | some after => rfl
  | read name next ih => exact ih _ hsound
  | frame bindings base body ih =>
    obtain ⟨hopened, hinside⟩ := view_enter hsound bindings base
    obtain ⟨-, hinner⟩ := follows_enter hsound bindings base
    obtain ⟨hended, hafter⟩ := follows_run body hinner
    have hleft : (objects.leave (objects.enter bindings base shelf).1
          (objects.run body (objects.enter bindings base shelf).2).state).view =
        chains.leave (chains.enter bindings base shelf.view).1
          ((objects.run body (objects.enter bindings base shelf).2).map Shelf.view).state := by
      rw [← hopened]
      exact view_leave hafter fun place hplace ↦ list_saved hsound hplace hended
    rw [Operations.run, Operations.run, ← hinside, ← ih hinner, ← hleft, ← hopened]
    rfl
  | attempt body handler hbody hhandler =>
    have hafter := (follows_run body hsound).2
    have hlast := hhandler hafter
    rw [Operations.run, Operations.run, ← hbody hsound, Ended.failed_map]
    by_cases hfailed : (objects.run body shelf).failed = true
    · rw [if_pos hfailed, if_pos hfailed]
      exact congrArg ((objects.run body shelf).map Shelf.view).followedBy hlast
    · rw [if_neg hfailed, if_neg hfailed]
  | andThen first second hfirst hsecond =>
    have hafter := (follows_run first hsound).2
    have hlast := hsecond hafter
    rw [Operations.run, Operations.run, ← hfirst hsound, Ended.failed_map]
    by_cases hfailed : (objects.run first shelf).failed = true
    · rw [if_pos hfailed, if_pos hfailed]
    · rw [if_neg hfailed, if_neg hfailed]
      exact congrArg ((objects.run first shelf).map Shelf.view).followedBy hlast

/-- The law of frame stacks. In every run of a program, every frame that was entered with a captured
chain leaves the stack that it was entered on, and every other one leaves that stack too, with nothing
but its own frame taken off, or leaves an empty stack and takes nothing off if the stack was cleared. All
snapshots, those there were and those taken by the way, hold the stacks that they were taken of. The
shelf can be run on again, and shows what the same program does to chains. -/
theorem left_as_entered (program : Program) {shelf : Shelf} (hsound : shelf.Sound) :
    let ended := objects.run program shelf
    (∀ exit ∈ ended.exits, exit.Lawful) ∧
      ended.state.stack = (if ended.cleared then [] else shelf.stack) ∧
      shelf.taken <+: ended.state.taken ∧
      ended.state.taken.map ended.state.list = shelf.taken.map shelf.list ++ ended.taken ∧
      ended.state.Sound ∧ ended.map Shelf.view = chains.run program shelf.view := by
  intro ended
  obtain ⟨hfollows, hafter⟩ := follows_run program hsound
  obtain ⟨since, hsince, -⟩ := hfollows.taken
  have hview : ended.map Shelf.view = chains.run program shelf.view := run_view program hsound
  have hlawful : (ended.map Shelf.view).Lawful shelf.view := hview ▸ lawful_run program shelf.view
  exact ⟨hlawful.exits, hlawful.chain, ⟨since, hsince.symm⟩, hlawful.taken, hafter, hview⟩

/-- A frame in which a snapshot is taken, in it a frame on top of that snapshot which clears the stack,
and then a frame without a captured chain that a failure leaves, on a stack with nothing on it. -/
theorem failing_left_as_entered :
    let shelf : Shelf := ⟨#[], #[[]], 0, []⟩
    let program : Program := .frame [] none
      (.andThen .snapshot (.andThen (.frame [] (some 0) .clear) (.frame [] none .fail)))
    let ended := objects.run program shelf
    shelf.Sound ∧ (∀ exit ∈ ended.exits, exit.Lawful) ∧ ended.state.stack = [] ∧
      ended.state.taken.map ended.state.list = [[0]] ∧
      ended.exits.map (fun exit ↦ (exit.outside, exit.inside, exit.after)) =
        [([0], [], [0]), ([0], [2, 0], [0]), ([], [0], [])] := by
  intro shelf program ended
  have hsound : shelf.Sound := ⟨Nat.zero_lt_one, List.forall_mem_nil _⟩
  obtain ⟨hexits, hstack, -, htaken, -⟩ := left_as_entered program hsound
  have hended : ended.cleared = false ∧ ended.taken = [[0]] ∧
      ended.exits.map (fun exit ↦ (exit.outside, exit.inside, exit.after)) =
        [([0], [], [0]), ([0], [2, 0], [0]), ([], [0], [])] := by
    decide +kernel
  refine ⟨hsound, hexits, ?_, ?_, hended.2.2⟩
  · exact hstack.trans (if_neg (Bool.eq_false_iff.mp hended.1))
  · exact htaken.trans hended.2.1

end FrameStack

end Treewalk
