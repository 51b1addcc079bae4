import Treewalk.Host.Kernel
import Treewalk.Proofs.Walk

/-!
No name leaks out of a scope. Evaluation never takes a name out of a frame that was there before,
and puts new names only into the innermost frames of the two chains it began with (`Evolves.grows`).
What runs inside a frame of its own, as the parts of a sequence, a rescue and a block call do, has
that frame as its innermost one, so that to all older local frames it can only write names that are
bound there already (`Run.contained_inFrame`). All of this holds as long as no frame is reached for
through a block: who has its frames can write and remove names in any of them
(`reached_frame_changes_names`).
-/

set_option autoImplicit false
set_option relaxedAutoImplicit false

namespace Treewalk

/-! ### Names of a table -/

namespace Table

/-- The names that a table binds, in order, each with its key. -/
def binders (table : Table) : List (Key × Value) := table.map fun entry ↦ (entry.key, entry.name)

/-- Writing to a name that is bound binds no other one. -/
theorem binders_insert_of_has {key : Key} {table : Table} (hhas : table.has key = true)
    (name value : Value) : (table.insert key name value).binders = table.binders := by
  induction table with
  | nil => cases hhas
  | cons entry rest ih =>
    unfold insert
    by_cases hkey : entry.key = key
    · rw [if_pos hkey]
      rfl
    · rw [if_neg hkey]
      unfold has find? at hhas
      rw [if_neg hkey] at hhas
      exact congrArg (List.cons (entry.key, entry.name)) (ih hhas)

/-- Writing to a name that is not bound binds it last. -/
theorem binders_insert_of_not_has {key : Key} {table : Table} (hhas : table.has key = false)
    (name value : Value) :
    (table.insert key name value).binders = table.binders ++ [(key, name)] := by
  induction table with
  | nil => rfl
  | cons entry rest ih =>
    unfold has find? at hhas
    by_cases hkey : entry.key = key
    · rw [if_pos hkey] at hhas
      cases hhas
    · rw [if_neg hkey] at hhas
      unfold insert
      rw [if_neg hkey]
      exact congrArg (List.cons (entry.key, entry.name)) (ih hhas)

end Table

/-! ### Frames that gain no name -/

namespace Frames

theorem frame_push {frames : Frames} {number : Nat} (hnumber : number < frames.size)
    (bindings : Table) : Frames.frame (frames.push bindings) number = frames.frame number := by
  unfold frame
  rw [Array.getD_eq_getD_getElem?, Array.getD_eq_getD_getElem?, Array.getElem?_push_lt hnumber,
    Array.getElem?_eq_getElem hnumber]

/-- What each frame is after one of them has been replaced. -/
theorem frame_setIfInBounds (frames : Frames) (number other : Nat) (table : Table) :
    Frames.frame (frames.setIfInBounds number table) other =
      if number = other ∧ number < frames.size then table else frames.frame other := by
  unfold frame
  rw [Array.getD_eq_getD_getElem?, Array.getElem?_setIfInBounds, Array.getD_eq_getD_getElem?]
  by_cases hnumber : number = other
  · subst hnumber
    by_cases hsize : number < frames.size
    · rw [if_pos rfl, if_pos hsize, if_pos ⟨rfl, hsize⟩, Option.getD_some]
    · rw [if_pos rfl, if_neg hsize, if_neg fun hboth ↦ hsize hboth.2,
        Array.getElem?_eq_none (Nat.le_of_not_lt hsize)]
  · rw [if_neg hnumber, if_neg fun hboth ↦ hnumber hboth.1]

/-- What a write makes of each frame. -/
theorem frame_bind (frames : Frames) (number other : Nat) (name : Name) (value : Value) :
    (frames.bind number name value).frame other =
      if number = other ∧ number < frames.size then
        (frames.frame number).insert name.key name.value value
      else frames.frame other :=
  frame_setIfInBounds frames number other _

theorem frame_bind_self {frames : Frames} {number : Nat} (hnumber : number < frames.size)
    (name : Name) (value : Value) :
    (frames.bind number name value).frame number =
      (frames.frame number).insert name.key name.value value := by
  rw [frame_bind, if_pos ⟨rfl, hnumber⟩]

theorem frame_bind_of_ne {frames : Frames} {number other : Nat} (hother : number ≠ other)
    (name : Name) (value : Value) :
    (frames.bind number name value).frame other = frames.frame other := by
  rw [frame_bind, if_neg fun hboth ↦ hother hboth.1]

/-- The holder of a name has it. -/
theorem has_of_holder? {frames : Frames} {key : Key} {chain : Chain} {number : Nat}
    (hholder : frames.holder? key chain = some number) : (frames.frame number).has key = true := by
  induction chain with
  | nil => cases hholder
  | cons first rest ih =>
    unfold holder? at hholder
    split at hholder
    · next hhas =>
      obtain rfl := Option.some.inj hholder
      exact hhas
    · exact ih hholder

/-- A write goes to a frame that has the name, or else to the innermost one. -/
theorem has_or_head?_of_target? {frames : Frames} {key : Key} {chain : Chain} {number : Nat}
    (htarget : frames.target? key chain = some number) :
    (frames.frame number).has key = true ∨ chain.head? = some number := by
  unfold target? at htarget
  split at htarget
  · next holder hholder =>
    obtain rfl := Option.some.inj htarget
    exact Or.inl (has_of_holder? hholder)
  · exact Or.inr htarget

/-- A store of frames that goes on from another one: the frames of the other one are still there
with all their names, and only those that are exempt may have got more. -/
structure Grows (exempt : List Nat) (before after : Frames) : Prop where
  size : before.size ≤ after.size
  names : ∀ number < before.size, ∃ added,
    (after.frame number).binders = (before.frame number).binders ++ added ∧
      (number ∉ exempt → added = [])

namespace Grows

variable {exempt : List Nat}

theorem refl (frames : Frames) : Grows exempt frames frames :=
  ⟨Nat.le_refl _, fun _ _ ↦ ⟨[], (List.append_nil _).symm, fun _ ↦ rfl⟩⟩

theorem trans {first middle last : Frames} (hfirst : Grows exempt first middle)
    (hlast : Grows exempt middle last) : Grows exempt first last where
  size := Nat.le_trans hfirst.size hlast.size
  names number hnumber := by
    obtain ⟨added, hadded, hnone⟩ := hfirst.names number hnumber
    obtain ⟨more, hmore, hnomore⟩ :=
      hlast.names number (Nat.lt_of_lt_of_le hnumber hfirst.size)
    refine ⟨added ++ more, ?_, fun hexempt ↦ ?_⟩
    · rw [hmore, hadded, List.append_assoc]
    · rw [hnone hexempt, hnomore hexempt]
      rfl

theorem mono {wider : List Nat} (hwider : exempt ⊆ wider) {before after : Frames}
    (hgrows : Grows exempt before after) : Grows wider before after where
  size := hgrows.size
  names number hnumber := by
    obtain ⟨added, hadded, hnone⟩ := hgrows.names number hnumber
    exact ⟨added, hadded, fun hexempt ↦ hnone fun hmem ↦ hexempt (hwider hmem)⟩

/-- A frame that is new anyway need not be exempt. -/
theorem of_push {before after : Frames} {bindings : Table}
    (hgrows : Grows (before.size :: exempt) (before.push bindings) after) :
    Grows exempt before after where
  size := by
    have hsize := hgrows.size
    rw [Array.size_push] at hsize
    exact Nat.le_of_succ_le hsize
  names number hnumber := by
    have hsize : number < (before.push bindings).size := by
      rw [Array.size_push]
      exact Nat.lt_succ_of_lt hnumber
    obtain ⟨added, hadded, hnone⟩ := hgrows.names number hsize
    rw [frame_push hnumber] at hadded
    refine ⟨added, hadded, fun hexempt ↦ hnone fun hmem ↦ ?_⟩
    rcases List.mem_cons.mp hmem with hnew | hold
    · exact absurd hnew (Nat.ne_of_lt hnumber)
    · exact hexempt hold

/-- A write adds a name to an innermost frame at most. -/
theorem bind {frames : Frames} {name : Name} {chain : Chain} {number : Nat}
    (htarget : frames.target? name.key chain = some number) (value : Value)
    (hexempt : chain.head?.toList ⊆ exempt) :
    Grows exempt frames (frames.bind number name value) where
  size := Nat.le_of_eq Array.size_setIfInBounds.symm
  names other hother := by
    by_cases hnumber : number = other
    · subst hnumber
      rw [frame_bind_self hother]
      by_cases hhas : (frames.frame number).has name.key = true
      · refine ⟨[], ?_, fun _ ↦ rfl⟩
        rw [Table.binders_insert_of_has hhas, List.append_nil]
      · refine ⟨_, Table.binders_insert_of_not_has (Bool.eq_false_iff.mpr hhas) _ _, ?_⟩
        intro hother
        have hhead := (has_or_head?_of_target? htarget).resolve_left hhas
        refine absurd (hexempt ?_) hother
        rw [hhead]
        exact List.mem_singleton_self _
    · refine ⟨[], ?_, fun _ ↦ rfl⟩
      rw [frame_bind_of_ne hnumber, List.append_nil]

end Grows

end Frames

/-! ### Runs -/

/-- The innermost global frame, if there is one. -/
def Evaluator.globalFront (evaluator : Evaluator) : List Nat := evaluator.globals.head?.toList

/-- The innermost frames of both chains. -/
def Evaluator.fronts (evaluator : Evaluator) : List Nat :=
  evaluator.locals.head?.toList ++ evaluator.globalFront

theorem Machine.Continues.fronts {before after : Machine} (hcontinues : before.Continues after) :
    after.evaluator.fronts = before.evaluator.fronts := by
  have hlocals : after.evaluator.locals = before.evaluator.locals := hcontinues.chains .locals
  have hglobals : after.evaluator.globals = before.evaluator.globals := hcontinues.chains .globals
  unfold Evaluator.fronts Evaluator.globalFront
  rw [hlocals, hglobals]

/-- What grows inside a new local frame grows outside of it in the global frame only. -/
theorem Frames.Grows.of_enter {machine : Machine} {bindings : Table} {base : Option Chain}
    {after : Frames}
    (hgrows : Grows (machine.enter .locals bindings base).2.evaluator.fronts
      (machine.enter .locals bindings base).2.frames after) :
    Grows machine.evaluator.globalFront machine.frames after := by
  rw [Machine.evaluator_enter, Machine.frames_enter] at hgrows
  exact hgrows.of_push

/-- Running adds names to the innermost frames at most, unless a frame is reached for. -/
theorem Evolves.grows {library : Library} {before after : Machine} {outcome : Outcome Unit}
    (hevolves : Evolves library before outcome after) (hunreached : before.Unreached after) :
    Frames.Grows before.evaluator.fronts before.frames after.frames := by
  induction hevolves with
  | next hfirst hlast ihfirst ihlast | recovered hfirst hlast ihfirst ihlast =>
    obtain ⟨hbefore, hafter⟩ := hunreached.split hfirst.continues.events hlast.continues.events
    have hlater := ihlast hafter
    rw [hfirst.continues.fronts] at hlater
    exact (ihfirst hbefore).trans hlater
  | asked engine receiver member node answer answered asking ih =>
    exact ih (hunreached.split asking.continues.events (List.suffix_cons _ _)).1
  | reached receiver name effect machine =>
    exact absurd hunreached (machine.not_unreached_affected receiver name effect)
  | written space name value number machine target =>
    refine .bind target value ?_
    cases space with
    | locals => exact List.subset_append_left _ _
    | globals => exact List.subset_append_right _ _
  | framed bindings base captured inside ih =>
    exact (ih (Machine.Continues.unreached_inside hunreached)).of_enter.mono
      (List.subset_append_right _ _)
  | _ => exact .refl _

namespace Run

variable {α β : Type} {library : Library}

/-- A run that from this machine adds names to the innermost global frame at most, unless something of
the interpreter itself is reached for. -/
def Contained (run : Run α) (machine : Machine) : Prop :=
  machine.Unreached (run machine).2 →
    Frames.Grows machine.evaluator.globalFront machine.frames (run machine).2.frames

theorem contained_of_frames_eq {run : Run α} {machine : Machine}
    (hframes : (run machine).2.frames = machine.frames) : run.Contained machine := by
  intro _
  rw [hframes]
  exact .refl _

/-- A run that touches no frame may come before a contained one. -/
theorem contained_bind {run : Run α} {after : α → Run β} {machine : Machine}
    (hframes : (run machine).2.frames = machine.frames)
    (hglobals : (run machine).2.evaluator.globals = machine.evaluator.globals)
    (hreaches : machine.Unreached (run machine).2)
    (hafter : ∀ result changed, run machine = (.value result, changed) →
      (after result).Contained changed) : (run >>= after).Contained machine := by
  unfold Contained
  rw [bind_apply]
  rcases heq : run machine with ⟨outcome, changed⟩
  rw [heq] at hframes hglobals hreaches
  dsimp only at hframes hglobals hreaches
  cases outcome with
  | value result =>
    intro hunreached
    have hchanged := hafter result changed heq (hunreached.trans hreaches.symm)
    unfold Evaluator.globalFront at hchanged
    rw [hframes, hglobals] at hchanged
    exact hchanged
  | failed failure => exact fun _ ↦ hframes ▸ .refl _
  | aborted message => exact fun _ ↦ hframes ▸ .refl _
  | exhausted => exact fun _ ↦ hframes ▸ .refl _

theorem contained_bind_of_heapwise {run : Run α} {after : α → Run β} {machine : Machine}
    (hrun : run.Heapwise) (hafter : ∀ result changed, (after result).Contained changed) :
    (run >>= after).Contained machine := by
  obtain ⟨heap, marks, hchanged, -⟩ := hrun machine
  refine contained_bind ?_ ?_ ?_ fun result changed _ ↦ hafter result changed
  · rw [hchanged]
  · rw [hchanged]
  · rw [hchanged]
    rfl

/-- What runs in a local frame of its own is contained. -/
theorem contained_inFrame {bindings : Table} {base : Option Chain} {run : Run α}
    {machine : Machine} (hrun : run.Evolving library) :
    (inFrame .locals bindings base run).Contained machine := fun hunreached ↦
  (Evolves.grows (hrun (machine.enter .locals bindings base).2)
    (Machine.Continues.unreached_inside hunreached)).of_enter

end Run

namespace Eval

open Run

variable {library : Library} {engine : Engine}

theorem contained_rescueNode (hengine : engine.Evolving library) (children : List Site)
    (machine : Machine) : (rescueNode engine children).Contained machine := by
  unfold rescueNode
  split
  · exact contained_of_frames_eq rfl
  · refine contained_bind_of_heapwise (heapwise_splitElse _) fun parts split ↦ ?_
    exact contained_inFrame (evolving_rescued hengine _ _ _)

/-- A sequence and a rescue have a frame of their own. -/
theorem contained_step (hengine : engine.Evolving library) {tag : String}
    (htag : tag ∈ ["begin", "kwbegin", "rescue"]) (children : List Tree) (mark : Mark)
    (machine : Machine) : (step library engine ⟨.node tag children, mark⟩).Contained machine := by
  refine contained_bind rfl rfl rfl fun _ visited _ ↦ ?_
  dsimp only
  simp only [List.mem_cons, List.not_mem_nil, or_false] at htag
  rcases htag with rfl | rfl | rfl
  · refine contained_bind rfl rfl rfl fun _ moved _ ↦ ?_
    exact contained_inFrame (evolving_sequence hengine _ _)
  · refine contained_bind rfl rfl rfl fun _ moved _ ↦ ?_
    exact contained_inFrame (evolving_sequence hengine _ _)
  · refine contained_bind rfl rfl rfl fun _ moved _ ↦ ?_
    exact contained_rescueNode hengine _ _

/-- A block call has a frame of its own. -/
theorem contained_callBlock (hengine : engine.Evolving library) (parameters body : Site)
    (chain : Chain) (arguments : List Value) (machine : Machine) :
    (callBlock engine parameters body chain arguments).Contained machine := by
  refine contained_bind_of_heapwise (heapwise_bindArguments parameters arguments)
    fun bindings bound ↦ ?_
  exact contained_inFrame (hengine.evaluate body)

theorem contained_callValue (hengine : engine.Evolving library) {index : Nat}
    {parameters body : Site} {chain : Chain} {machine : Machine}
    (hclosure : machine.memory.closure? index = some (.block parameters body chain))
    (arguments : List Value) (block : Option Value) :
    (callValue library engine (.closure index) arguments block).Contained machine := by
  refine contained_bind rfl rfl rfl fun found seen hseen ↦ ?_
  obtain ⟨hfound, rfl⟩ := Prod.mk.inj hseen
  rw [← Outcome.value.inj hfound]
  dsimp only
  rw [hclosure]
  dsimp only
  split
  · exact contained_of_frames_eq rfl
  · exact contained_callBlock hengine parameters body chain arguments machine

end Eval

/-- As long as nothing of the interpreter itself is reached for, evaluation removes no name from a frame
that was there before, and adds names at most to the innermost frames of the two chains; the evaluation
of a sequence or a rescue and the call of a block add none to any local frame. -/
theorem no_name_leaks (library : Library) (depth : Nat) (machine : Machine) :
    (∀ site, machine.Unreached ((Eval.engine library depth).evaluate site machine).2 →
      Frames.Grows machine.evaluator.fronts machine.frames
        ((Eval.engine library depth).evaluate site machine).2.frames) ∧
    (∀ tag ∈ ["begin", "kwbegin", "rescue"], ∀ children mark,
      machine.Unreached
          ((Eval.engine library depth).evaluate ⟨.node tag children, mark⟩ machine).2 →
        Frames.Grows machine.evaluator.globalFront machine.frames
          ((Eval.engine library depth).evaluate ⟨.node tag children, mark⟩ machine).2.frames) ∧
    (∀ index parameters body chain arguments block,
      machine.memory.closure? index = some (.block parameters body chain) →
        machine.Unreached
            ((Eval.engine library depth).call (.closure index) arguments block machine).2 →
          Frames.Grows machine.evaluator.globalFront machine.frames
            ((Eval.engine library depth).call (.closure index) arguments block
              machine).2.frames) := by
  refine ⟨fun site ↦ ?_, fun tag htag children mark ↦ ?_, ?_⟩
  · exact Evolves.grows ((Eval.evolving_engine library depth).evaluate site machine)
  · cases depth with
    | zero => exact fun _ ↦ .refl _
    | succ depth =>
      exact Eval.contained_step (Eval.evolving_engine library depth) htag children mark machine
  · intro index parameters body chain arguments block hclosure
    cases depth with
    | zero => exact fun _ ↦ .refl _
    | succ depth =>
      exact Eval.contained_callValue (Eval.evolving_engine library depth) hclosure arguments block

/-- A variable that is first written inside a sequence is bound in the frame of the sequence and not
in the one outside. -/
theorem sequence_keeps_new_name :
    let machine : Machine := { evaluator := { locals := [1], globals := [0] }, frames := #[[], []] }
    let after := ((Eval.engine {} 2).evaluate
      ⟨.node "begin" [.node "lvasgn" [.leaf (.text "y")]], .common⟩ machine).2
    machine.Unreached after ∧ (after.frames.frame 2).has [.text "y"] = true ∧
      (after.frames.frame 1).binders = [] := by
  intro machine after
  have hunreached : machine.Unreached after := rfl
  refine ⟨hunreached, by decide +kernel, ?_⟩
  obtain ⟨added, hadded, hnone⟩ := ((no_name_leaks {} 2 machine).2.1 "begin" List.mem_cons_self
    [.node "lvasgn" [.leaf (.text "y")]] .common hunreached).names 1 (by decide)
  have hexempt : 1 ∉ machine.evaluator.globalFront := by decide
  rw [hnone hexempt] at hadded
  exact hadded

/-- A sequence that reaches for the frames of a block does add a name to the frame outside, or take one
out of it. -/
theorem reached_frame_changes_names :
    let frame := Tree.sent (Tree.sent Tree.idleBlock "frames" []) "[]" [.node "int" [.leaf (.int 0)]]
    let text (s : String) : Tree := .node "str" [.leaf (.text s)]
    let machine : Machine :=
      { evaluator := { locals := [1], globals := [0], context := .cell 0 }
        memory := { heap := #[Host.kernelCell] }
        frames := #[[], Table.ofNames [("y", .ofInt 5)]] }
    let after (script : Tree) : Frames :=
      ((Eval.engine Host.kernelLibrary 8).evaluate ⟨.node "begin" [script], .common⟩ machine).2.frames
    ¬ Frames.Grows machine.evaluator.globalFront machine.frames
        (after (Tree.sent frame "[]=" [text "x", .node "int" [.leaf (.int 1)]])) ∧
      ¬ Frames.Grows machine.evaluator.globalFront machine.frames
        (after (Tree.sent frame "pop" [text "y"])) := by
  intro frame text machine after
  have hkeys {later : Frames}
      (hgrows : Frames.Grows machine.evaluator.globalFront machine.frames later) :
      (later.frame 1).binders.map Prod.fst = [[.text "y"]] := by
    obtain ⟨added, hadded, hnone⟩ := hgrows.names 1 (by decide)
    have hexempt : 1 ∉ machine.evaluator.globalFront := by decide
    rw [hadded, hnone hexempt]
    rfl
  constructor
  · intro hgrows
    have hbound : ((after (Tree.sent frame "[]=" [text "x", .node "int" [.leaf (.int 1)]])).frame
        1).binders.map Prod.fst = [[.text "y"], [.text "x"]] := by
      decide +kernel
    exact absurd (hbound.symm.trans (hkeys hgrows)) (by decide)
  · intro hgrows
    have hfree : ((after (Tree.sent frame "pop" [text "y"])).frame 1).binders.map Prod.fst = [] := by
      decide +kernel
    exact absurd (hfree.symm.trans (hkeys hgrows)) (by decide)

end Treewalk
