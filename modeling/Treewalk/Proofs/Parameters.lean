import Treewalk.Proofs.Containment
import Treewalk.Proofs.LexicalScope
import Treewalk.Proofs.StackDiscipline

/-!
Parameters of blocks and targets of destructuring assignments. Both are patterns of names, of rests
that take the values left over, and of nested patterns (`Parameter`); a block call collects what it
binds in the table of a new frame, and an assignment writes one name after another through the chain
that stands. The two go in step: at each point the names that the table holds are read with the same
values through the chain, and every other name is read as before (`Mirrors`). They also fail together,
when a value that has to be taken apart has more items than can be listed; but then the table is lost,
and what was assigned stays.

Reading back what was written needs a chain of frames that are there. In a session this is always so
(`Machine.InSession.grounded`).
-/

set_option autoImplicit false
set_option relaxedAutoImplicit false

namespace Treewalk

/-! ### Patterns -/

/-- One part of a pattern: a name for one value, a rest that takes all values left, perhaps under a
name, or a nested pattern. -/
inductive Parameter where
  | single (name : String)
  | rest (name : Option String)
  | nested (parameters : List Parameter)

namespace Parameter

mutual

/-- A part of a pattern as the parameter of a block. -/
def asParameter : Parameter → Tree
  | single name => .node "arg" [.leaf (.text name)]
  | rest none => .node "restarg" []
  | rest (some name) => .node "restarg" [.leaf (.text name)]
  | nested parameters => .node "mlhs" (asParameters parameters)

/-- A pattern as the parameters of a block. -/
def asParameters : List Parameter → List Tree
  | [] => []
  | parameter :: others => asParameter parameter :: asParameters others

end

mutual

/-- A part of a pattern as the target of an assignment. -/
def asTarget : Parameter → Tree
  | single name => .node "lvasgn" [.leaf (.text name)]
  | rest none => .node "splat" []
  | rest (some name) => .node "splat" [.node "lvasgn" [.leaf (.text name)]]
  | nested parameters => .node "mlhs" (asTargets parameters)

/-- A pattern as the targets of an assignment. -/
def asTargets : List Parameter → List Tree
  | [] => []
  | parameter :: others => asTarget parameter :: asTargets others

end

mutual

/-- The names in a part of a pattern, in order. -/
def names : Parameter → List String
  | single name => [name]
  | rest name => name.toList
  | nested parameters => allNames parameters

/-- The names in a pattern, in order. -/
def allNames : List Parameter → List String
  | [] => []
  | parameter :: others => names parameter ++ allNames others

end

/-- Whether a part of a pattern takes all values left. -/
def takesAll : Parameter → Bool
  | rest _ => true
  | _ => false

end Parameter

/-! ### Reading what was written -/

/-- A key is found with the value stored last. -/
theorem Table.find?_insert (key other : Key) (name value : Value) (table : Table) :
    (table.insert key name value).find? other =
      if key = other then some value else table.find? other := by
  induction table with
  | nil => rfl
  | cons entry rest ih =>
    unfold insert
    by_cases hentry : entry.key = key
    · rw [if_pos hentry]
      simp only [find?, hentry]
      split <;> rfl
    · rw [if_neg hentry]
      simp only [find?, ih]
      by_cases hother : entry.key = other
      · rw [if_pos hother, if_pos hother, if_neg fun hkey ↦ hentry (hother.trans hkey.symm)]
      · rw [if_neg hother, if_neg hother]

namespace Frames

variable {frames : Frames} {name : Name} {value : Value} {number : Nat}

theorem frame_push_self (frames : Frames) (bindings : Table) :
    Frames.frame (frames.push bindings) frames.size = bindings := by
  unfold frame
  rw [Array.getD_eq_getD_getElem?, Array.getElem?_push_size, Option.getD_some]

/-- In each frame a write changes at most what is found under its own key. -/
theorem find?_frame_bind_of_ne (frames : Frames) (number other : Nat) (value : Value) {key : Key}
    (hkey : name.key ≠ key) :
    ((frames.bind number name value).frame other).find? key = (frames.frame other).find? key := by
  by_cases hnumber : number = other
  · subst hnumber
    by_cases hsize : number < frames.size
    · rw [frame_bind_self hsize, Table.find?_insert, if_neg hkey]
    · unfold bind
      rw [Array.setIfInBounds_eq_of_size_le (Nat.le_of_not_lt hsize)]
  · rw [frame_bind_of_ne hnumber]

theorem find?_bind_of_ne (frames : Frames) (number : Nat) (value : Value) {key : Key}
    (hkey : name.key ≠ key) (chain : Chain) :
    (frames.bind number name value).find? key chain = frames.find? key chain := by
  induction chain with
  | nil => rfl
  | cons first outer ih =>
    rw [find?, find?, find?_frame_bind_of_ne frames number first value hkey, ih]

/-- In the frame that it goes to, a write is found. -/
theorem find?_frame_bind_self (hsize : number < frames.size) :
    ((frames.bind number name value).frame number).find? name.key = some value := by
  rw [frame_bind_self hsize, Table.find?_insert, if_pos rfl]

/-- A write to the holder of a name is read through the chain: no frame further in has the name. -/
theorem find?_bind_holder {chain : Chain} (hbounds : ∀ other ∈ chain, other < frames.size)
    (hholder : frames.holder? name.key chain = some number) :
    (frames.bind number name value).find? name.key chain = some value := by
  induction chain with
  | nil => cases hholder
  | cons first outer ih =>
    unfold holder? at hholder
    split at hholder
    · obtain rfl := Option.some.inj hholder
      rw [find?, find?_frame_bind_self (hbounds first List.mem_cons_self)]
    · next hhas =>
      have hfirst : number ≠ first := by
        rintro rfl
        exact hhas (has_of_holder? hholder)
      have hnone : (frames.frame first).find? name.key = none :=
        Option.not_isSome_iff_eq_none.mp hhas
      rw [find?, frame_bind_of_ne hfirst, hnone]
      exact ih (fun other hother ↦ hbounds other (List.mem_cons_of_mem first hother)) hholder

/-- A write is read back through the chain that it was made through, and changes no other name. -/
theorem find?_bind_target {chain : Chain} (hbounds : ∀ other ∈ chain, other < frames.size)
    (htarget : frames.target? name.key chain = some number) (key : Key) :
    (frames.bind number name value).find? key chain =
      if name.key = key then some value else frames.find? key chain := by
  by_cases hkey : name.key = key
  · subst hkey
    rw [if_pos rfl]
    unfold target? at htarget
    split at htarget
    · next holder hholder =>
      obtain rfl := Option.some.inj htarget
      exact find?_bind_holder hbounds hholder
    · cases chain with
      | nil => cases htarget
      | cons first outer =>
        obtain rfl := Option.some.inj htarget
        rw [find?, find?_frame_bind_self (hbounds first List.mem_cons_self)]
  · rw [if_neg hkey, find?_bind_of_ne frames number value hkey]

end Frames

/-! ### Machines in a session -/

/-- A machine as it may stand in the middle of a session: seated in one, or gone on from such a
machine, or inside a new local frame of such a machine. -/
inductive Machine.InSession (library : Library) : Machine → Prop where
  | seated (session : Session) {start machine : Machine} (fresh : start.Fresh)
      (reached : Reaches library start machine) : InSession library (session.seat machine)
  | evolved {before after : Machine} {outcome : Outcome Unit} (standing : InSession library before)
      (evolves : Evolves library before outcome after) : InSession library after
  | entered {machine : Machine} (standing : InSession library machine) (bindings : Table)
      (base : Option Chain)
      (captured : ∀ chain, base = some chain → ∃ index parameters body,
        machine.memory.closure? index = some (.block parameters body chain)) :
      InSession library (machine.enter .locals bindings base).2

/-- A local chain to write through: it has a frame, and all of its frames are there. -/
structure Machine.Grounded (machine : Machine) : Prop where
  nonempty : machine.evaluator.locals ≠ []
  bounds : ∀ number ∈ machine.evaluator.locals, number < machine.frames.size

/-- Frames of a chain that follows a scope tree are there. -/
theorem Chain.Follows.lt_of_mem {scope : Nat → Space × Chain} {bound : Nat} {space : Space}
    {chain : Chain} (hfollows : Chain.Follows scope bound space chain) {number : Nat}
    (hmem : number ∈ chain) : number < bound := by
  induction chain with
  | nil => cases hmem
  | cons first outer ih =>
    obtain ⟨hfirst, -, houter⟩ := hfollows
    rcases List.mem_cons.mp hmem with rfl | hrest
    · exact hfirst
    · exact ih houter hrest

namespace Machine.InSession

variable {library : Library} {machine : Machine}

/-- In a session all chains around follow one scope tree. -/
theorem lexical (hsession : machine.InSession library) : ∃ scope, machine.Lexical scope := by
  induction hsession with
  | @seated session start machine fresh reached =>
    exact (reached.inherits.trans (session.inherits_seat machine)).lexical_of_fresh fresh
  | evolved standing evolves ih =>
    obtain ⟨scope, hscope⟩ := ih
    obtain ⟨extended, -, hextended⟩ := evolves.inherits.lexical scope hscope
    exact ⟨extended, hextended⟩
  | @entered machine standing bindings base captured ih =>
    obtain ⟨scope, hscope⟩ := ih
    have hbase : ∀ chain, base = some chain → machine.Holds .locals chain := by
      intro chain hchain
      obtain ⟨index, parameters, body, hclosure⟩ := captured chain hchain
      exact .captured hclosure
    obtain ⟨extended, -, hextended⟩ :=
      (Machine.Inherits.enter _ .locals bindings hbase).lexical scope hscope
    exact ⟨extended, hextended⟩

theorem locals_ne_nil (hsession : machine.InSession library) : machine.evaluator.locals ≠ [] := by
  induction hsession with
  | @seated session start machine fresh reached =>
    obtain ⟨_, _, hlocals, -⟩ := session.chains_seat machine
    rw [hlocals]
    exact List.cons_ne_nil _ _
  | evolved standing evolves ih =>
    have hchain : _ = _ := evolves.continues.chains .locals
    change Evaluator.chain _ .locals ≠ []
    rw [hchain]
    exact ih
  | entered standing bindings base captured ih =>
    rw [Machine.evaluator_enter]
    exact List.cons_ne_nil _ _

/-- In a session there is a local chain to write through. -/
theorem grounded (hsession : machine.InSession library) : machine.Grounded := by
  obtain ⟨scope, hscope⟩ := hsession.lexical
  exact ⟨hsession.locals_ne_nil, fun number hnumber ↦
    (hscope .locals _ (.active .locals)).lt_of_mem hnumber⟩

/-- Evaluating stays in the session. -/
theorem evaluated {depth : Nat} {site : Site} {outcome : Outcome Value} {after : Machine}
    (hsession : machine.InSession library)
    (hafter : (Eval.engine library depth).evaluate site machine = (outcome, after)) :
    after.InSession library := by
  have hevolves := (Eval.evolving_engine library depth).evaluate site machine
  unfold Run.EvolvesAt at hevolves
  rw [hafter] at hevolves
  exact hsession.evolved hevolves

end Machine.InSession

/-! ### Values that cannot be taken apart -/

namespace Compute

variable {α β : Type}

/-- A computation that ends with a result hands it on. -/
theorem run_bind_of_ok {computation : Compute α} {memory changed : Memory} {result : α}
    (hresult : computation.run.run memory = (.ok result, changed)) (after : α → Compute β) :
    (computation >>= after).run.run memory = (after result).run.run changed := by
  change (ExceptT.bindCont after (computation.run.run memory).1).run
    (computation.run.run memory).2 = _
  rw [hresult]
  rfl

/-- A computation that fails with this cause or not at all. -/
def FailsOnly (cause : Cause) (computation : Compute α) : Prop :=
  ∀ memory failing, (computation.run.run memory).1 = .error failing → failing = cause

namespace FailsOnly

variable {cause : Cause}

theorem pure (result : α) : FailsOnly cause (Pure.pure result : Compute α) :=
  fun _ _ hfails ↦ nomatch hfails

theorem bind {computation : Compute α} {after : α → Compute β}
    (hfirst : FailsOnly cause computation) (hafter : ∀ result, FailsOnly cause (after result)) :
    FailsOnly cause (computation >>= after) := by
  intro memory failing hfails
  have hrun : (computation >>= after).run.run memory =
      (ExceptT.bindCont after (computation.run.run memory).1).run
        (computation.run.run memory).2 := rfl
  rw [hrun] at hfails
  rcases heq : computation.run.run memory with ⟨early | result, changed⟩
  · rw [heq] at hfails
    obtain rfl := Except.error.inj hfails
    exact hfirst memory early (congrArg Prod.fst heq)
  · rw [heq] at hfails
    exact hafter result changed failing hfails

theorem mapM {step : α → Compute β} (hstep : ∀ item, FailsOnly cause (step item))
    (items : List α) : FailsOnly cause (items.mapM step) := by
  induction items with
  | nil => exact pure []
  | cons item rest ih =>
    rw [List.mapM_cons]
    exact bind (hstep item) fun _ ↦ bind ih fun _ ↦ pure _

theorem newInt (i : Int) : FailsOnly cause (Compute.newInt i) := by
  unfold Compute.newInt
  split
  · exact pure _
  · exact bind (fun _ _ hfails ↦ nomatch hfails) fun _ ↦ pure _

/-- A value cannot be taken apart only when it is a progression of too many integers. -/
theorem toSequence (item : Value) : FailsOnly (.plain .overflow) item.toSequence := by
  have hsequence : FailsOnly (.plain .overflow) item.sequence? := by
    unfold Value.sequence?
    split
    · exact pure _
    · refine bind ?_ fun _ ↦ pure _
      unfold Value.progressionItems
      split
      · exact mapM newInt _
      · exact fun _ _ hfails ↦ (Except.error.inj hfails).symm
    · refine bind (fun _ _ hfails ↦ nomatch hfails) fun found ↦ ?_
      split <;> exact pure _
  refine bind hsequence fun items ↦ ?_
  split <;> exact pure _

end FailsOnly

end Compute

/-! ### Binding and assigning in step -/

/-- A table of bindings beside a machine on which the same names have been assigned since the start:
names in the table are read with the values there, all others as at the start. -/
structure Mirrors (start : Machine) (names : List String) (table : Table)
    (bound assigned : Machine) : Prop where
  memory : assigned.memory = bound.memory
  locals : assigned.evaluator.locals = start.evaluator.locals
  size : assigned.frames.size = start.frames.size
  binds : ∀ key, table.has key = true ↔ ∃ name ∈ names, key = [.text name]
  reads : ∀ key, assigned.frames.find? key start.evaluator.locals =
    (table.find? key).or (start.frames.find? key start.evaluator.locals)

/-- The failure to list more items than can be listed. -/
def Failure.tooMany : Failure := ⟨.plain .overflow, none⟩

/-- Every name but these is read as at the start. -/
def Machine.Spares (start : Machine) (names : List String) (assigned : Machine) : Prop :=
  ∀ key, (∀ name ∈ names, key ≠ [.text name]) →
    assigned.frames.find? key assigned.evaluator.locals =
      start.frames.find? key start.evaluator.locals

theorem Machine.Spares.mono {start assigned : Machine} {names more : List String}
    (hspares : start.Spares names assigned) (hmore : names ⊆ more) : start.Spares more assigned :=
  fun key hkey ↦ hspares key fun name hname ↦ hkey name (hmore hname)

/-- A run that binds a pattern and one that assigns it agree: either both have done it, or both had
to list more items than can be listed. -/
inductive Agree (start : Machine) (names : List String) :
    Outcome Table × Machine → Outcome Unit × Machine → Prop where
  | done {table : Table} {bound assigned : Machine}
      (mirrors : Mirrors start names table bound assigned) :
      Agree start names (.value table, bound) (.value (), assigned)
  | failed (bound : Machine) {assigned : Machine} (spares : start.Spares names assigned) :
      Agree start names (.failed .tooMany, bound) (.failed .tooMany, assigned)

namespace Mirrors

variable {start bound assigned : Machine} {names : List String} {table : Table}

/-- Nothing is bound and nothing is assigned at first. -/
theorem first (hmemory : bound.memory = start.memory) : Mirrors start [] [] bound start where
  memory := hmemory.symm
  locals := rfl
  size := rfl
  binds key := by simp [Table.has, Table.find?]
  reads key := rfl

/-- Both sides may go on with the same memory. -/
theorem withMemory (hmirrors : Mirrors start names table bound assigned) (memory : Memory) :
    Mirrors start names table { bound with memory := memory }
      { assigned with memory := memory } :=
  { hmirrors with memory := rfl }

/-- One name is bound in the table and assigned through the chain. -/
theorem insert (hmirrors : Mirrors start names table bound assigned) (hground : start.Grounded)
    (name : String) (own other : Value) (text : String) (item : Value) :
    Agree start (names ++ [name]) (.value (table.insert [.text name] own item), bound)
      (Run.write .locals ⟨[.text name], other, text⟩ item assigned) := by
  have hchain : assigned.evaluator.chain .locals = start.evaluator.locals := hmirrors.locals
  unfold Run.write
  rw [hchain]
  rcases htarget : assigned.frames.target? [.text name] start.evaluator.locals with _ | number
  · exact absurd htarget (Frames.target?_ne_none _ _ hground.nonempty)
  · refine .done ⟨hmirrors.memory, hmirrors.locals, ?_, fun key ↦ ?_, fun key ↦ ?_⟩
    · exact Array.size_setIfInBounds.trans hmirrors.size
    · have hbinds := hmirrors.binds key
      unfold Table.has at hbinds ⊢
      rw [Table.find?_insert]
      split
      · next hkey =>
        exact ⟨fun _ ↦ ⟨name, List.mem_append_right _ List.mem_cons_self, hkey.symm⟩, fun _ ↦ rfl⟩
      · next hkey =>
        refine hbinds.trans ⟨?_, ?_⟩
        · rintro ⟨own, hown, heq⟩
          exact ⟨own, List.mem_append_left _ hown, heq⟩
        · rintro ⟨own, hown, heq⟩
          rcases List.mem_append.mp hown with hold | hnew
          · exact ⟨own, hold, heq⟩
          · obtain rfl := List.mem_singleton.mp hnew
            exact absurd heq.symm hkey
    · have hbounds : ∀ frame ∈ start.evaluator.locals, frame < assigned.frames.size := by
        rw [hmirrors.size]
        exact hground.bounds
      rw [Table.find?_insert]
      refine (Frames.find?_bind_target hbounds htarget key).trans ?_
      split
      · rfl
      · exact hmirrors.reads key

/-- What is read on the machine is what the table has, or else what was read at the start. -/
theorem find?_assigned (hmirrors : Mirrors start names table bound assigned) (key : Key) :
    assigned.frames.find? key assigned.evaluator.locals =
      (table.find? key).or (start.frames.find? key start.evaluator.locals) := by
  rw [hmirrors.locals]
  exact hmirrors.reads key

/-- A name of the pattern has a value in the table, and is read with that value. -/
theorem find?_of_mem (hmirrors : Mirrors start names table bound assigned) {name : String}
    (hname : name ∈ names) : ∃ item, table.find? [.text name] = some item ∧
      assigned.frames.find? [.text name] assigned.evaluator.locals = some item := by
  have hhas : table.has [.text name] = true := (hmirrors.binds _).mpr ⟨name, hname, rfl⟩
  obtain ⟨item, hitem⟩ := Option.isSome_iff_exists.mp hhas
  refine ⟨item, hitem, ?_⟩
  rw [hmirrors.find?_assigned, hitem, Option.some_or]

/-- Any other name is read as at the start. -/
theorem spares (hmirrors : Mirrors start names table bound assigned) :
    start.Spares names assigned := by
  intro key hkey
  have hnone : table.find? key = none := by
    refine Option.not_isSome_iff_eq_none.mp fun hhas ↦ ?_
    obtain ⟨name, hname, heq⟩ := (hmirrors.binds key).mp hhas
    exact hkey name hname heq
  rw [hmirrors.find?_assigned, hnone, Option.none_or]

end Mirrors

namespace Agree

variable {start bound assigned : Machine} {names more : List String} {table : Table}

/-- Agreement goes on from where both sides have done what they had to. -/
theorem bind {binding : Run Table} {assigning : Run Unit} {after : Table → Run Table}
    {other : Unit → Run Unit} (hfirst : Agree start names (binding bound) (assigning assigned))
    (hmore : names ⊆ more) (hafter : ∀ table changed altered, Mirrors start names table changed altered →
      Agree start more (after table changed) (other () altered)) :
    Agree start more ((binding >>= after) bound) ((assigning >>= other) assigned) := by
  rw [Run.bind_apply, Run.bind_apply]
  generalize binding bound = first at hfirst ⊢
  generalize assigning assigned = second at hfirst ⊢
  cases hfirst with
  | done mirrors => exact hafter _ _ _ mirrors
  | failed bound spares => exact .failed bound (spares.mono hmore)

/-- A computation on the memory has the same end on both sides. -/
theorem compute {α : Type} {computation : Compute α} {after : α → Run Table} {other : α → Run Unit}
    (hfails : computation.FailsOnly (.plain .overflow))
    (hmirrors : Mirrors start names table bound assigned) (hmore : names ⊆ more)
    (hafter : ∀ result changed altered, Mirrors start names table changed altered →
      Agree start more (after result changed) (other result altered)) :
    Agree start more ((Run.compute computation >>= after) bound)
      ((Run.compute computation >>= other) assigned) := by
  rw [Run.bind_apply, Run.bind_apply, Run.compute_apply, Run.compute_apply, hmirrors.memory]
  rcases heq : computation.run.run bound.memory with ⟨cause | result, memory⟩
  · obtain rfl := hfails bound.memory cause (congrArg Prod.fst heq)
    exact .failed _ ((hmirrors.withMemory memory).spares.mono hmore)
  · exact hafter result _ _ (hmirrors.withMemory memory)

end Agree

namespace Parameter

section

variable (mark : Mark) (place : Nat) (parameter : Parameter) (others : List Tree)
  (values : List Value)

theorem bindParameters_cons (table : Table) :
    Run.bindParameters mark place (parameter.asParameter :: others) values table =
      (if parameter.takesAll then do
        let list ← Run.newList values
        let bound ← Run.bindParameter (mark.child place) parameter.asParameter list table
        Run.bindParameters mark (place + 1) others [] bound
      else do
        let bound ←
          Run.bindParameter (mark.child place) parameter.asParameter (values.headD .nil) table
        Run.bindParameters mark (place + 1) others values.tail bound) := by
  match parameter with
  | single _ | rest none | rest (some _) | nested _ =>
    rw [asParameter, Run.bindParameters]
    rfl

theorem assignAll_cons :
    Run.assignAll mark place (parameter.asTarget :: others) values =
      (if parameter.takesAll then do
        let list ← Run.newList values
        Run.assign (mark.child place) parameter.asTarget list
        Run.assignAll mark (place + 1) others []
      else do
        Run.assign (mark.child place) parameter.asTarget (values.headD .nil)
        Run.assignAll mark (place + 1) others values.tail) := by
  match parameter with
  | single _ | rest none | rest (some _) | nested _ =>
    rw [asTarget, Run.assignAll]
    rfl

end

mutual

/-- Binding a pattern and assigning it agree: the induction is on the pattern, and wherever one side
takes a value apart or makes a list of what is left, so does the other. -/
theorem agree_all {start : Machine} (hground : start.Grounded) (parameters : List Parameter)
    {names : List String} {table : Table} {bound assigned : Machine}
    (hmirrors : Mirrors start names table bound assigned)
    (mark other : Mark) (place position : Nat) (values : List Value) :
    Agree start (names ++ allNames parameters)
      (Run.bindParameters mark place (asParameters parameters) values table bound)
      (Run.assignAll other position (asTargets parameters) values assigned) := by
  match parameters with
  | [] =>
    rw [allNames, List.append_nil]
    exact .done hmirrors
  | parameter :: others =>
    rw [allNames, ← List.append_assoc, asParameters, asTargets, bindParameters_cons, assignAll_cons]
    have hparts : names ++ parameter.names ⊆ names ++ parameter.names ++ allNames others :=
      List.subset_append_left _ _
    have hwhole := List.Subset.trans (List.subset_append_left names parameter.names) hparts
    split
    · refine Agree.compute nofun hmirrors hwhole fun list changed altered hmirrors ↦ ?_
      refine Agree.bind (agree_one hground parameter hmirrors _ _ list) hparts
        fun _ _ _ hmirrors ↦ ?_
      exact agree_all hground others hmirrors mark other _ _ []
    · refine Agree.bind (agree_one hground parameter hmirrors _ _ _) hparts
        fun _ _ _ hmirrors ↦ ?_
      exact agree_all hground others hmirrors mark other _ _ _

theorem agree_one {start : Machine} (hground : start.Grounded) (parameter : Parameter)
    {names : List String} {table : Table} {bound assigned : Machine}
    (hmirrors : Mirrors start names table bound assigned)
    (mark other : Mark) (item : Value) :
    Agree start (names ++ parameter.names)
      (Run.bindParameter mark parameter.asParameter item table bound)
      (Run.assign other parameter.asTarget item assigned) := by
  match parameter with
  | single name =>
    rw [Parameter.names, asParameter, asTarget, Run.bindParameter, Run.assign]
    exact hmirrors.insert hground name _ _ _ item
  | rest none =>
    rw [Parameter.names, asParameter, asTarget, Run.bindParameter, Option.toList_none,
      List.append_nil]
    exact .done hmirrors
  | rest (some name) =>
    rw [Parameter.names, asParameter, asTarget, Run.bindParameter]
    exact hmirrors.insert hground name _ _ _ item
  | nested inner =>
    rw [Parameter.names, asParameter, asTarget, Run.bindParameter, Run.assign.eq_def]
    have hwhole : names ⊆ names ++ allNames inner := List.subset_append_left _ _
    exact Agree.compute (.toSequence item) hmirrors hwhole fun items changed altered hmirrors ↦
      agree_all hground inner hmirrors mark other 0 0 items

end

end Parameter

/-! ### Nodes and calls -/

/-- A run that ends with a value hands it on. -/
theorem Run.bind_of_value {α β : Type} {run : Run α} {machine changed : Machine} {result : α}
    (hresult : run machine = (.value result, changed)) (after : α → Run β) :
    (run >>= after) machine = after result changed := by
  rw [bind_apply, hresult]

/-- A run that fails goes no further. -/
theorem Run.bind_of_failed {α β : Type} {run : Run α} {machine changed : Machine} {failure : Failure}
    (hfailed : run machine = (.failed failure, changed)) (after : α → Run β) :
    (run >>= after) machine = (.failed failure, changed) := by
  rw [bind_apply, hfailed]

namespace Eval

/-- The machine on which a node begins to be evaluated: the node was visited and is the one
evaluated last. -/
def begun (tree : Tree) (machine : Machine) : Machine :=
  { machine.noted (.visit tree machine.evaluator) with
    evaluator := { machine.evaluator with current := some tree } }

theorem inSession_begun {library : Library} {machine : Machine}
    (hsession : machine.InSession library) (tree : Tree) : (begun tree machine).InSession library :=
  (hsession.evolved (.visited tree machine)).evolved (.moved tree _)

/-- A list is taken apart into its items, and nothing changes. -/
theorem compute_toSequence_of_list {machine : Machine} {item : Value} {values : List Value}
    (hitem : machine.memory.cell? item = some (.list values)) :
    Run.compute item.toSequence machine = (.value values, machine) := by
  cases item with
  | cell address =>
    have hcell : (Compute.cell? (.cell address)).run.run machine.memory =
        (.ok (some (.list values)), machine.memory) := by
      rw [← hitem]
      rfl
    have hsequence : (Value.cell address).sequence?.run.run machine.memory =
        (.ok (some values), machine.memory) := by
      unfold Value.sequence?
      exact Compute.run_bind_of_ok hcell _
    have hitems : (Value.cell address).toSequence.run.run machine.memory =
        (.ok values, machine.memory) := by
      unfold Value.toSequence
      exact Compute.run_bind_of_ok hsequence _
    rw [Run.compute_apply, hitems]
  | _ => cases hitem

/-- A destructuring assignment whose source gives a list assigns the items of the list. -/
theorem evaluate_destructure {library : Library} {depth : Nat} {tag : String} {targets : List Tree}
    {source : Tree} {mark : Mark} {machine ready : Machine} {item : Value} {values : List Value}
    (hsource : (engine library depth).evaluate ⟨source, mark.child 1⟩
      (begun (.node "masgn" [.node tag targets, source]) machine) = (.value item, ready))
    (hitem : ready.memory.cell? item = some (.list values)) :
    (engine library (depth + 1)).evaluate ⟨.node "masgn" [.node tag targets, source], mark⟩
        machine =
      (Run.assignAll (mark.child 0) 0 targets values >>= fun _ ↦ Run.value item) ready := by
  have hstep : (engine library (depth + 1)).evaluate
      ⟨.node "masgn" [.node tag targets, source], mark⟩ machine =
        ((engine library depth).evaluate ⟨source, mark.child 1⟩ >>= fun item ↦
          Run.destructure ⟨.node tag targets, mark.child 0⟩ item >>= fun _ ↦ Run.value item)
          (begun (.node "masgn" [.node tag targets, source]) machine) := rfl
  have hdestructure : Run.destructure ⟨.node tag targets, mark.child 0⟩ item ready =
      Run.assignAll (mark.child 0) 0 targets values ready := by
    change (Run.compute item.toSequence >>= Run.assignAll (mark.child 0) 0 targets) ready = _
    rw [Run.bind_apply, compute_toSequence_of_list hitem]
  rw [hstep, Run.bind_apply, hsource]
  dsimp only
  rw [Run.bind_apply, Run.bind_apply, hdestructure]

/-- Calling a block binds its parameters and evaluates its body in a frame of these bindings. -/
theorem call_block {library : Library} {depth : Nat} {index : Nat} {parameters body : Site}
    {chain : Chain} {machine : Machine} (values : List Value)
    (hblock : machine.memory.closure? index = some (.block parameters body chain)) :
    (engine library (depth + 1)).call (.closure index) values none machine =
      callBlock (engine library depth) parameters body chain values machine := by
  change callValue library (engine library depth) (.closure index) values none machine = _
  unfold callValue
  dsimp only
  rw [Run.look_bind_apply, hblock]
  rfl

/-- Reading a local variable gives this value, wherever the read stands. -/
def Reads (library : Library) (machine : Machine) (name : String) (item : Value) : Prop :=
  ∀ depth mark, ((engine library (depth + 1)).evaluate
    ⟨.node "lvar" [.leaf (.text name)], mark⟩ machine).1 = .value item

/-- A local variable is read through the chain that stands. -/
theorem evaluate_variable (library : Library) {name : String} {machine : Machine} {item : Value}
    (hfound : machine.frames.find? [.text name] machine.evaluator.locals = some item) (depth : Nat)
    (mark : Mark) :
    (engine library (depth + 1)).evaluate ⟨.node "lvar" [.leaf (.text name)], mark⟩ machine =
      (.value item, begun (.node "lvar" [.leaf (.text name)]) machine) := by
  let begun := begun (.node "lvar" [.leaf (.text name)]) machine
  let child : Site := ⟨.leaf (.text name), mark.child 0⟩
  have hchild : childAt [child] 0 begun = (.value child, begun) := rfl
  have hread : Run.read? .locals child.toName begun = (.value (some item), begun) :=
    congrArg (fun found ↦ (Outcome.value found, begun)) hfound
  have hstep : (engine library (depth + 1)).evaluate
      ⟨.node "lvar" [.leaf (.text name)], mark⟩ machine =
        readLocal (.node "lvar" [.leaf (.text name)]) [child] begun := rfl
  rw [hstep, readLocal, Run.bind_of_value hchild, Run.bind_of_value hread]
  rfl

theorem reads_of_find? (library : Library) {name : String} {machine : Machine} {item : Value}
    (hfound : machine.frames.find? [.text name] machine.evaluator.locals = some item) :
    Reads library machine name item :=
  fun depth mark ↦ congrArg Prod.fst (evaluate_variable library hfound depth mark)

/-- The body of a block is evaluated where its bindings are those of a new innermost frame. -/
theorem callBlock_of_bound {engine : Engine} {parameters body : Site} {chain : Chain}
    {values : List Value} {machine bound : Machine} {table : Table}
    (hbound : bindArguments parameters values machine = (.value table, bound)) :
    ∃ inside, (callBlock engine parameters body chain values machine).1 =
        (engine.evaluate body inside).1 ∧
      inside.evaluator.locals = machine.frames.size :: chain ∧
      inside.frames.frame machine.frames.size = table ∧ inside.memory = bound.memory := by
  obtain ⟨heap, marks, hchanged, -⟩ := Eval.heapwise_bindArguments parameters values machine
  have hframes : bound.frames = machine.frames := by
    rw [hbound] at hchanged
    dsimp only at hchanged
    rw [hchanged]
  refine ⟨(bound.enter .locals table (some chain)).2, ?_, ?_, ?_, Machine.memory_enter _ _ _ _⟩
  · rw [callBlock, Run.bind_of_value hbound, Run.inFrame_apply]
  · rw [Machine.evaluator_enter, Machine.innerChain, hframes]
    rfl
  · rw [Machine.frames_enter, hframes, Frames.frame_push_self]

end Eval

end Treewalk
