import Mathlib.Logic.Function.Basic
import Treewalk.Proofs.Journal

/-!
The scope tree. A frame gets its namespace and its enclosing frames when it is entered and keeps
them for good: wherever it turns up later, in an active chain, in a chain left standing or in one
that a block captured, the same frames lie outside of it. The invariant is that all chains around
follow one function from a frame to its namespace and what encloses it (`Machine.Lexical`); entering
a frame extends the function at the new number, and nothing ever changes it elsewhere
(`Machine.Inherits`). A chain that follows such a function cannot hold a frame twice, since the
frame would enclose itself.
-/

set_option autoImplicit false
set_option relaxedAutoImplicit false

namespace Treewalk

/-! ### Chains that follow a scope tree -/

/-- A chain of a namespace in which every frame is one of those below a bound, and the scope tree
has it in this namespace with what lies outside of it. -/
def Chain.Follows (scope : Nat → Space × Chain) (bound : Nat) (space : Space) : Chain → Prop
  | [] => True
  | number :: rest =>
    number < bound ∧ scope number = (space, rest) ∧ Follows scope bound space rest

namespace Chain.Follows

variable {scope extended : Nat → Space × Chain} {bound wider : Nat} {space : Space}

/-- A chain goes on following a scope tree that is only extended. -/
theorem mono (hagree : ∀ number < bound, extended number = scope number) (hwider : bound ≤ wider)
    {chain : Chain} (hfollows : Follows scope bound space chain) :
    Follows extended wider space chain := by
  induction chain with
  | nil => trivial
  | cons number rest ih =>
    obtain ⟨hbound, hscope, hrest⟩ := hfollows
    exact ⟨Nat.lt_of_lt_of_le hbound hwider, (hagree number hbound).trans hscope, ih hrest⟩

/-- The scope tree has what lies outside of a frame. -/
theorem scope_eq {inner outer : Chain} {number : Nat}
    (hfollows : Follows scope bound space (inner ++ number :: outer)) :
    scope number = (space, outer) := by
  induction inner with
  | nil => exact hfollows.2.1
  | cons first rest ih => exact ih hfollows.2.2

/-- The frames of the chain are below the bound. -/
theorem lt_bound {chain : Chain} (hfollows : Follows scope bound space chain) {number : Nat}
    (hnumber : number ∈ chain) : number < bound := by
  induction chain with
  | nil => cases hnumber
  | cons first rest ih =>
    obtain ⟨hfirst, -, hrest⟩ := hfollows
    rcases List.mem_cons.mp hnumber with rfl | hinner
    · exact hfirst
    · exact ih hrest hinner

/-- A scope tree may be extended at its bound. -/
theorem update {chain : Chain} (hfollows : Follows scope bound space chain)
    (added : Space × Chain) :
    Follows (Function.update scope bound added) (bound + 1) space chain :=
  hfollows.mono (fun _ hnumber ↦ Function.update_of_ne (Nat.ne_of_lt hnumber) _ _)
    (Nat.le_succ bound)

/-- The frame at the bound may be put on a chain, which then encloses it. -/
theorem cons {outer : Chain} (houter : Follows scope bound space outer) :
    Follows (Function.update scope bound (space, outer)) (bound + 1) space (bound :: outer) :=
  ⟨Nat.lt_succ_self bound, Function.update_self _ _ _, houter.update _⟩

/-- No frame is there twice: else it would enclose itself. -/
theorem nodup {chain : Chain} (hfollows : Follows scope bound space chain) : chain.Nodup := by
  induction chain with
  | nil => exact List.nodup_nil
  | cons number rest ih =>
    obtain ⟨-, hscope, hrest⟩ := hfollows
    refine List.nodup_cons.mpr ⟨fun hmem ↦ ?_, ih hrest⟩
    obtain ⟨inner, outer, rfl⟩ := List.append_of_mem hmem
    have hself : inner ++ number :: outer = outer :=
      congrArg Prod.snd (hscope.symm.trans hrest.scope_eq)
    have hlength := congrArg List.length hself
    rw [List.length_append, List.length_cons] at hlength
    omega

end Chain.Follows

/-! ### The chains around -/

/-- The chains that an event shows, with their namespaces. -/
def Event.chains : Event → List (Space × Chain)
  | .visit _ evaluator => [(.locals, evaluator.locals), (.globals, evaluator.globals)]
  | .enter space outside inside => [(space, outside), (space, inside)]
  | _ => []

/-- A chain of a namespace that is around: an active one, one that a block captured, or one of those
that the journal shows. Since every step shows the chains it is made on, and every entering the
chain that it leaves standing, none that was ever active or standing is missing. -/
inductive Machine.Holds (machine : Machine) : Space → Chain → Prop where
  | active (space : Space) : machine.Holds space (machine.evaluator.chain space)
  | captured {index : Nat} {parameters body : Site} {chain : Chain}
      (hclosure : machine.memory.closure? index = some (.block parameters body chain)) :
      machine.Holds .locals chain
  | seen {event : Event} {space : Space} {chain : Chain} (hevent : event ∈ machine.events)
      (hshown : (space, chain) ∈ event.chains) : machine.Holds space chain

/-- Entering a frame brings up one new chain. -/
theorem Machine.holds_enter {machine : Machine} {space other : Space} {bindings : Table}
    {base : Option Chain} {chain : Chain}
    (hholds : (machine.enter space bindings base).2.Holds other chain) :
    machine.Holds other chain ∨ other = space ∧ chain = machine.innerChain space base := by
  cases hholds with
  | active _ =>
    rw [evaluator_enter]
    by_cases hother : other = space
    · subst hother
      exact Or.inr ⟨rfl, Evaluator.chain_withChain_self _ _ _⟩
    · rw [Evaluator.chain_withChain_of_ne _ _ hother]
      exact Or.inl (.active other)
  | captured hclosure =>
    rw [memory_enter] at hclosure
    exact Or.inl (.captured hclosure)
  | seen hevent hshown =>
    rw [events_enter] at hevent
    rcases List.mem_cons.mp hevent with rfl | hold
    · simp only [Event.chains, List.mem_cons, List.not_mem_nil, or_false, Prod.mk.injEq] at hshown
      rcases hshown with ⟨rfl, rfl⟩ | ⟨rfl, rfl⟩
      · exact Or.inl (.active other)
      · exact Or.inr ⟨rfl, rfl⟩
    · exact Or.inl (.seen hold hshown)

/-- All chains around follow a scope tree. -/
def Machine.Lexical (scope : Nat → Space × Chain) (machine : Machine) : Prop :=
  ∀ space chain, machine.Holds space chain →
    Chain.Follows scope machine.frames.size space chain

/-- A machine whose scope tree extends the one that another machine had. -/
structure Machine.Inherits (before after : Machine) : Prop where
  frames : before.frames.size ≤ after.frames.size
  lexical : ∀ scope, before.Lexical scope → ∃ extended,
    (∀ number < before.frames.size, extended number = scope number) ∧ after.Lexical extended

namespace Machine.Inherits

theorem trans {first middle last : Machine} (hfirst : first.Inherits middle)
    (hlast : middle.Inherits last) : first.Inherits last where
  frames := Nat.le_trans hfirst.frames hlast.frames
  lexical scope hscope := by
    obtain ⟨extended, hagree, hextended⟩ := hfirst.lexical scope hscope
    obtain ⟨further, hfurther, hlexical⟩ := hlast.lexical extended hextended
    refine ⟨further, fun number hnumber ↦ ?_, hlexical⟩
    exact (hfurther number (Nat.lt_of_lt_of_le hnumber hfirst.frames)).trans (hagree number hnumber)

/-- Where no new chain comes up, the scope tree stays. -/
theorem of_holds {before after : Machine} (hframes : before.frames.size ≤ after.frames.size)
    (hholds : ∀ space chain, after.Holds space chain → chain = [] ∨ before.Holds space chain) :
    before.Inherits after where
  frames := hframes
  lexical scope hscope := by
    refine ⟨scope, fun _ _ ↦ rfl, fun space chain hchain ↦ ?_⟩
    rcases hholds space chain hchain with rfl | hbefore
    · trivial
    · exact (hscope space chain hbefore).mono (fun _ _ ↦ rfl) hframes

theorem refl (machine : Machine) : machine.Inherits machine :=
  of_holds (Nat.le_refl _) fun _ _ hchain ↦ Or.inr hchain

/-- Chains come up only in the evaluator, the closures and the journal. -/
theorem of_parts {before after : Machine} (hframes : before.frames.size ≤ after.frames.size)
    (hchains : ∀ space, after.evaluator.chain space = [] ∨
      after.evaluator.chain space = before.evaluator.chain space)
    (hclosures : after.memory.closures = before.memory.closures)
    (hevents : after.events = before.events) : before.Inherits after := by
  refine of_holds hframes fun space chain hchain ↦ ?_
  cases hchain with
  | active _ =>
    refine (hchains space).imp_right fun hchain ↦ ?_
    rw [hchain]
    exact .active space
  | captured hclosure =>
    unfold Memory.closure? at hclosure
    rw [hclosures] at hclosure
    exact Or.inr (.captured hclosure)
  | seen hevent hshown =>
    rw [hevents] at hevent
    exact Or.inr (.seen hevent hshown)

/-- A new block captures a chain that is around. -/
theorem closed {closure : Closure} {machine : Machine}
    (hcaptured : ∀ parameters body chain, closure = .block parameters body chain →
      chain = machine.evaluator.locals) :
    machine.Inherits { machine with memory := (machine.memory.close closure).2 } := by
  refine of_holds (Nat.le_refl _) fun space chain hchain ↦ Or.inr ?_
  cases hchain with
  | active _ => exact .active _
  | @captured index parameters body _ hclosure =>
    simp only [Memory.closure?, Memory.close, Array.getElem?_push] at hclosure
    split at hclosure
    · obtain rfl := hcaptured parameters body chain (Option.some.inj hclosure)
      exact .active .locals
    · exact .captured hclosure
  | seen hevent hshown => exact .seen hevent hshown

/-- An event that shows only chains that are around brings up no new one. -/
theorem noted {event : Event} {machine : Machine}
    (hevent : ∀ space chain, (space, chain) ∈ event.chains → machine.Holds space chain) :
    machine.Inherits (machine.noted event) := by
  refine of_holds (Nat.le_refl _) fun space chain hchain ↦ Or.inr ?_
  cases hchain with
  | active _ => exact .active _
  | captured hclosure => exact .captured hclosure
  | seen hmem hshown =>
    rcases List.mem_cons.mp hmem with rfl | hold
    · exact hevent space chain hshown
    · exact .seen hold hshown

/-- A frame that is entered over a chain that is around gets that chain as what encloses it. -/
theorem enter (machine : Machine) (space : Space) (bindings : Table) {base : Option Chain}
    (hbase : ∀ chain, base = some chain → machine.Holds space chain) :
    machine.Inherits (machine.enter space bindings base).2 := by
  have houter : machine.Holds space (base.getD (machine.evaluator.chain space)) := by
    cases base with
    | none => exact .active space
    | some chain => exact hbase chain rfl
  have hsize : (machine.enter space bindings base).2.frames.size = machine.frames.size + 1 := by
    rw [frames_enter, Array.size_push]
  refine ⟨by omega, fun scope hscope ↦ ?_⟩
  refine ⟨Function.update scope machine.frames.size
      (space, base.getD (machine.evaluator.chain space)),
    fun number hnumber ↦ Function.update_of_ne (Nat.ne_of_lt hnumber) _ _,
    fun other chain hchain ↦ ?_⟩
  rw [hsize]
  rcases holds_enter hchain with hbefore | ⟨rfl, rfl⟩
  · exact (hscope other chain hbefore).update _
  · exact (hscope _ _ houter).cons

/-- Leaving a frame goes back to a chain that the journal shows. -/
theorem leave {machine after : Machine} {space : Space} {bindings : Table} {base : Option Chain}
    (hinside : (machine.enter space bindings base).2.Continues after) :
    after.Inherits (after.leave space (machine.enter space bindings base).1) := by
  refine of_holds (Nat.le_refl _) fun other chain hchain ↦ Or.inr ?_
  cases hchain with
  | active _ =>
    by_cases hother : other = space
    · subst hother
      rw [hinside.leave.chains other]
      have hentered := hinside.events
      rw [events_enter] at hentered
      exact .seen (hentered.subset List.mem_cons_self) List.mem_cons_self
    · unfold Machine.leave
      rw [Evaluator.chain_withChain_of_ne _ _ hother]
      exact .active other
  | captured hclosure => exact .captured hclosure
  | seen hevent hshown => exact .seen hevent hshown

end Machine.Inherits

/-- Whatever runs, the scope tree is only extended. -/
theorem Evolves.inherits {library : Library} {before after : Machine} {outcome : Outcome Unit}
    (hevolves : Evolves library before outcome after) : before.Inherits after := by
  induction hevolves with
  | value machine => exact .refl machine
  | failed failure machine => exact .refl machine
  | exhausted machine => exact .refl machine
  | aborted message machine => exact .noted nofun
  | next _ _ ihfirst ihlast => exact ihfirst.trans ihlast
  | recovered _ _ ihfirst ihlast => exact ihfirst.trans ihlast
  | updated heap marks machine => exact .of_parts (Nat.le_refl _) (fun _ ↦ Or.inr rfl) rfl rfl
  | closed closure machine captured => exact .closed captured
  | visited tree machine =>
    refine .noted fun space chain hshown ↦ ?_
    simp only [Event.chains, List.mem_cons, List.not_mem_nil, or_false, Prod.mk.injEq] at hshown
    rcases hshown with ⟨rfl, rfl⟩ | ⟨rfl, rfl⟩
    · exact .active .locals
    · exact .active .globals
  | moved tree machine =>
    refine .of_parts (Nat.le_refl _) (fun space ↦ Or.inr ?_) rfl rfl
    cases space <;> rfl
  | recorded requests records machine =>
    exact .of_parts (Nat.le_refl _) (fun _ ↦ Or.inr rfl) rfl rfl
  | asked engine receiver member node answer answered asking ih => exact ih.trans (.noted nofun)
  | untraced receiver member machine => exact .noted nofun
  | reached receiver name effect machine =>
    have hnoted : machine.Inherits (machine.noted (.reach receiver name)) := .noted nofun
    refine hnoted.trans ?_
    cases effect with
    | bind | unbind =>
      exact .of_parts (Nat.le_of_eq Array.size_setIfInBounds.symm) (fun _ ↦ Or.inr rfl) rfl rfl
    | seat context =>
      refine .of_parts (Nat.le_refl _) (fun space ↦ Or.inr ?_) rfl rfl
      cases space <;> rfl
    | nothing => exact .refl _
    | handle tag handler => exact .of_parts (Nat.le_refl _) (fun _ ↦ Or.inr rfl) rfl rfl
  | invoked receiver member arguments block machine granted => exact .noted nofun
  | lookedUp owner name machine granted => exact .noted nofun
  | written space name value number machine target =>
    have hbound :
        machine.Inherits { machine with frames := machine.frames.bind number name value } :=
      .of_parts (Nat.le_of_eq Array.size_setIfInBounds.symm) (fun _ ↦ Or.inr rfl) rfl rfl
    exact hbound.trans (.noted nofun)
  | frameless space name failure machine target => exact .noted nofun
  | framed bindings base captured inside ih =>
    refine (Machine.Inherits.enter _ _ _ fun chain hchain ↦ ?_).trans
      (ih.trans (.leave inside.continues))
    obtain ⟨index, parameters, body, hclosure⟩ := captured chain hchain
    exact .captured hclosure

/-! ### Sessions and calls -/

/-- A session seats an evaluator without frames in two new ones. -/
theorem Session.inherits_seat (session : Session) (machine : Machine) :
    machine.Inherits (session.seat machine) := by
  have hopened : machine.Inherits (session.opened machine) := by
    refine .of_parts (by simp) (fun space ↦ Or.inl ?_) (by simp) (by simp)
    rw [session.evaluator_opened]
    cases space <;> rfl
  refine (hopened.trans (.enter _ .globals session.globals ?_)).trans
    (.enter _ .locals session.locals ?_) <;> nofun

/-- After a session there is no chain left. -/
theorem Session.inherits_finish (machine : Machine) : machine.Inherits (finish machine) := by
  refine .of_parts (by simp) (fun space ↦ Or.inl ?_) (by simp) (by simp)
  rw [evaluator_finish]
  cases space <;> rfl

theorem Session.inherits_run (library : Library) (session : Session) (site : Site)
    (machine : Machine) : machine.Inherits (session.run library site machine).2 := by
  rcases session.run_cases library site machine with hsame | ⟨outcome, ended, hevolves, hended⟩
  · rw [hsame]
    exact .refl machine
  · rw [hended]
    exact (session.inherits_seat machine).trans (hevolves.inherits.trans (inherits_finish ended))

/-- Machines that come out of a machine by sessions, by calls of values, and by what the host does
on its own. -/
inductive Reaches (library : Library) (start : Machine) : Machine → Prop where
  | start : Reaches library start start
  | ran (session : Session) (site : Site) {machine : Machine} :
      Reaches library start machine →
        Reaches library start (session.run library site machine).2
  | called (depth : Nat) (callee : Value) (arguments : List Value) (block : Option Value)
      {machine : Machine} :
      Reaches library start machine →
        Reaches library start ((Eval.engine library depth).call callee arguments block machine).2
  | performed (depth : Nat) {α : Type} (action : Action α) {machine : Machine} :
      Reaches library start machine →
        Reaches library start (Run.perform (Eval.engine library depth) action machine).2

/-- However a machine is reached, the scope tree is only extended. -/
theorem Reaches.inherits {library : Library} {start machine : Machine}
    (hreaches : Reaches library start machine) : start.Inherits machine := by
  induction hreaches with
  | start => exact .refl start
  | ran session site _ ih => exact ih.trans (session.inherits_run library site _)
  | called depth callee arguments block _ ih =>
    exact ih.trans
      (Evolves.inherits ((Eval.evolving_engine library depth).call callee arguments block _))
  | performed depth action _ ih =>
    exact ih.trans
      (Evolves.inherits (Run.evolving_perform (Eval.evolving_engine library depth) action _))

/-- A machine on which nothing has happened yet; its heap may hold anything. -/
structure Machine.Fresh (machine : Machine) : Prop where
  evaluator : machine.evaluator = Evaluator.idle
  closures : machine.memory.closures = #[]
  events : machine.events = []
  handlers : machine.handlers = []

/-- On a fresh machine only the empty chain is around. -/
theorem Machine.Fresh.eq_nil_of_holds {machine : Machine} (hfresh : machine.Fresh) {space : Space}
    {chain : Chain} (hholds : machine.Holds space chain) : chain = [] := by
  cases hholds with
  | active _ =>
    rw [hfresh.evaluator]
    cases space <;> rfl
  | captured hclosure =>
    unfold Memory.closure? at hclosure
    rw [hfresh.closures] at hclosure
    cases hclosure
  | seen hevent hshown =>
    rw [hfresh.events] at hevent
    cases hevent

/-- All chains that came up since a fresh machine follow one scope tree. -/
theorem Machine.Inherits.lexical_of_fresh {start machine : Machine}
    (hinherits : start.Inherits machine) (hfresh : start.Fresh) :
    ∃ scope, machine.Lexical scope := by
  have hempty : start.Lexical fun _ ↦ (.locals, []) := by
    intro space chain hchain
    obtain rfl := hfresh.eq_nil_of_holds hchain
    trivial
  obtain ⟨scope, -, hscope⟩ := hinherits.lexical _ hempty
  exact ⟨scope, hscope⟩

/-- Every frame has one namespace and one list of enclosing frames for good: whenever it is in a
chain that is around and at any later time in another one, the same frames lie outside of it; and no
chain that is around holds a frame twice. -/
theorem lexical_scope_tree (library : Library) {start earlier later : Machine}
    (hfresh : start.Fresh) (hearlier : Reaches library start earlier)
    (hlater : Reaches library earlier later) :
    (∀ space chain, later.Holds space chain → chain.Nodup) ∧
    ∀ (number : Nat) (space other : Space) (inner outer inside outside : Chain),
      earlier.Holds space (inner ++ number :: outer) →
      later.Holds other (inside ++ number :: outside) → space = other ∧ outer = outside := by
  have hempty : start.Lexical fun _ ↦ (.locals, []) := by
    intro space chain hchain
    obtain rfl := hfresh.eq_nil_of_holds hchain
    trivial
  obtain ⟨scope, -, hscope⟩ := hearlier.inherits.lexical _ hempty
  obtain ⟨extended, hagree, hextended⟩ := hlater.inherits.lexical scope hscope
  refine ⟨fun space chain hchain ↦ (hextended space chain hchain).nodup, ?_⟩
  intro number space other inner outer inside outside hfirst hsecond
  have hfollows := (hscope space _ hfirst).mono hagree hlater.inherits.frames
  have hsame : (space, outer) = (other, outside) :=
    hfollows.scope_eq.symm.trans (hextended other _ hsecond).scope_eq
  exact Prod.mk.inj hsame

/-- In a session of one sequence, the frame of the sequence has the session's local frame outside of
it, wherever it turns up. -/
theorem sequence_frame_enclosed :
    let site : Site := ⟨.node "begin" [.leaf .null], .common⟩
    (Session.run {} {} site {}).2.Holds .locals [2, 1] ∧
      ∀ space inside outside, (Session.run {} {} site {}).2.Holds space (inside ++ 2 :: outside) →
        .locals = space ∧ [1] = outside := by
  intro site
  -- The depth stays a variable here, so that evaluation unfolds only as far as the tree is high.
  have hseen (depth : Nat) : ∃ event ∈ ((Eval.engine {} (depth + 2)).evaluate
      site (Session.seat {} {})).2.events, (.locals, [2, 1]) ∈ event.chains :=
    ⟨_, List.mem_cons_self, List.mem_cons_self⟩
  obtain ⟨event, hevent, hshown⟩ := hseen 9998
  have hdepth : 9998 + 2 = Session.depth := rfl
  have hidle : ({} : Machine).evaluator.running = false := rfl
  have hfresh : ({} : Machine).Fresh := ⟨rfl, rfl, rfl, rfl⟩
  have hreaches : Reaches {} {} (Session.run {} {} site {}).2 := .ran {} site .start
  rw [Session.run_of_idle {} {} site hidle] at hreaches ⊢
  rw [hdepth, ← Session.events_finish] at hevent
  generalize Session.finish _ = machine at hreaches hevent ⊢
  refine ⟨.seen hevent hshown, fun space inside outside houtside ↦ ?_⟩
  exact (lexical_scope_tree {} hfresh hreaches .start).2 2 .locals space [] [1] inside outside
    (.seen hevent hshown) houtside

end Treewalk
