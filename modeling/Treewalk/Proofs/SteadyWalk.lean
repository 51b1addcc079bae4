import Treewalk.Proofs.Abort
import Treewalk.Proofs.SteadyHost

/-!
Evaluation with steady host code. When the library and the policy are steady, no run of the evaluator
aborts, and all leave the policy and the objects as they are. That is a compositional property, so that
it is enough to see that the steps of evaluation have it (`Eval.footing_steady`); `Eval.steady_engine`
climbs to an engine of any depth. So neither does a session or a script of a runner abort, and after any
number of them every object is what it was (`Runner.keepsObjects_handle`).
-/

set_option autoImplicit false
set_option relaxedAutoImplicit false

namespace Treewalk

/-- A machine with the policy of another one, in whose memory the objects of the other one are what they
were. -/
structure Machine.Upholds (before after : Machine) : Prop where
  policy : after.evaluator.policy = before.evaluator.policy
  objects : before.memory.KeepsObjects after.memory

namespace Machine.Upholds

theorem refl (machine : Machine) : machine.Upholds machine := ⟨rfl, .refl _⟩

theorem trans {first middle last : Machine} (hfirst : first.Upholds middle)
    (hlast : middle.Upholds last) : first.Upholds last :=
  ⟨hlast.policy.trans hfirst.policy, hfirst.objects.trans hlast.objects⟩

theorem of_memory {before after : Machine}
    (hpolicy : after.evaluator.policy = before.evaluator.policy) (hmemory : after.memory = before.memory) :
    before.Upholds after :=
  ⟨hpolicy, hmemory ▸ .refl _⟩

theorem logged (severity : Log.Severity) (source : Log.Source) (message : String) (machine : Machine) :
    machine.Upholds (machine.logged severity source message) :=
  of_memory (by rw [Machine.evaluator_logged]) (Machine.memory_logged _ _ _ _)

theorem enter (machine : Machine) (space : Space) (bindings : Table) (base : Option Chain) :
    machine.Upholds (machine.enter space bindings base).2 :=
  of_memory (by rw [Machine.evaluator_enter, Evaluator.policy_withChain]) (Machine.memory_enter _ _ _ _)

theorem leave (machine : Machine) (space : Space) (entered : Entered) :
    machine.Upholds (machine.leave space entered) :=
  of_memory (Evaluator.policy_withChain _ _ _) rfl

end Machine.Upholds

/-- From this machine a run does not abort, and it leaves the policy and the objects as they are. -/
structure Run.SteadyAt {α : Type} (run : Run α) (machine : Machine) : Prop where
  finishes : (run machine).1.abort? = none
  upholds : machine.Upholds (run machine).2

/-- A run that is steady from every machine with a policy. -/
def Run.SteadyUnder {α : Type} (policy : Policy) (run : Run α) : Prop :=
  ∀ machine : Machine, machine.evaluator.policy = policy → run.SteadyAt machine

/-- An engine both of whose services are steady under a policy. -/
structure Engine.SteadyUnder (policy : Policy) (engine : Engine) : Prop where
  evaluate : ∀ site, (engine.evaluate site).SteadyUnder policy
  call : ∀ callee arguments block, (engine.call callee arguments block).SteadyUnder policy

namespace Run

variable {α β : Type} {policy : Policy}

/-! ### Putting runs together -/

theorem steady_value (result : α) : (value result).SteadyUnder policy :=
  fun machine _ ↦ ⟨rfl, .refl machine⟩

theorem steady_pure (result : α) : (pure result : Run α).SteadyUnder policy := steady_value result

theorem steady_fail (failure : Failure) : (fail failure : Run α).SteadyUnder policy :=
  fun machine _ ↦ ⟨rfl, .refl machine⟩

theorem steady_refuse (cause : Cause) : (refuse cause : Run α).SteadyUnder policy := steady_fail _

theorem steady_refuseAt (node : Tree) (cause : Cause) :
    (refuseAt node cause : Run α).SteadyUnder policy := steady_fail _

theorem steady_exhaust : (exhaust : Run α).SteadyUnder policy :=
  fun machine _ ↦ ⟨rfl, .refl machine⟩

theorem steady_look (view : Machine → α) : (look view).SteadyUnder policy :=
  fun machine _ ↦ ⟨rfl, .refl machine⟩

theorem steady_change {update : Machine → Machine}
    (hupdate : ∀ machine : Machine, machine.Upholds (update machine)) :
    (change update).SteadyUnder policy :=
  fun machine _ ↦ ⟨rfl, hupdate machine⟩

theorem steady_note (event : Event) : (note event).SteadyUnder policy :=
  steady_change fun _ ↦ .of_memory rfl rfl

theorem steady_log (severity : Log.Severity) (source : Log.Source) (message : String) :
    (log severity source message).SteadyUnder policy :=
  steady_change fun machine ↦ .logged severity source message machine

theorem SteadyUnder.policy_eq {run : Run α} (hrun : run.SteadyUnder policy) {machine changed : Machine}
    (hpolicy : machine.evaluator.policy = policy) {outcome : Outcome α}
    (heq : run machine = (outcome, changed)) : changed.evaluator.policy = policy := by
  have hupholds := (hrun machine hpolicy).upholds
  rw [heq] at hupholds
  exact hupholds.policy.trans hpolicy

/-- A run that goes on as another one from a machine that upholds what there was. -/
theorem steadyAt_of_eq {run next : Run α} {machine changed : Machine}
    (hupholds : machine.Upholds changed) (hnext : next.SteadyAt changed)
    (hrun : run machine = next changed) : run.SteadyAt machine :=
  ⟨hrun ▸ hnext.finishes, hrun ▸ hupholds.trans hnext.upholds⟩

/-- What is done after a value or after a failure is steady when both are. -/
theorem steadyAt_either {run : Run α} {after : α → Run β} {recover : Failure → Run β}
    {machine : Machine} (hrun : run.SteadyAt machine)
    (hafter : ∀ result changed, run machine = (.value result, changed) →
      (after result).SteadyAt changed)
    (hrecover : ∀ failure changed, run machine = (.failed failure, changed) →
      (recover failure).SteadyAt changed) : (either run after recover).SteadyAt machine := by
  obtain ⟨hfinishes, hupholds⟩ := hrun
  rcases heq : run machine with ⟨outcome, changed⟩
  rw [heq] at hfinishes hupholds
  cases outcome with
  | value result =>
    exact steadyAt_of_eq hupholds (hafter result changed heq) (by simp only [either, heq])
  | failed failure =>
    exact steadyAt_of_eq hupholds (hrecover failure changed heq) (by simp only [either, heq])
  | aborted message => cases hfinishes
  | exhausted =>
    exact steadyAt_of_eq hupholds (steady_exhaust changed rfl) (by simp only [either, heq, exhaust])

theorem steady_either {run : Run α} {after : α → Run β} {recover : Failure → Run β}
    (hrun : run.SteadyUnder policy) (hafter : ∀ result, (after result).SteadyUnder policy)
    (hrecover : ∀ failure, (recover failure).SteadyUnder policy) :
    (either run after recover).SteadyUnder policy :=
  fun machine hpolicy ↦ steadyAt_either (hrun machine hpolicy)
    (fun result changed heq ↦ hafter result changed (hrun.policy_eq hpolicy heq))
    fun failure changed heq ↦ hrecover failure changed (hrun.policy_eq hpolicy heq)

theorem steadyAt_bind {run : Run α} {after : α → Run β} {machine : Machine}
    (hrun : run.SteadyAt machine)
    (hafter : ∀ result changed, run machine = (.value result, changed) →
      (after result).SteadyAt changed) :
    (run >>= after).SteadyAt machine :=
  bind_eq_either run after ▸ steadyAt_either hrun hafter fun failure changed _ ↦
    steady_fail failure changed rfl

theorem steady_bind {run : Run α} {after : α → Run β} (hrun : run.SteadyUnder policy)
    (hafter : ∀ result, (after result).SteadyUnder policy) : (run >>= after).SteadyUnder policy :=
  bind_eq_either run after ▸ steady_either hrun hafter steady_fail

theorem steady_mapFailure (adjust : Failure → Failure) {run : Run α}
    (hrun : run.SteadyUnder policy) : (mapFailure adjust run).SteadyUnder policy :=
  mapFailure_eq_either adjust run ▸ steady_either hrun steady_value fun _ ↦ steady_fail _

/-- A computation that only adds to memory keeps the objects. -/
theorem steady_compute {computation : Compute α} (hadditive : computation.Additive) :
    (compute computation).SteadyUnder policy := by
  intro machine _
  have hkept := (Memory.Spares.of_extends (hadditive machine.memory)).keepsObjects
  have happly := compute_apply computation machine
  rcases heq : computation.run.run machine.memory with ⟨cause | result, changed⟩
  all_goals
    rw [heq] at hkept happly
    exact ⟨by rw [happly]; rfl, by rw [happly]; exact ⟨rfl, hkept⟩⟩

theorem steady_close (closure : Closure) : (close closure).SteadyUnder policy :=
  fun machine _ ↦ ⟨rfl, rfl, .refl machine.memory⟩

theorem steady_write (space : Space) (name : Name) (item : Value) :
    (write space name item).SteadyUnder policy := by
  intro machine _
  have hwritten : (write space name item machine).1.abort? = none ∧
      machine.Upholds (write space name item machine).2 := by
    unfold write
    split
    · exact ⟨rfl, .of_memory rfl rfl⟩
    · exact ⟨rfl, .of_memory rfl rfl⟩
  exact ⟨hwritten.1, hwritten.2⟩

theorem steady_inFrame (space : Space) (bindings : Table) (base : Option Chain) {run : Run α}
    (hrun : run.SteadyUnder policy) : (inFrame space bindings base run).SteadyUnder policy := by
  intro machine hpolicy
  have hentered := Machine.Upholds.enter machine space bindings base
  obtain ⟨hfinishes, hupholds⟩ := hrun _ (hentered.policy.trans hpolicy)
  constructor
  · rw [inFrame_apply]
    exact hfinishes
  · rw [inFrame_apply]
    exact (hentered.trans hupholds).trans (.leave _ _ _)

theorem scoped_steady (policy : Policy) :
    Scoped .everything fun {α} [Confinable α] (run : Run α) ↦ run.SteadyUnder policy where
  toCompositional := .of_all steady_value steady_fail steady_compute steady_either
  refuseAt _ := steady_refuseAt _ _
  read _ _ machine _ := ⟨rfl, .refl machine⟩
  write space name item _ := steady_write space name.toName item

/-! ### Host actions -/

section

variable {engine : Engine}

/-- What is reached for may be anything but memory and the policy. -/
theorem upholds_reach (receiver : Value) (name : String) (arguments : Option (List Value))
    (machine : Machine) : machine.Upholds (reach receiver name arguments machine).2 := by
  obtain ⟨effect, hreached⟩ := reach_snd receiver name arguments machine
  rw [hreached]
  exact ⟨by cases effect <;> rfl, by rw [Machine.memory_affected]; exact .refl _⟩

theorem steady_reach (receiver : Value) (name : String) (arguments : Option (List Value)) :
    (reach receiver name arguments).SteadyUnder policy := by
  intro machine hpolicy
  refine ⟨?_, upholds_reach receiver name arguments machine⟩
  unfold reach
  cases machine.answer receiver name arguments <;> rfl

theorem steady_parameterNames (hengine : engine.SteadyUnder policy) (index : Nat) :
    (parameterNames engine index).SteadyUnder policy :=
  Eval.holds_parameterNames (scoped_steady policy).toCompositional hengine.evaluate
    (fun _ _ hafter ↦ steady_bind (steady_look _) hafter) index

/-- Steady host code is performed steadily: the induction is on the tree of its requests. -/
theorem steadyAt_perform (hengine : engine.SteadyUnder policy) {action : Action α} {machine : Machine}
    (hpolicy : machine.evaluator.policy = policy) (haction : action.SteadyOn machine.memory) :
    (perform engine action).SteadyAt machine := by
  induction action generalizing machine with
  | done result => exact steady_value result machine hpolicy
  | fail failure => exact steady_fail failure machine hpolicy
  | abort message => exact haction.elim
  | exhaust => exact steady_exhaust machine hpolicy
  | inspect next ih => exact steadyAt_of_eq (.refl machine) (ih machine.memory hpolicy haction) rfl
  | update heap marks next ih =>
    have hupdated : machine.Upholds
        { machine with memory := { machine.memory with heap := heap, marks := marks } } :=
      ⟨rfl, haction.1⟩
    exact steadyAt_of_eq hupdated (ih (hupdated.policy.trans hpolicy) haction.2) rfl
  | call callee arguments block next ih =>
    have hcall := hengine.call callee arguments block
    exact steadyAt_bind (hcall machine hpolicy) fun result changed heq ↦
      ih result (hcall.policy_eq hpolicy heq) (haction result changed.memory)
  | attempt callee arguments block next catches recover ihnext ihrecover =>
    have hcall := hengine.call callee arguments block
    refine steadyAt_either (hcall machine hpolicy)
      (fun result changed heq ↦ ihnext result (hcall.policy_eq hpolicy heq)
        (haction.1 result changed.memory)) fun failure changed heq ↦ ?_
    split
    · exact ihrecover _ (hcall.policy_eq hpolicy heq) (haction.2 _ changed.memory)
    · exact steady_fail failure changed rfl
  | parameters index next ih =>
    have hnames := steady_parameterNames hengine index
    exact steadyAt_bind (hnames machine hpolicy) fun names changed heq ↦
      ih names (hnames.policy_eq hpolicy heq) (haction names changed.memory)
  | observe next ih => exact steadyAt_of_eq (.refl machine) (ih _ hpolicy (haction _)) rfl
  | reenter next ih =>
    by_cases hrunning : machine.evaluator.running = true
    · exact steadyAt_of_eq (.refl machine) (steady_fail (α := α) ⟨.sessionRunning, none⟩ machine rfl)
        (if_pos hrunning)
    · exact steadyAt_of_eq (.refl machine) (ih hpolicy haction) (if_neg hrunning)
  | reach receiver name arguments next ih =>
    have hreach : (reach receiver name arguments).SteadyUnder policy := steady_reach _ _ _
    refine steadyAt_bind (hreach machine hpolicy) fun answer changed heq ↦
      ih answer (hreach.policy_eq hpolicy heq) ?_
    have hmemory : changed.memory = machine.memory :=
      (congrArg (·.2.memory) heq).symm.trans (memory_reach receiver name arguments machine)
    rw [hmemory]
    exact haction answer

theorem steady_perform (hengine : engine.SteadyUnder policy) {action : Action α}
    (haction : action.Steady) : (perform engine action).SteadyUnder policy :=
  fun machine hpolicy ↦ steadyAt_perform hengine hpolicy (haction machine.memory)

end

end Run

namespace Eval

open Run

variable {library : Library} {policy : Policy} {engine : Engine}

theorem steady_trace (receiver : Value) (member : Tree) (arguments : List Value)
    (block : Option Value) (receiverNode : Tree) :
    (trace receiver member arguments block receiverNode).SteadyUnder policy :=
  holds_trace (scoped_steady policy).toCompositional steady_log (fun _ _ ↦ steady_note _)
    (fun _ _ hafter ↦ steady_bind (steady_look _) hafter) _ _ _ _ _

/-! ### Dispatch -/

/-- All that evaluation is given is steady: the library, the policy and the engine. -/
structure SteadyGround (library : Library) (policy : Policy) (engine : Engine) : Prop where
  host : library.Steady
  rule : policy.Steady library
  services : engine.SteadyUnder policy

theorem steady_callBlock (hengine : engine.SteadyUnder policy) (parameters body : Site) (chain : Chain)
    (arguments : List Value) : (callBlock engine parameters body chain arguments).SteadyUnder policy :=
  have hbound : (bindArguments parameters arguments).SteadyUnder policy :=
    holds_bindArguments (scoped_steady policy).toCompositional (fun _ _ ↦ steady_refuseAt _ _)
      parameters (Realm.within_everything arguments)
  steady_bind hbound fun _ ↦ steady_inFrame _ _ _ (hengine.evaluate body)

section

variable (hground : SteadyGround library policy engine)

include hground

theorem steady_authorize (receiver : Value) (member node : Tree) :
    (authorize library engine receiver member node).SteadyUnder policy := by
  have hrequested (machine : Machine) : machine.Upholds (requested receiver member node machine) :=
    .of_memory (by rw [evaluator_requested]) (memory_requested _ _ _ _)
  have hanswer := hground.rule receiver member node
  refine steady_bind (steady_change hrequested) fun _ ↦ steady_bind (steady_look _) fun published ↦ ?_
  -- the policy that is asked is the one that is in force
  intro machine hpolicy
  refine steadyAt_bind (steady_look _ machine hpolicy) fun asked changed heq ↦ ?_
  obtain ⟨hasked, rfl⟩ := Prod.mk.inj heq
  obtain rfl : policy = asked := hpolicy.symm.trans (Outcome.value.inj hasked)
  refine steady_bind (steady_perform hground.services hanswer) (fun answer ↦
    steady_bind (steady_look _) fun granted ↦ steady_bind (steady_note _) fun _ ↦ ?_) machine hpolicy
  split
  · exact steady_pure _
  · exact steady_bind (steady_look _) fun _ ↦ steady_bind (steady_log _ _ _) fun _ ↦
      steady_refuseAt _ _

theorem steady_dispatch (receiver : Value) (member : Tree) (arguments : List Value)
    (block : Option Value) (node receiverNode : Tree) :
    (dispatch library engine receiver member arguments block node receiverNode).SteadyUnder policy := by
  have hinvoke := (hground.host.carries arguments.length).invoke (Realm.within_everything arguments)
    (Realm.within_everything block) (Nat.le_refl _) (Realm.within_everything receiver) member
  exact steady_bind (steady_authorize hground _ _ _) fun _ ↦
    steady_bind (steady_trace _ _ _ _ _) fun _ ↦ steady_mapFailure _ <|
      steady_bind (steady_note _) fun _ ↦ steady_perform hground.services hinvoke

theorem steady_resolve (owner : Value) (name : Site) (node : Tree) :
    (resolve library engine owner name node).SteadyUnder policy := by
  have hresolve := (hground.host.carries 0).resolve (Realm.within_everything owner) name
  exact steady_bind (steady_authorize hground _ _ _) fun _ ↦ steady_mapFailure _ <|
    steady_bind (steady_note _) fun _ ↦ steady_perform hground.services hresolve

theorem steady_callValue (callee : Value) (arguments : List Value) (block : Option Value) :
    (callValue library engine callee arguments block).SteadyUnder policy := by
  unfold callValue
  split
  · refine steady_bind (steady_look _) fun found ↦ ?_
    split
    · split
      · exact steady_refuse _
      · exact steady_callBlock hground.services _ _ _ _
    · split
      · exact steady_refuse _
      · exact steady_dispatch hground _ _ _ _ _ _
    · exact steady_refuse _
  · exact steady_perform hground.services ((hground.host.carries _).apply
      (Realm.within_everything arguments) (Realm.within_everything block) (Nat.le_refl _)
      (Realm.within_everything callee))

/-- Handlers of nodes are called, and everything that is called is steady. -/
theorem steady_foreign (tag : String) (site : Site) :
    (foreign library engine tag site).SteadyUnder policy := by
  refine steady_bind (steady_look _) fun handlers ↦ ?_
  split
  · exact steady_refuseAt _ _
  · exact steady_bind (steady_change fun _ ↦ .of_memory rfl rfl) fun _ ↦
      steady_callValue hground _ _ _

end

/-- On steady ground evaluation is steady. -/
theorem footing_steady {depth : Nat}
    (hground : SteadyGround library policy (Eval.engine library depth)) :
    Footing .everything (fun {α} [Confinable α] (run : Run α) ↦ run.SteadyUnder policy) library
      (Eval.engine library depth) where
  toScoped := scoped_steady policy
  context := steady_look _
  log := steady_log
  visit _ := steady_change fun _ ↦ .of_memory rfl rfl
  moveTo _ := steady_change fun _ ↦ .of_memory rfl rfl
  frame := steady_inFrame .locals [] none
  proc _ _ := steady_close _
  capture _ _ _ hafter := steady_bind (steady_look _) fun _ ↦ steady_bind (steady_close _)
    fun block ↦ hafter block (Realm.within_everything block)
  evaluate := hground.services.evaluate
  leaf := eq_nil_of_leaf
  dispatch _ _ _ _ _ _ _ _ _ _ := steady_dispatch hground _ _ _ _ _ _
  resolve _ _ _ := steady_resolve hground _ _ _
  foreign _ _ := steady_foreign hground _ _

/-- An engine of any depth is steady: one more step of depth keeps it. -/
theorem steady_engine (hlibrary : library.Steady) (hpolicy : policy.Steady library) (depth : Nat) :
    (Eval.engine library depth).SteadyUnder policy := by
  induction depth with
  | zero => exact ⟨fun _ ↦ steady_exhaust, fun _ _ _ ↦ steady_exhaust⟩
  | succ depth ih =>
    have hground : SteadyGround library policy (Eval.engine library depth) := ⟨hlibrary, hpolicy, ih⟩
    exact ⟨(footing_steady hground).step, steady_callValue hground⟩

end Eval

/-! ### Sessions and scripts -/

section

variable {library : Library} (hlibrary : library.Steady)

include hlibrary

/-- A session does not abort, and it leaves objects as they are. -/
theorem Session.steady_run (session : Session) (site : Site) (machine : Machine)
    (hpolicy : (session.policy.getD Policy.permissive).Steady library) :
    (session.run library site machine).1.abort? = none ∧
      machine.memory.KeepsObjects (session.run library site machine).2.memory := by
  by_cases hrunning : machine.evaluator.running = true
  · rw [session.run_of_running library site hrunning]
    exact ⟨rfl, .refl _⟩
  · obtain ⟨hfinishes, hupholds⟩ := (Eval.steady_engine hlibrary hpolicy depth).evaluate site
      (session.seat machine) (session.policy_seat machine)
    have hobjects := session.memory_seat machine ▸ hupholds.objects
    rw [session.run_of_idle library site (Bool.eq_false_iff.mpr hrunning), memory_finish]
    exact ⟨hfinishes, hobjects⟩

/-- Nothing that a script does makes the evaluator abort. -/
theorem Runner.not_aborted_handle (runner : Runner) (locals : Option Nat) (script : Script)
    (machine : Machine) (hpolicy : (runner.policy.getD Policy.permissive).Steady library)
    (message : String) : (runner.handle library locals script machine).1 ≠ .aborted message := by
  unfold handle
  rcases runner.parse script with cause | tree
  · exact nofun
  · dsimp only
    rw [evaluate_apply, Ne, reported_eq_aborted, ← Outcome.abort?_eq_some,
      ((runner.session locals machine).steady_run hlibrary _ _ hpolicy).1]
    exact nofun

/-- A script leaves the objects of the host as they are. -/
theorem Runner.keepsObjects_handle (runner : Runner) (locals : Option Nat) (script : Script)
    (machine : Machine) (hpolicy : (runner.policy.getD Policy.permissive).Steady library) :
    machine.memory.KeepsObjects (runner.handle library locals script machine).2.memory := by
  unfold handle
  rcases runner.parse script with cause | tree
  · exact .refl _
  · dsimp only
    rw [evaluate_apply, memory_reported]
    exact ((runner.session locals machine).steady_run hlibrary _ (marked machine) hpolicy).2

end

end Treewalk
