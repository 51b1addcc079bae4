import Treewalk.Proofs.EvaluationProperties
import Treewalk.Proofs.Evolution
import Treewalk.Session

/-!
Every run of the evaluator evolves. To evolve is a compositional property, so that what has to be seen
here is that the steps have it: host code, queries to the policy, dispatches, frames and closures
(`Eval.footing_evolving`). An engine evolves when both of its services do, and `Eval.evolving_engine`
climbs from the engine that can do nothing to an engine of any depth.

Where a lemma is about one machine and not about all of them, the run makes use of what it has just
seen there: a block captures the chain that was looked at, a block call runs over the chain of a
closure that was found, and a member is sent on top of the query that was noted.
-/

set_option autoImplicit false
set_option relaxedAutoImplicit false

namespace Treewalk

/-- A run that from this machine only does what running can do. -/
def Run.EvolvesAt {α : Type} (library : Library) (run : Run α) (machine : Machine) : Prop :=
  Evolves library machine (run machine).1.ending (run machine).2

/-- A run that from every machine only does what running can do. -/
def Run.Evolving {α : Type} (library : Library) (run : Run α) : Prop :=
  ∀ machine, run.EvolvesAt library machine

/-- An engine both of whose services only do what running can do. -/
structure Engine.Evolving (library : Library) (engine : Engine) : Prop where
  evaluate : ∀ site, (engine.evaluate site).Evolving library
  call : ∀ callee arguments block, (engine.call callee arguments block).Evolving library

namespace Run

variable {α β : Type} {library : Library}

/-! ### Putting runs together -/

theorem evolving_value (result : α) : (value result).Evolving library :=
  fun machine ↦ .value machine

theorem evolving_fail (failure : Failure) : (fail failure : Run α).Evolving library :=
  fun machine ↦ .failed failure machine

theorem evolving_refuse (cause : Cause) : (refuse cause : Run α).Evolving library :=
  evolving_fail _

theorem evolving_refuseAt (node : Tree) (cause : Cause) :
    (refuseAt node cause : Run α).Evolving library :=
  evolving_fail _

theorem evolving_exhaust : (exhaust : Run α).Evolving library :=
  fun machine ↦ .exhausted machine

theorem evolving_abort (message : String) : (abort message : Run α).Evolving library :=
  fun machine ↦ .aborted message machine

theorem evolving_look (view : Machine → α) : (look view).Evolving library :=
  fun machine ↦ .value machine

theorem evolvesAt_bind {run : Run α} {after : α → Run β} {machine : Machine}
    (hrun : run.EvolvesAt library machine)
    (hafter : ∀ result changed, run machine = (.value result, changed) →
      (after result).EvolvesAt library changed) :
    (run >>= after).EvolvesAt library machine := by
  unfold EvolvesAt at hrun ⊢
  rw [bind_apply]
  rcases heq : run machine with ⟨outcome, changed⟩
  rw [heq] at hrun
  cases outcome with
  | value result => exact .next hrun (hafter result changed heq)
  | failed failure => exact hrun
  | aborted message => exact hrun
  | exhausted => exact hrun

theorem evolving_bind {run : Run α} {after : α → Run β} (hrun : run.Evolving library)
    (hafter : ∀ result, (after result).Evolving library) : (run >>= after).Evolving library :=
  fun machine ↦ evolvesAt_bind (hrun machine) fun result changed _ ↦ hafter result changed

theorem evolvesAt_either {run : Run α} {after : α → Run β} {recover : Failure → Run β}
    {machine : Machine} (hrun : run.EvolvesAt library machine)
    (hafter : ∀ result, (after result).Evolving library)
    (hrecover : ∀ failure, (recover failure).Evolving library) :
    (either run after recover).EvolvesAt library machine := by
  unfold EvolvesAt at hrun ⊢
  unfold either
  rcases heq : run machine with ⟨outcome, changed⟩
  rw [heq] at hrun
  cases outcome with
  | value result => exact .next hrun (hafter result changed)
  | failed failure => exact .recovered hrun (hrecover failure changed)
  | aborted message => exact hrun
  | exhausted => exact hrun

theorem evolving_either {run : Run α} {after : α → Run β} {recover : Failure → Run β}
    (hrun : run.Evolving library) (hafter : ∀ result, (after result).Evolving library)
    (hrecover : ∀ failure, (recover failure).Evolving library) :
    (either run after recover).Evolving library :=
  fun machine ↦ evolvesAt_either (hrun machine) hafter hrecover

theorem evolvesAt_mapFailure (adjust : Failure → Failure) {run : Run α} {machine : Machine}
    (hrun : run.EvolvesAt library machine) : (mapFailure adjust run).EvolvesAt library machine :=
  mapFailure_eq_either adjust run ▸ evolvesAt_either hrun evolving_value fun _ ↦ evolving_fail _

/-- A run that at most changes the heap and the number of marks, and ends with a value or a failure.
-/
def Heapwise (run : Run α) : Prop :=
  ∀ machine, ∃ heap marks, (run machine).2 =
    { machine with memory := { machine.memory with heap := heap, marks := marks } } ∧
    ((run machine).1.ending = .value () ∨ ∃ failure, (run machine).1.ending = .failed failure)

theorem heapwise_value (result : α) : (value result).Heapwise :=
  fun machine ↦ ⟨machine.memory.heap, machine.memory.marks, rfl, Or.inl rfl⟩

theorem heapwise_fail (failure : Failure) : (fail failure : Run α).Heapwise :=
  fun machine ↦ ⟨machine.memory.heap, machine.memory.marks, rfl, Or.inr ⟨failure, rfl⟩⟩

theorem heapwise_either {run : Run α} {after : α → Run β} {recover : Failure → Run β}
    (hrun : run.Heapwise) (hafter : ∀ result, (after result).Heapwise)
    (hrecover : ∀ failure, (recover failure).Heapwise) : (either run after recover).Heapwise := by
  intro machine
  obtain ⟨heap, marks, hchanged, hending⟩ := hrun machine
  rw [either_apply]
  rcases heq : run machine with ⟨outcome, changed⟩
  rw [heq] at hchanged hending
  dsimp only at hchanged hending
  subst hchanged
  cases outcome with
  | value result => exact hafter result _
  | failed failure => exact hrecover failure _
  | aborted message => rcases hending with hvalue | ⟨_, hfailed⟩ <;> contradiction
  | exhausted => rcases hending with hvalue | ⟨_, hfailed⟩ <;> contradiction

/-- A computation that only adds to memory leaves the closures alone. -/
theorem heapwise_compute {computation : Compute α} (hadditive : computation.Additive) :
    (compute computation).Heapwise := by
  intro machine
  have hclosures := (hadditive machine.memory).closures
  rw [compute_apply]
  generalize computation.run.run machine.memory = ended at hclosures ⊢
  obtain ⟨outcome, ⟨heap, closures, marks⟩⟩ := ended
  change closures = machine.memory.closures at hclosures
  subst hclosures
  cases outcome with
  | ok result => exact ⟨heap, marks, rfl, Or.inl rfl⟩
  | error cause => exact ⟨heap, marks, rfl, Or.inr ⟨_, rfl⟩⟩

theorem compositional_heapwise :
    Compositional .everything fun {α} [Confinable α] (run : Run α) ↦ run.Heapwise :=
  .of_all heapwise_value heapwise_fail heapwise_compute heapwise_either

theorem Heapwise.evolving {run : Run α} (hrun : run.Heapwise) : run.Evolving library := by
  intro machine
  obtain ⟨heap, marks, hchanged, hending⟩ := hrun machine
  unfold EvolvesAt
  rw [hchanged]
  rcases hending with hvalue | ⟨failure, hfailed⟩
  · rw [hvalue]
    exact .updated heap marks machine
  · rw [hfailed]
    exact .next (.updated heap marks machine) (.failed failure _)

theorem evolving_log (severity : Log.Severity) (source : Log.Source) (message : String) :
    (log severity source message).Evolving library := by
  intro machine
  change Evolves library machine (.value ()) (machine.logged severity source message)
  unfold Machine.logged
  split
  · exact .recorded machine.requests _ machine
  · exact .value machine

theorem evolvesAt_close {closure : Closure} {machine : Machine}
    (hcaptured : ∀ parameters body chain, closure = .block parameters body chain →
      chain = machine.evaluator.locals) :
    (close closure).EvolvesAt library machine :=
  .closed closure machine hcaptured

theorem evolving_write (space : Space) (name : Name) (item : Value) :
    (write space name item).Evolving library := by
  intro machine
  unfold EvolvesAt write
  rcases htarget : machine.frames.target? name.key (machine.evaluator.chain space) with _ | number
  · exact .frameless space name _ machine htarget
  · exact .written space name item number machine htarget

theorem evolvesAt_inFrame {bindings : Table} {base : Option Chain} {run : Run α}
    {machine : Machine}
    (hcaptured : ∀ chain, base = some chain → ∃ index parameters body,
      machine.memory.closure? index = some (.block parameters body chain))
    (hrun : run.Evolving library) : (inFrame .locals bindings base run).EvolvesAt library machine :=
  .framed bindings base hcaptured (hrun (machine.enter .locals bindings base).2)

theorem evolving_inFrame {bindings : Table} {run : Run α} (hrun : run.Evolving library) :
    (inFrame .locals bindings none run).Evolving library :=
  fun _ ↦ evolvesAt_inFrame (fun _ hbase ↦ nomatch hbase) hrun

theorem scoped_evolving (library : Library) :
    Scoped .everything fun {α} [Confinable α] (run : Run α) ↦ run.Evolving library where
  toCompositional := .of_all evolving_value evolving_fail
    (fun hadditive ↦ (heapwise_compute hadditive).evolving) evolving_either
  refuseAt _ := evolving_refuseAt _ _
  read _ _ machine := .value machine
  write space name item _ := evolving_write space name.toName item

/-! ### Host actions -/

/-- A request is noted, and then it has its effect or fails. -/
theorem evolving_reach (receiver : Value) (name : String) (arguments : Option (List Value)) :
    (reach receiver name arguments).Evolving library := by
  intro machine
  unfold EvolvesAt reach
  cases machine.answer receiver name arguments with
  | missing => exact .reached receiver name .nothing machine
  | found item effect => exact .reached receiver name effect machine
  | refused cause => exact .next (.reached receiver name .nothing machine) (.failed _ _)

section

variable {engine : Engine}

theorem evolving_parameterNames (hengine : engine.Evolving library) (index : Nat) :
    (parameterNames engine index).Evolving library :=
  Eval.holds_parameterNames (scoped_evolving library).toCompositional hengine.evaluate
    (fun _ _ hafter ↦ evolving_bind (evolving_look _) hafter) index

/-- Host code evolves, whatever it asks for: the induction is on the tree of its requests. -/
theorem evolving_perform (hengine : engine.Evolving library) (action : Action α) :
    (perform engine action).Evolving library := by
  induction action with
  | done result => exact evolving_value result
  | fail failure => exact evolving_fail failure
  | abort message => exact evolving_abort message
  | exhaust => exact evolving_exhaust
  | inspect next ih => exact fun machine ↦ ih machine.memory machine
  | update heap marks next ih =>
    exact fun machine ↦ .next (.updated heap marks machine) (ih _)
  | call callee arguments block next ih =>
    exact evolving_bind (hengine.call callee arguments block) ih
  | attempt callee arguments block next catches recover ihnext ihrecover =>
    refine evolving_either (hengine.call callee arguments block) ihnext fun failure ↦ ?_
    split
    · exact ihrecover _
    · exact evolving_fail failure
  | parameters index next ih => exact evolving_bind (evolving_parameterNames hengine index) ih
  | observe next ih => exact fun machine ↦ ih _ machine
  | reenter next ih =>
    intro machine
    unfold EvolvesAt perform
    split
    · exact .failed _ machine
    · exact ih machine
  | reach receiver name arguments next ih => exact evolving_bind (evolving_reach _ _ _) ih

end

end Run

namespace Eval

open Run

variable {library : Library} {engine : Engine}

/-! ### Asking the policy -/

@[simp] theorem evaluator_requested (receiver : Value) (member node : Tree) (machine : Machine) :
    (requested receiver member node machine).evaluator = machine.evaluator := by
  unfold requested
  split <;> rfl

@[simp] theorem memory_requested (receiver : Value) (member node : Tree) (machine : Machine) :
    (requested receiver member node machine).memory = machine.memory := by
  unfold requested
  split <;> rfl

theorem evolves_requested (receiver : Value) (member node : Tree) (machine : Machine) :
    Evolves library machine (.value ()) (requested receiver member node machine) := by
  unfold requested
  split
  · exact .recorded _ machine.records machine
  · exact .value machine

/-- A query takes the policy's answer, notes it, and fails unless it was granted. -/
theorem authorize_apply (library : Library) (engine : Engine) (receiver : Value)
    (member node : Tree) (machine : Machine) :
    authorize library engine receiver member node machine =
      match perform engine (machine.evaluator.policy.authorize library receiver member node)
        (requested receiver member node machine) with
      | (.value answer, answered) =>
        let noted := answered.noted (.query receiver member node
          (isPublished library machine.memory receiver member) (answered.memory.isGranted answer))
        if answered.memory.isGranted answer then (.value (), noted)
        else
          (.failed ⟨.denied receiver (answered.memory.kindName receiver) member, some node⟩,
            noted.logged .warning .evaluator
              (denialText (answered.memory.kindName receiver) member))
      | (.failed failure, answered) => (.failed failure, answered)
      | (.aborted message, answered) => (.aborted message, answered)
      | (.exhausted, answered) => (.exhausted, answered) := by
  unfold authorize
  rw [bind_apply]
  change ((perform engine ((requested receiver member node machine).evaluator.policy.authorize
    library receiver member node)) >>= _) (requested receiver member node machine) = _
  rw [bind_apply, evaluator_requested]
  rcases perform engine _ (requested receiver member node machine) with ⟨_ | _ | _ | _, answered⟩
  · next answer =>
    rw [← memory_requested receiver member node machine]
    change (if answered.memory.isGranted answer then (pure () : Run Unit) else _)
      (answered.noted _) = _
    dsimp only
    by_cases hgranted : answered.memory.isGranted answer
    · rw [if_pos hgranted, if_pos hgranted]
      rfl
    · rw [if_neg hgranted, if_neg hgranted]
      rfl
  · rfl
  · rfl
  · rfl

theorem evolving_authorize (hengine : engine.Evolving library) (receiver : Value)
    (member node : Tree) : (authorize library engine receiver member node).Evolving library := by
  intro machine
  have hasked : Evolves library machine (.value ()) (requested receiver member node machine) :=
    evolves_requested receiver member node machine
  have hanswer := evolving_perform hengine
    (machine.evaluator.policy.authorize library receiver member node)
    (requested receiver member node machine)
  unfold EvolvesAt at hanswer ⊢
  rw [authorize_apply]
  rcases heq : perform engine (machine.evaluator.policy.authorize library receiver member node)
    (requested receiver member node machine) with ⟨outcome, answered⟩
  rw [heq] at hanswer
  cases outcome with
  | value answer =>
    rw [← evaluator_requested receiver member node machine] at heq
    have hnoted := Evolves.next hasked (.asked engine receiver member node answer heq hanswer)
    rw [memory_requested] at hnoted
    dsimp only
    split
    · exact hnoted
    · exact .next hnoted (.next (evolving_log _ _ _ _) (.failed _ _))
  | failed failure => exact .next hasked hanswer
  | aborted message => exact .next hasked hanswer
  | exhausted => exact .next hasked hanswer

/-- A query that does not fail is the latest event, and it was granted. -/
theorem head?_events_of_authorize {receiver : Value} {member node : Tree}
    {machine changed : Machine}
    (hauthorize : authorize library engine receiver member node machine = (.value (), changed)) :
    ∃ published, changed.events.head? = some (.query receiver member node published true) := by
  rw [authorize_apply] at hauthorize
  split at hauthorize
  · next answer answered heq =>
    dsimp only at hauthorize
    split at hauthorize
    · next hgranted =>
      obtain ⟨-, rfl⟩ := Prod.mk.inj hauthorize
      exact ⟨isPublished library machine.memory receiver member, by
        simp only [Machine.noted, List.head?_cons, hgranted]⟩
    · cases hauthorize
  all_goals cases hauthorize

/-! ### Dispatch -/

theorem evolving_trace (receiver : Value) (member : Tree) (arguments : List Value)
    (block : Option Value) (receiverNode : Tree) :
    (trace receiver member arguments block receiverNode).Evolving library :=
  holds_trace (scoped_evolving library).toCompositional evolving_log
    (fun receiver member machine ↦ .untraced receiver member machine)
    (fun _ _ hafter ↦ evolving_bind (evolving_look _) hafter) _ _ _ _ _

/-- A trace that goes through is no event. -/
theorem events_trace {receiver : Value} {member : Tree} {arguments : List Value}
    {block : Option Value} {receiverNode : Tree} {machine traced : Machine}
    (htrace : trace receiver member arguments block receiverNode machine = (.value (), traced)) :
    traced.events = machine.events := by
  unfold trace at htrace
  rw [look_bind_apply] at htrace
  split at htrace
  · rw [look_bind_apply] at htrace
    cases htext : traceText machine.memory receiver member arguments block receiverNode with
    | ok text =>
      rw [htext] at htrace
      cases htrace
      exact machine.events_logged _ _ _
    | error flaw =>
      rw [htext] at htrace
      cases htrace
  · cases htrace
    rfl

/-- A member may be sent right after a granted query for it. -/
theorem evolvesAt_deliver (hengine : engine.Evolving library) {receiver : Value} {member node : Tree}
    (arguments : List Value) (block : Option Value) {published : Bool} {machine : Machine}
    (hquery : machine.events.head? = some (.query receiver member node published true)) :
    (deliver library engine receiver member arguments block).EvolvesAt library machine :=
  evolvesAt_bind (.invoked receiver member arguments block machine ⟨node, published, hquery⟩)
    fun _ _ _ ↦ evolving_perform hengine _ _

/-- What is left of a dispatch once it is granted. -/
theorem evolvesAt_granted (hengine : engine.Evolving library) {receiver : Value} {member node : Tree}
    (arguments : List Value) (block : Option Value) (receiverNode : Tree) {published : Bool}
    {asked : Machine}
    (hquery : asked.events.head? = some (.query receiver member node published true)) :
    (trace receiver member arguments block receiverNode >>= fun _ ↦
      mapFailure (Failure.locate node)
        (deliver library engine receiver member arguments block)).EvolvesAt library asked := by
  refine evolvesAt_bind (evolving_trace _ _ _ _ _ asked) fun _ traced htraced ↦ ?_
  -- The trace keeps the journal, so the granted query is still its latest event.
  rw [← events_trace htraced] at hquery
  exact evolvesAt_mapFailure _ (evolvesAt_deliver hengine arguments block hquery)

theorem evolving_dispatch (hengine : engine.Evolving library) (receiver : Value) (member : Tree)
    (arguments : List Value) (block : Option Value) (node receiverNode : Tree) :
    (dispatch library engine receiver member arguments block node receiverNode).Evolving
      library := by
  intro machine
  refine evolvesAt_bind (evolving_authorize hengine _ _ _ machine) fun _ asked hasked ↦ ?_
  obtain ⟨published, hquery⟩ := head?_events_of_authorize hasked
  exact evolvesAt_granted hengine arguments block receiverNode hquery

/-! ### Evaluation -/

theorem evolving_attached (parameters body : Site) {after : Value → Run Value}
    (hafter : ∀ block, (after block).Evolving library) :
    (look (·.evaluator.locals) >>= fun chain ↦ close (.block parameters body chain) >>= after).Evolving
      library := by
  intro machine
  -- The chain that the block captures has just been looked at.
  refine evolvesAt_bind (evolving_look _ machine) fun chain seen hseen ↦ ?_
  obtain ⟨hchain, rfl⟩ := Prod.mk.inj hseen
  obtain rfl := Outcome.value.inj hchain
  refine evolvesAt_bind (evolvesAt_close ?_) fun block closed _ ↦ hafter block closed
  rintro _ _ chain ⟨⟩
  rfl

/-- A constant may be looked up right after a granted query for it. -/
theorem evolvesAt_consult (hengine : engine.Evolving library) {owner : Value} {name : Site}
    {node : Tree} {published : Bool} {machine : Machine}
    (hquery : machine.events.head? = some (.query owner name.tree node published true)) :
    (consult library engine owner name).EvolvesAt library machine :=
  evolvesAt_bind (.lookedUp owner name.tree machine ⟨node, published, hquery⟩)
    fun _ _ _ ↦ evolving_perform hengine _ _

theorem evolving_resolve (hengine : engine.Evolving library) (owner : Value) (name : Site)
    (node : Tree) : (resolve library engine owner name node).Evolving library := by
  intro machine
  refine evolvesAt_bind (evolving_authorize hengine _ _ _ machine) fun _ asked hasked ↦ ?_
  obtain ⟨published, hquery⟩ := head?_events_of_authorize hasked
  exact evolvesAt_mapFailure _ (evolvesAt_consult hengine hquery)

theorem evolving_rescued (hengine : engine.Evolving library) (body : Site) (clauses : List Site)
    (otherwise : Option Site) : (rescued engine body clauses otherwise).Evolving library :=
  holds_rescued (scoped_evolving library).toCompositional hengine.evaluate evolving_log _ _ _

theorem evolving_sequence (hengine : engine.Evolving library) (result : Value)
    (sites : List Site) : (sequence engine result sites).Evolving library :=
  holds_sequence (scoped_evolving library).toCompositional hengine.evaluate
    (Realm.within_everything result) sites

theorem heapwise_splitElse (clauses : List Site) : (splitElse clauses).Heapwise :=
  holds_splitElse compositional_heapwise clauses

/-! ### Calls -/

/-- Binding arguments touches no frame yet. -/
theorem heapwise_bindArguments (parameters : Site) (arguments : List Value) :
    (bindArguments parameters arguments).Heapwise :=
  holds_bindArguments compositional_heapwise (fun _ _ ↦ heapwise_fail _) parameters
    (Realm.within_everything arguments)

/-- A block call runs over the chain of a closure that is there. -/
theorem evolvesAt_callBlock (hengine : engine.Evolving library) {parameters body : Site}
    {chain : Chain} {index : Nat} {machine : Machine}
    (hclosure : machine.memory.closure? index = some (.block parameters body chain))
    (arguments : List Value) :
    (callBlock engine parameters body chain arguments).EvolvesAt library machine := by
  have hbinding : (bindArguments parameters arguments).EvolvesAt library machine :=
    (heapwise_bindArguments parameters arguments).evolving machine
  refine evolvesAt_bind hbinding fun bindings bound hbound ↦
    evolvesAt_inFrame ?_ (hengine.evaluate body)
  rintro _ ⟨⟩
  have hcontinues := Evolves.continues hbinding
  rw [hbound] at hcontinues
  exact ⟨index, parameters, body, hcontinues.closure? hclosure⟩

theorem evolving_callValue (hengine : engine.Evolving library) (callee : Value)
    (arguments : List Value) (block : Option Value) :
    (callValue library engine callee arguments block).Evolving library := by
  unfold callValue
  split
  · next index =>
    intro machine
    refine evolvesAt_bind (evolving_look _ machine) fun found seen hseen ↦ ?_
    obtain ⟨hfound, rfl⟩ := Prod.mk.inj hseen
    have hclosure := Outcome.value.inj hfound
    split
    · split
      · exact evolving_refuse _ _
      · exact evolvesAt_callBlock hengine hclosure arguments
    · split
      · exact evolving_refuse _ _
      · exact evolving_dispatch hengine _ _ _ _ _ _ _
    · exact evolving_refuse _ _
  · exact evolving_perform hengine _

/-- A node that is no construct is refused, or its handler is called with it. -/
theorem evolving_foreign (hengine : engine.Evolving library) (tag : String) (site : Site) :
    (foreign library engine tag site).Evolving library := by
  refine evolving_bind (evolving_look _) fun handlers ↦ ?_
  split
  · exact evolving_refuseAt _ _
  · exact evolving_bind (fun machine ↦ .moved site.tree machine) fun _ ↦
      evolving_callValue hengine _ _ _

/-! ### Engines -/

/-- On an engine that evolves evaluation does. -/
theorem footing_evolving {depth : Nat} (hengine : (Eval.engine library depth).Evolving library) :
    Footing .everything (fun {α} [Confinable α] (run : Run α) ↦ run.Evolving library) library
      (Eval.engine library depth) where
  toScoped := scoped_evolving library
  context := evolving_look _
  log := evolving_log
  visit tree machine := .visited tree machine
  moveTo tree machine := .moved tree machine
  frame := evolving_inFrame
  proc _ _ _ := evolvesAt_close (by rintro _ _ _ ⟨⟩)
  capture parameters body _ hafter := evolving_attached parameters body fun block ↦
    hafter block (Realm.within_everything block)
  evaluate := hengine.evaluate
  leaf := eq_nil_of_leaf
  dispatch _ _ _ _ _ _ _ _ _ _ := evolving_dispatch hengine _ _ _ _ _ _
  resolve _ _ _ := evolving_resolve hengine _ _ _
  foreign _ _ := evolving_foreign hengine _ _

/-- An engine of any depth evolves: one more step of depth keeps it. -/
theorem evolving_engine (library : Library) (depth : Nat) :
    (Eval.engine library depth).Evolving library := by
  induction depth with
  | zero => exact ⟨fun _ ↦ evolving_exhaust, fun _ _ _ ↦ evolving_exhaust⟩
  | succ depth ih => exact ⟨(footing_evolving ih).step, evolving_callValue ih⟩

end Eval

end Treewalk
