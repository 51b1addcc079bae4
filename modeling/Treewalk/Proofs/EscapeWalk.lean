import Treewalk.Proofs.Escape

/-!
Evaluations, calls, sendings, lookups and host code are explained, on the engines of all depths. Each is
explained on an engine that explains what it starts, and an engine of one more depth explains its own
tasks by them (`Eval.explains_engine`). Sendings and lookups give a failure without a node the node that
they are for (`Eval.explained_sending`, `Eval.explained_lookup`). An evaluation raises a failure of its
own where a local variable is not bound, a construct is not supported, a block is given twice, or a value
cannot be the key of a table entry, and each time it names a node (`Eval.footing_partOf`).

Lookups attach a node to failed dispatches only. That is enough, as a library has no other failure
of the interpreter's own to offer when it is read (`Library.ReadsForDispatch`).
-/

set_option autoImplicit false
set_option relaxedAutoImplicit false

namespace Treewalk

/-- An engine whose tasks are explained. -/
structure Explains (library : Library) (depth : Nat) : Prop where
  evaluation : ∀ site, (Task.evaluation site).Explained library depth
  call : ∀ callee arguments block, (Task.call callee arguments block).Explained library depth

namespace Run

variable {library : Library} {depth : Nat} {task : Task}

/-! ### Host code -/

/-- The parameter names of a block are evaluated at the site of its parameter list. -/
theorem partOf_parameterNames (hdepth : Explains library depth) (index : Nat)
    (hstarts : ∀ site, task.Starts library (.evaluation site)) :
    (parameterNames (Eval.engine library depth) index).PartOf library task :=
  Eval.holds_parameterNames (compositional_partOf library task)
    (fun site ↦ (hdepth.evaluation site).partOf (hstarts site))
    (fun _ _ hafter ↦ partOf_bind (partOf_look _) hafter) index

/-- What is reached for is noted, and from there on nothing can be told. -/
theorem partOf_reach (receiver : Value) (name : String) (arguments : Option (List Value)) :
    (reach receiver name arguments).PartOf library task := by
  intro machine
  obtain ⟨effect, hreached⟩ := reach_snd receiver name arguments machine
  refine ⟨?_, fun hsound ↦ ?_⟩
  · rw [hreached]
    exact
      { toPrecedes := (Machine.Continues.reached receiver name effect machine).precedes
        policy := by cases effect <;> rfl
        procs := fun hprocs ↦ by rwa [Machine.memory_affected] }
  · rw [hreached] at hsound
    exact absurd hsound.unreached (machine.not_unreached_affected receiver name effect)

/-- From any point that some course of an action reaches, performing it is a part of performing the
whole. The induction is on what is left of the action. -/
theorem partOf_perform (hdepth : Explains library depth) {whole : Action Value}
    (point : Action Value) (hwithin : ∀ later, point.Reaches later → whole.Reaches later) :
    (perform (Eval.engine library depth) point).PartOf library (.performing whole) := by
  have hcall (callee : Value) (arguments : List Value) (block : Option Value)
      (hstarts : Task.Starts library (.performing whole) (.call callee arguments block)) :=
    (hdepth.call callee arguments block).partOf hstarts
  induction point with
  | done result => exact partOf_value result
  | fail failure => exact partOf_fail fun _ ↦ .failing (hwithin _ (.here _))
  | abort message => exact partOf_abort message
  | exhaust => exact partOf_exhaust
  | inspect next ih =>
    exact fun machine ↦ partAt_after (.refl machine)
      (ih machine.memory (fun _ h ↦ hwithin _ (.inspect _ h)) machine) rfl
  | update heap marks next ih =>
    intro machine
    let updated : Machine :=
      { machine with memory := { machine.memory with heap := heap, marks := marks } }
    have hupdated : machine.Leads updated := .of_closures rfl
    exact partAt_after hupdated (ih (fun _ h ↦ hwithin _ (.update h)) updated) rfl
  | call callee arguments block next ih =>
    exact partOf_bind (hcall _ _ _ (.called (hwithin _ (.here _)))) fun result ↦
      ih result fun _ h ↦ hwithin _ (.call result h)
  | attempt callee arguments block next catches recover ihnext ihrecover =>
    refine partOf_either (hcall _ _ _ (.attempted (hwithin _ (.here _))))
      (fun result ↦ ihnext result fun _ h ↦ hwithin _ (.attempt result h)) fun failure ↦ ?_
    split
    · exact Or.inr (ihrecover _ fun _ h ↦ hwithin _ (.recover _ h))
    · exact Or.inl rfl
  | parameters index next ih =>
    exact partOf_bind
      (partOf_parameterNames hdepth index fun site ↦ .asked site (hwithin _ (.here _)))
      fun names ↦ ih names fun _ h ↦ hwithin _ (.parameters names h)
  | observe next ih =>
    exact fun machine ↦ partAt_after (.refl machine)
      (ih _ (fun _ h ↦ hwithin _ (.observe _ h)) machine) rfl
  | reach receiver name arguments next ih =>
    exact partOf_bind (partOf_reach receiver name arguments) fun answer ↦
      ih answer fun _ h ↦ hwithin _ (.reach answer h)
  | reenter next ih =>
    intro machine
    by_cases hrunning : machine.evaluator.running = true
    · have hrefused : (refuse .sessionRunning : Run Value).PartOf library (.performing whole) :=
        partOf_refuse rfl
      exact partAt_after (.refl machine) (hrefused machine) (if_pos hrunning)
    · have hnext := ih (fun _ h ↦ hwithin _ (.reenter h)) machine
      exact partAt_after (.refl machine) hnext (if_neg hrunning)

theorem explained_performing (hdepth : Explains library depth) (action : Action Value) :
    (Task.performing action).Explained library depth :=
  .of_partOf (partOf_perform hdepth action fun _ ↦ id) rfl

end Run

/-! ### Reading host objects -/

/-- Reading an attribute of a host object fails for no reason of the interpreter's own, except that
there is nothing to dispatch to. -/
def Library.ReadsForDispatch (library : Library) : Prop :=
  ∀ hostClass ∈ library.classes, ∀ trap ∈ hostClass.traps,
    trap.2.isInterpreter = true → trap.2.cause.kind = .dispatch

namespace Action

variable {α β : Type}

/-- Host code that calls nothing and fails for no reason of the interpreter's own, except that there
is nothing to dispatch to. -/
def OnlyReads : Action α → Prop
  | done _ => True
  | fail failure => failure.isInterpreter = true → failure.cause.kind = .dispatch
  | abort _ => True
  | exhaust => True
  | inspect next => ∀ memory, (next memory).OnlyReads
  | update _ _ next => next.OnlyReads
  | call _ _ _ _ => False
  | attempt _ _ _ _ _ _ => False
  | parameters _ next => ∀ names, (next names).OnlyReads
  | observe next => ∀ seen, (next seen).OnlyReads
  | reenter next => next.OnlyReads
  | reach _ _ _ next => ∀ answer, (next answer).OnlyReads

theorem OnlyReads.of_reaches {action later : Action α} (hreads : action.OnlyReads)
    (hreaches : action.Reaches later) : later.OnlyReads := by
  induction hreaches with
  | here action => exact hreads
  | inspect memory _ ih => exact ih (hreads memory)
  | update _ ih => exact ih hreads
  | call result _ ih => exact hreads.elim
  | attempt result _ ih => exact hreads.elim
  | recover kind _ ih => exact hreads.elim
  | parameters names _ ih => exact ih (hreads names)
  | observe seen _ ih => exact ih (hreads seen)
  | reenter _ ih => exact ih hreads
  | reach answer _ ih => exact ih (hreads answer)

theorem onlyReads_bind {action : Action α} {after : α → Action β} (haction : action.OnlyReads)
    (hafter : ∀ result, (after result).OnlyReads) : (action >>= after).OnlyReads := by
  change (action.bind after).OnlyReads
  induction action with
  | done result => exact hafter result
  | fail failure => exact haction
  | abort message => exact trivial
  | exhaust => exact trivial
  | inspect next ih => exact fun memory ↦ ih memory (haction memory)
  | update heap marks next ih => exact ih haction
  | call callee arguments block next ih => exact haction.elim
  | attempt callee arguments block next catches recover ihnext ihrecover => exact haction.elim
  | parameters index next ih => exact fun names ↦ ih names (haction names)
  | observe next ih => exact fun seen ↦ ih seen (haction seen)
  | reenter next ih => exact ih haction
  | reach receiver name arguments next ih => exact fun answer ↦ ih answer (haction answer)

theorem onlyReads_refuse {cause : Cause}
    (hcause : cause.kind.isInterpreter = true → cause.kind = .dispatch) :
    (refuse cause : Action α).OnlyReads := hcause

theorem onlyReads_compute [Confinable α] {computation : Compute α}
    (helementary : computation.Elementary .everything) : (compute computation).OnlyReads := by
  intro memory
  have hcause := helementary.foreign Realm.whole_everything memory
  dsimp only
  generalize computation.run.run memory = ended at hcause ⊢
  obtain ⟨cause | result, changed⟩ := ended
  · intro hown
    rw [Failure.isInterpreter, hcause cause rfl] at hown
    cases hown
  · exact trivial

end Action

namespace Library

theorem ne_trap_of_plain (memory : Memory) (receiver : Value) (name : String)
    (failure : Failure) : Member.attributeOf memory receiver name ≠ .trap failure := by
  have hinteger (real : Value) : Member.integerField real name ≠ .trap failure := by
    unfold Member.integerField
    repeat' split
    all_goals exact Attribute.noConfusion
  have hfield : Member.fieldOf memory receiver name ≠ .trap failure := by
    unfold Member.fieldOf
    repeat' split
    all_goals first | exact hinteger _ | exact Attribute.noConfusion
  unfold Member.attributeOf
  dsimp only
  split
  · exact Attribute.noConfusion
  · split
    · exact Attribute.noConfusion
    · unfold Member.orInner
      split
      · split <;> exact Attribute.noConfusion
      · exact hfield

theorem trap_of_objectAttribute {hostClass : HostClass} {fields : List (String × Value)}
    {receiver : Value} {name : String} {failure : Failure}
    (htrap : objectAttribute hostClass fields receiver name = .trap failure) :
    (name, failure) ∈ hostClass.traps := by
  unfold objectAttribute at htrap
  split at htrap
  · next found hfound =>
    obtain rfl := Attribute.trap.inj htrap
    obtain ⟨before, after, htraps, -⟩ := List.lookup_eq_some_iff.mp hfound
    rw [htraps]
    exact List.mem_append_right before (List.mem_cons_self ..)
  · repeat' split at htrap
    all_goals cases htrap

/-- Only traps of host classes fail when an attribute is read. -/
theorem trap_of_attributeOf {library : Library} {memory : Memory} {receiver : Value} {name : String}
    {failure : Failure} (htrap : library.attributeOf memory receiver name = .trap failure) :
    ∃ hostClass ∈ library.classes, (name, failure) ∈ hostClass.traps := by
  have hplain := ne_trap_of_plain memory receiver name failure
  unfold attributeOf at htrap
  split at htrap
  · split at htrap
    · exact absurd htrap hplain
    · split at htrap
      · cases htrap
      · split at htrap
        · cases htrap
        · exact absurd htrap hplain
  · split at htrap
    · split at htrap
      · exact absurd htrap hplain
      · next hostClass hfound =>
        split at htrap
        · exact absurd htrap hplain
        · exact ⟨hostClass, List.mem_of_find?_eq_some hfound, trap_of_objectAttribute htrap⟩
    · exact absurd htrap hplain

/-- Reading an attribute only reads. -/
theorem onlyReads_read {library : Library} (hreads : library.ReadsForDispatch) (receiver : Value)
    (name : String) : (library.read receiver name).OnlyReads := by
  intro memory
  dsimp only
  split
  · exact trivial
  · exact trivial
  · exact Action.onlyReads_bind (Action.onlyReads_compute (.newNumber _)) fun _ ↦ trivial
  · exact Action.onlyReads_bind
      (Action.onlyReads_compute (.newMethod (Realm.within_everything _) _)) fun _ ↦ trivial
  · next failure htrap =>
    obtain ⟨hostClass, hclass, hmem⟩ := trap_of_attributeOf htrap
    exact hreads hostClass hclass _ hmem
  · exact fun _ ↦ trivial
  · exact fun _ ↦ trivial

/-- Looking up a constant only reads. -/
theorem onlyReads_resolve {library : Library} (hreads : library.ReadsForDispatch) (owner : Value)
    (name : Site) : (library.resolve owner name).OnlyReads := by
  intro memory
  dsimp only
  split
  · split
    · exact trivial
    · exact Action.onlyReads_refuse fun _ ↦ rfl
  · split
    · exact Action.onlyReads_refuse fun hown ↦ by cases hown
    · refine Action.onlyReads_bind (onlyReads_read hreads _ _) fun found ↦ ?_
      split
      · exact trivial
      · exact Action.onlyReads_refuse fun _ ↦ rfl

end Library

namespace Eval

open Run

variable {library : Library} {depth : Nat}

/-! ### Asking the policy -/

/-- A query fails for a reason of the interpreter's own only if it is answered and not granted. -/
theorem authorize_failed {receiver : Value} {member node : Tree} {machine : Machine}
    {last : Machine} (hsound : machine.Sound library last) {failure : Failure}
    (hfailed : (authorize library (engine library depth) receiver member node machine).1 =
      .failed failure) (hown : failure.isInterpreter = true) :
    ∃ kind, failure = ⟨.denied receiver kind member, some node⟩ := by
  have hquiet := hsound.quiet depth receiver member node (requested receiver member node machine)
  rw [authorize_apply] at hfailed
  rcases heq : perform (engine library depth)
    (machine.evaluator.policy.authorize library receiver member node)
    (requested receiver member node machine) with ⟨answer | found | message | _, answered⟩
  · rw [heq] at hfailed
    dsimp only at hfailed
    split at hfailed
    · cases hfailed
    · exact ⟨_, (Outcome.failed.inj hfailed).symm⟩
  · rw [heq] at hfailed hquiet
    obtain rfl := Outcome.failed.inj hfailed
    rw [hquiet found rfl] at hown
    cases hown
  · rw [heq] at hfailed
    cases hfailed
  · rw [heq] at hfailed
    cases hfailed

theorem leads_requested (receiver : Value) (member node : Tree) (machine : Machine) :
    machine.Leads (requested receiver member node machine) := by
  unfold requested
  split
  · exact ⟨.of_eq rfl rfl, rfl, id⟩
  · exact .refl machine

theorem partOf_authorize (hdepth : Explains library depth) {task : Task} {node : Tree}
    (hnode : task.node? = some node) (receiver : Value) (member : Tree) :
    (authorize library (engine library depth) receiver member node).PartOf library task := by
  intro machine
  refine ⟨?_, fun hsound failure hfailed hown ↦ ?_⟩
  · have hanswered := (leads_requested receiver member node machine).trans
      ((explained_performing hdepth (machine.evaluator.policy.authorize library receiver member
        node)).leads (requested receiver member node machine))
    change machine.Leads (perform (engine library depth) _ _).2 at hanswered
    rw [authorize_apply]
    rcases heq : perform (engine library depth)
      (machine.evaluator.policy.authorize library receiver member node)
      (requested receiver member node machine) with ⟨answer | found | message | _, answered⟩
    all_goals rw [heq] at hanswered
    · dsimp only
      split
      · exact hanswered.trans (.noted _ answered)
      · exact (hanswered.trans (.noted _ answered)).trans
          ((partOf_log _ _ _ : (log _ _ _).PartOf library task) _).leads
    all_goals exact hanswered
  · obtain ⟨kind, rfl⟩ := authorize_failed hsound hfailed hown
    exact .raised (.denied receiver kind member hnode)

/-! ### Sending -/

/-- Tracing a sending fails for a reason of the platform only. -/
theorem trace_failed {receiver : Value} {member : Tree} {arguments : List Value}
    {block : Option Value} {receiverNode : Tree} {machine : Machine} {failure : Failure}
    (hfailed : (trace receiver member arguments block receiverNode machine).1 = .failed failure) :
    failure.isInterpreter = false := by
  unfold trace at hfailed
  rw [look_bind_apply] at hfailed
  split at hfailed
  · rw [look_bind_apply] at hfailed
    cases htext : traceText machine.memory receiver member arguments block receiverNode with
    | error flaw =>
      rw [htext] at hfailed
      obtain rfl := Outcome.failed.inj hfailed
      exact flaw.isInterpreter_kind
    | ok text =>
      rw [htext] at hfailed
      cases hfailed
  · cases hfailed

theorem partOf_trace {task : Task} (receiver : Value) (member : Tree) (arguments : List Value)
    (block : Option Value) (receiverNode : Tree) :
    (trace receiver member arguments block receiverNode).PartOf library task :=
  holds_trace (compositional_partOf library task) partOf_log
    (fun _ _ ↦ partOf_change (.noted _))
    (fun _ _ hafter ↦ partOf_bind (partOf_look _) hafter) _ _ _ _ _

/-- A query that is refused concerns the node it was asked for. -/
theorem placedAt_authorize (hdepth : Explains library depth) {task : Task} {node : Tree}
    (hnode : task.node? = some node) (receiver : Value) (member : Tree) {after : Unit → Run Value}
    (hafter : ∀ asked, (after ()).PlacedAt library task asked) (machine : Machine) :
    (authorize library (engine library depth) receiver member node >>= after).PlacedAt library task
      machine := by
  refine placedAt_bind (partOf_authorize hdepth hnode receiver member machine) ?_
    fun _ asked _ ↦ hafter asked
  intro hsound failure hfailed hown
  obtain ⟨kind, rfl⟩ := authorize_failed hsound hfailed hown
  rfl

theorem explained_sending (hdepth : Explains library depth) (receiver : Value) (member : Tree)
    (arguments : List Value) (block : Option Value) (node receiverNode : Tree) :
    (Task.sending receiver member arguments block node receiverNode).Explained library depth := by
  have hstarts : (Task.sending receiver member arguments block node receiverNode).Starts library
      (.performing (invoke library receiver member arguments block)) := .invoked ..
  have hinvoked := (explained_performing hdepth _).partOf hstarts
  refine .of_placed (placedAt_authorize hdepth rfl receiver member fun asked ↦ ?_)
  refine placedAt_bind (partOf_trace _ _ _ _ _ asked) ?_ fun _ traced _ ↦ ?_
  · intro _ failure hfailed hown
    rw [trace_failed hfailed] at hown
    cases hown
  have hlocated := placedAt_mapFailure
    (hinvoked (traced.noted (.invocation receiver member arguments block)))
    (Failure.isInterpreter_locate node) fun _ _ _ ↦ rfl
  exact placedAt_after (.noted _ traced) hlocated rfl

/-! ### Looking up -/

/-- What host code that only reads fails with is a failed dispatch, or concerns a node. -/
theorem node_of_onlyReads {action : Action Value} (hreads : action.OnlyReads)
    {start last : Machine} {failure raised : Failure} {within : Option Tree}
    (hleaves : Leaves library (.performing action) start failure last raised within) :
    failure.cause.kind = .dispatch ∨ failure.node.isSome = true := by
  cases hleaves with
  | raised depth own raises ends =>
    cases raises with
    | failing hreaches => exact Or.inl (hreads.of_reaches hreaches own)
    | denied receiver kind member hnode => cases hnode
  | passed depth starts later leaves unwinds ends =>
    cases starts with
    | called hreaches => exact (hreads.of_reaches hreaches).elim
    | attempted hreaches => exact (hreads.of_reaches hreaches).elim
    | asked site hreaches => exact Or.inr (leaves.isSome_node rfl)

theorem isInterpreter_locateLookup (node : Tree) (failure : Failure) :
    (locateLookup node failure).isInterpreter = failure.isInterpreter := by
  unfold locateLookup
  split
  · exact failure.isInterpreter_locate node
  · rfl

/-- What a lookup does not attach its node to does not need it. -/
theorem locateLookup_eq_locate (node : Tree) {failure : Failure}
    (hplaced : failure.cause.kind = .dispatch ∨ failure.node.isSome = true) :
    locateLookup node failure = failure.locate node := by
  unfold locateLookup
  rcases hplaced with hkind | hsome
  · rw [if_pos hkind]
  · rw [failure.locate_of_isSome node hsome, ite_self]

theorem explained_lookup (hreads : library.ReadsForDispatch) (hdepth : Explains library depth)
    (owner : Value) (name : Site) (node : Tree) :
    (Task.lookup owner name node).Explained library depth := by
  have hstarts : (Task.lookup owner name node).Starts library
      (.performing (library.resolve owner name)) := .resolved ..
  have hresolved := (explained_performing hdepth _).partOf hstarts
  refine .of_placed (placedAt_authorize hdepth rfl owner name.tree fun asked ↦ ?_)
  refine placedAt_after (.noted (.lookup owner name.tree) asked)
    (placedAt_mapFailure (hresolved _) (isInterpreter_locateLookup node) ?_) rfl
  intro failure hescapes hown
  refine locateLookup_eq_locate node ?_
  cases hescapes with
  | raised hraises =>
    cases hraises with
    | denied receiver kind member hnode => exact Or.inr rfl
  | passed hstarts hlater hleaves hunwinds =>
    cases hstarts with
    | resolved => exact node_of_onlyReads (library.onlyReads_resolve hreads owner name) hleaves

/-! ### Calls -/

section

variable (hdepth : Explains library depth)

include hdepth

/-- A block that is called without a block evaluates its body. -/
theorem partOf_callBlock (index : Nat) (parameters body : Site) (chain : Chain)
    (arguments : List Value) :
    (callBlock (engine library depth) parameters body chain arguments).PartOf library
      (.call (.closure index) arguments none) := by
  have hbound : (bindArguments parameters arguments).PartOf library
      (.call (.closure index) arguments none) :=
    holds_bindArguments (compositional_partOf _ _)
      (fun tag children ↦ partOf_refuseAt (.binding _ _ _ (.unsupportedConstruct tag children)))
      parameters (Realm.within_everything arguments)
  exact partOf_bind hbound fun _ ↦
    partOf_inFrame ((hdepth.evaluation body).partOf (.body index arguments body))

/-- A proc of a symbol that is there sends for a block argument. -/
theorem partOf_callValue (callee : Value) (arguments : List Value) (block : Option Value) :
    (callValue library (engine library depth) callee arguments block).PartOf library
      (.call callee arguments block) := by
  unfold callValue
  split
  · next index =>
    intro machine
    refine partAt_bind (partOf_look _ machine) fun found seen hseen ↦ ?_
    obtain ⟨hfound, rfl⟩ := Prod.mk.inj hseen
    have hclosure := Outcome.value.inj hfound
    split
    · next parameters body chain =>
      cases block with
      | none => exact partOf_callBlock hdepth index parameters body chain arguments machine
      | some given => exact partOf_fail (fun _ ↦ .blockToBlock index arguments given) machine
    · next name node =>
      cases arguments with
      | nil => exact partOf_refuse rfl machine
      | cons receiver rest =>
        have hsending := explained_sending hdepth receiver (.leaf (.text name)) rest block node
          (.leaf .null)
        refine partAt_of_sound (hsending.leads machine) fun hsound ↦ ?_
        obtain ⟨children, rfl⟩ := hsound.procs index name node hclosure
        exact hsending.partOf (.forwarded index receiver rest block name children) machine
    · exact partOf_refuse rfl machine
  · exact (explained_performing hdepth _).partOf (.applied _ _ _)

/-- As long as no handler was added, a node that is no construct is refused. -/
theorem partOf_foreign {root site : Site} {tag : String} {children : List Tree}
    (htree : site.tree = .node tag children) :
    (foreign library (engine library depth) tag site).PartOf library (.evaluation root) := by
  intro machine
  cases hfound : machine.handlers.lookup tag with
  | none =>
    have hrefused : (refuseAt site.tree (.unsupportedConstruct tag) : Run Value).PartOf library
        (.evaluation root) :=
      partOf_refuseAt (.evaluating root (htree ▸ .unsupportedConstruct tag children))
    exact partAt_after (.refl machine) (hrefused machine) (foreign_of_none hfound)
  | some handler =>
    have hleads : machine.Leads (foreign library (engine library depth) tag site machine).2 := by
      rw [foreign_of_some hfound]
      exact (Machine.Leads.moved site.tree machine).trans
        (partOf_callValue hdepth handler [site.toValue] none _).leads
    refine partAt_of_sound hleads fun hsound ↦ ?_
    rw [hsound.handlers] at hfound
    cases hfound

end

/-! ### Evaluation -/

/-- Each step of an evaluation is a part of it: sites are evaluated inside of one, members are sent and
constants looked up for the nodes that it comes to, and what it raises itself names a node. -/
theorem footing_partOf (hreads : library.ReadsForDispatch) (hdepth : Explains library depth)
    (root : Site) :
    Footing .everything (fun {α} [Confinable α] (run : Run α) ↦ run.PartOf library (.evaluation root))
      library (engine library depth) where
  toScoped := scoped_partOf fun _ ↦ .evaluating root
  context := partOf_look _
  log := partOf_log
  visit _ := partOf_change fun machine ↦ .noted _ machine
  moveTo tree := partOf_change (.moved tree)
  frame := partOf_inFrame
  proc name inner := partOf_close fun _ _ hclosure ↦ ⟨inner, (Closure.symbolProc.inj hclosure).2.symm⟩
  capture parameters body after hafter := by
    have hclosed (chain : Chain) : (close (.block parameters body chain)).PartOf library
        (.evaluation root) := partOf_close fun _ _ hclosure ↦ by cases hclosure
    exact partOf_bind (partOf_look _) fun chain ↦ partOf_bind (hclosed chain) fun block ↦
      hafter block (Realm.within_everything block)
  evaluate site := (hdepth.evaluation site).partOf (.part root site)
  leaf := eq_nil_of_leaf
  dispatch hconstruct inner receiver _ member arguments _ block _ receiverNode :=
    (explained_sending hdepth receiver member arguments block _ receiverNode).partOf
      (.sent root receiver member arguments block inner receiverNode hconstruct)
  resolve _ name inner :=
    (explained_lookup hreads hdepth _ name _).partOf (.lookedUp root _ name inner)
  foreign _ htree := partOf_foreign hdepth htree

/-- Engines of all depths explain what they evaluate and call: one more step of depth keeps it. -/
theorem explains_engine (hreads : library.ReadsForDispatch) (depth : Nat) :
    Explains library depth := by
  induction depth with
  | zero =>
    exact ⟨fun site ↦ .of_partOf (fun _ ↦ partOf_exhaust _) rfl,
      fun _ _ _ ↦ .of_partOf (fun _ ↦ partOf_exhaust _) rfl⟩
  | succ depth ih =>
    exact ⟨fun site ↦ .of_partOf ((footing_partOf hreads ih site).step site) rfl,
      fun callee arguments block ↦ .of_partOf (partOf_callValue ih callee arguments block) rfl⟩

end Eval

end Treewalk
