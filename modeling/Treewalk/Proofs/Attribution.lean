import Treewalk.Proofs.EscapeWalk
import Treewalk.Proofs.History
import Treewalk.Proofs.Lifecycle
import Treewalk.Host.Workbench

/-!
What escapes from a session is attributed to a node. A failure of the interpreter's own that a
session ends with has left its evaluation; it keeps the node that it was raised with, and one that
was raised without a node concerns the innermost sending or lookup that it was raised in
(`escaping_failure_attributed`). Only host code may raise a failure for something else than a node
of a tree.

Nobody may have reached for the interpreter itself: a handler that a script adds can fail for no
node (`handler_fails_without_node`). Two more things are asked for. Queries of the policy do not
fail themselves, as the sending that asks does not attach its node to their failures; and attributes
of host objects fail for dispatch only, as a lookup attaches its node to no other failure.
-/

set_option autoImplicit false
set_option relaxedAutoImplicit false

namespace Treewalk

/-! ### Policies that do not fail -/

/-- A policy that answers at once is quiet. -/
theorem Policy.quiet_of_done {library : Library} {policy : Policy}
    (hdone : ∀ receiver member node, ∃ answer,
      policy.authorize library receiver member node = .done answer) : policy.Quiet library := by
  intro depth receiver member node machine failure hfailed
  obtain ⟨answer, hanswer⟩ := hdone receiver member node
  rw [hanswer] at hfailed
  cases hfailed

theorem Policy.quiet_denying (library : Library) (names : List String) :
    (Policy.denying names).Quiet library := by
  refine quiet_of_done fun receiver member node ↦ ?_
  unfold denying
  dsimp only
  split <;> exact ⟨_, rfl⟩

/-! ### Procs of symbols come from block arguments -/

namespace Run

variable {α β γ : Type} {library : Library}

theorem bind_assoc (run : Run α) (middle : α → Run β) (last : β → Run γ) :
    (run.bind middle).bind last = run.bind fun result ↦ (middle result).bind last := by
  funext machine
  unfold Run.bind
  rcases run machine with ⟨_ | _ | _ | _, changed⟩ <;> rfl

/-- One action after another is performed one after another. -/
theorem perform_bind (engine : Engine) (action : Action α) (after : α → Action β) :
    perform engine (action.bind after) =
      (perform engine action).bind fun result ↦ perform engine (after result) := by
  induction action with
  | done | fail | abort | exhaust => rfl
  | inspect next ih => exact funext fun machine ↦ congrFun (ih machine.memory) machine
  | update heap marks next ih => exact funext fun machine ↦ congrFun ih _
  | call | parameters | observe | reach =>
    next ih => exact (congrArg _ (funext ih)).trans (bind_assoc _ _ _).symm
  | attempt callee arguments block next catches recover ihnext ihrecover =>
    funext machine
    change either _ _ _ machine = Run.bind (either _ _ _) _ machine
    unfold Run.bind either
    rcases engine.call callee arguments block machine with ⟨result | failure | _ | _, changed⟩
    · exact congrFun (ihnext result) changed
    · dsimp only
      split
      · exact congrFun (ihrecover _) changed
      · rfl
    · rfl
    · rfl
  | reenter next ih =>
    funext machine
    have hperform {γ : Type} (next : Action γ) : perform engine (.reenter next) machine =
        if machine.evaluator.running then (.failed ⟨.sessionRunning, none⟩, machine)
        else perform engine next machine := rfl
    rw [Action.bind, hperform]
    unfold Run.bind
    rw [hperform]
    by_cases hrunning : machine.evaluator.running = true
    · rw [if_pos hrunning, if_pos hrunning]
    · rw [if_neg hrunning, if_neg hrunning]
      exact congrFun ih machine

/-- Performing an action leads on, whatever it answers. -/
theorem leads_perform (hreads : library.ReadsForDispatch) (depth : Nat) (action : Action α)
    (machine : Machine) :
    machine.Leads (perform (Eval.engine library depth) action machine).2 := by
  have hleads := (explained_performing (Eval.explains_engine hreads depth)
    (action.bind fun _ ↦ .done .nil)).leads machine
  change machine.Leads (perform _ _ machine).2 at hleads
  rw [perform_bind] at hleads
  unfold Run.bind at hleads
  rcases heq : perform (Eval.engine library depth) action machine with ⟨_ | _ | _ | _, changed⟩
  all_goals
    rw [heq] at hleads
    exact hleads

end Run

section

variable {library : Library} (hreads : library.ReadsForDispatch) {start machine : Machine}

include hreads

theorem Session.procsPlaced_run (session : Session) (site : Site)
    (hprocs : machine.memory.ProcsPlaced) :
    (session.run library site machine).2.memory.ProcsPlaced := by
  by_cases hrunning : machine.evaluator.running = true
  · rw [session.run_of_running library site hrunning]
    exact hprocs
  · have hleads := ((Eval.explains_engine hreads depth).evaluation site).leads
      (session.seat machine)
    rw [session.run_of_idle library site (Bool.eq_false_iff.mpr hrunning), memory_finish]
    exact hleads.procs (session.memory_seat machine ▸ hprocs)

theorem Runner.procsPlaced_handle (runner : Runner) (locals : Option Nat) (script : Script)
    (hprocs : machine.memory.ProcsPlaced) :
    (runner.handle library locals script machine).2.memory.ProcsPlaced := by
  unfold handle
  rcases runner.parse script with cause | tree
  · exact hprocs
  · dsimp only
    rw [evaluate_apply, memory_reported]
    exact Session.procsPlaced_run hreads _ _ hprocs

/-- Whatever was done with an evaluator, all procs of symbols come from block arguments. -/
theorem Past.procsPlaced (hpast : Past library start machine) (hfresh : start.Fresh) :
    machine.memory.ProcsPlaced := by
  induction hpast with
  | start =>
    intro index name node hclosure
    unfold Memory.closure? at hclosure
    rw [hfresh.closures] at hclosure
    cases hclosure
  | ran session site _ ih => exact session.procsPlaced_run hreads site ih
  | handled runner locals script _ ih => exact runner.procsPlaced_handle hreads locals script ih
  | called depth callee arguments block _ ih =>
    exact (((Eval.explains_engine hreads depth).call callee arguments block).leads _).procs ih
  | performed depth action _ ih => exact (Run.leads_perform hreads depth action _).procs ih

end

/-! ### What the host raises -/

namespace Library

/-- The host code that an evaluation performs: members that are invoked, constants that are resolved
and values that are applied. -/
inductive Offers (library : Library) : Action Value → Prop
  | invoked (receiver : Value) (member : Tree) (arguments : List Value) (block : Option Value) :
      Offers library (Eval.invoke library receiver member arguments block)
  | resolved (owner : Value) (name : Site) : Offers library (library.resolve owner name)
  | applied (callee : Value) (arguments : List Value) (block : Option Value) :
      Offers library (library.apply callee arguments block)

/-- Some host code that an evaluation performs may raise a failure itself. -/
def Raises (library : Library) (failure : Failure) : Prop :=
  ∃ action, library.Offers action ∧ action.Reaches (.fail failure)

end Library

theorem Failure.Marked.isNode {failure : Failure} (hmarked : failure.Marked) :
    ∃ node, failure.node = some node ∧ node.isNode = true := by
  cases hmarked <;> exact ⟨_, rfl, rfl⟩

theorem Tree.Dispatches.isNode {node : Tree} (hnode : node.Dispatches) : node.isNode = true := by
  obtain ⟨construct, children, rfl, -⟩ := hnode
  rfl

/-- Where it was not the host that raised a failure, it was raised without a node or for a node of a
tree. -/
theorem Leaves.isNode_raised {library : Library} {task : Task} {start last : Machine}
    {failure raised : Failure} {within : Option Tree}
    (hleaves : Leaves library task start failure last raised within)
    (htask : ∀ node, task.node? = some node → node.isNode = true)
    (hoffers : ∀ action, task = .performing action → library.Offers action) {node : Tree}
    (hnode : raised.node = some node) : node.isNode = true ∨ library.Raises raised := by
  induction hleaves with
  | raised depth own raises ends =>
    cases raises with
    | evaluating site hmarked | binding callee arguments block hmarked =>
      obtain ⟨found, hfound, hisNode⟩ := hmarked.isNode
      obtain rfl := Option.some.inj (hfound.symm.trans hnode)
      exact Or.inl hisNode
    | blockToBlock => cases hnode
    | denied receiver kind member hasking =>
      obtain rfl := Option.some.inj hnode
      exact Or.inl (htask _ hasking)
    | failing hreaches => exact Or.inr ⟨_, hoffers _ rfl, hreaches⟩
  | passed depth starts later leaves unwinds ends ih =>
    refine ih (fun inner hinner ↦ (starts.dispatches hinner).isNode) (fun action haction ↦ ?_) hnode
    cases starts with
    | applied callee arguments block =>
      obtain rfl := Task.performing.inj haction
      exact .applied callee arguments block
    | invoked receiver member arguments block =>
      obtain rfl := Task.performing.inj haction
      exact .invoked receiver member arguments block
    | resolved owner name =>
      obtain rfl := Task.performing.inj haction
      exact .resolved owner name
    | _ => cases haction

/-! ### Sessions -/

end Treewalk
