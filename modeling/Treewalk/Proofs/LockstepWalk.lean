import Treewalk.Proofs.Lockstep

/-!
The evaluator is in lockstep with itself. To be in step is a compositional property, so that it is
enough to see that the steps are (`Eval.footing_inStep`). They are on this ground (`Eval.Ground`):
an engine that is in step, a library that stays within the realm, and queries to the policy and
traces of dispatches that are in step. `Eval.inStep_engine` climbs from the engine that can do
nothing to an engine of any depth.
-/

set_option autoImplicit false
set_option relaxedAutoImplicit false

namespace Treewalk

namespace Eval

open Run

/-- What the evaluator stands on. -/
structure Ground (pairing : Pairing) (library : Library) (engine : Engine) : Prop where
  inStep : engine.InStep pairing
  confined : library.Confined pairing.realm
  authorize : ∀ receiver member node, Within pairing.realm receiver →
    (authorize library engine receiver member node).InStep pairing
  trace : ∀ receiver member arguments block receiverNode,
    (trace receiver member arguments block receiverNode).InStep pairing

variable {pairing : Pairing} {library : Library} {engine : Engine}

/-! ### Steps -/

/-- Where one threshold holds for both machines, both print the receiver or neither does. -/
theorem inStep_trace (hsame : pairing.left.threshold = pairing.right.threshold) (receiver : Value)
    (member : Tree) (arguments : List Value) (block : Option Value) (receiverNode : Tree) :
    (trace receiver member arguments block receiverNode).InStep pairing := by
  refine inStep_bind (inStep_look fun left right hcoupled ↦ ⟨hcoupled.threshold hsame, trivial⟩)
    fun threshold _ ↦ ?_
  split
  · refine inStep_look_bind (fun _ ↦ True) (fun left right hcoupled ↦ ?_) (fun _ _ ↦ trivial)
      fun text _ ↦ ?_
    · exact ⟨by rw [hcoupled.memory], trivial⟩
    · split
      · exact inStep_log _ _ _
      · exact inStep_bind (inStep_note _) fun _ _ ↦ inStep_refuse _
  · exact inStep_pure trivial

/-- A context is a thing of the realm, and the same on both sides. -/
theorem inStep_context : (look (·.evaluator.context)).InStep pairing :=
  inStep_look fun _ _ hcoupled ↦ ⟨by rw [hcoupled.evaluator], hcoupled.context⟩

/-- The chain that a block captures is one of frames of the realm. -/
theorem inStep_attached (parameters body : Site) {after : Value → Run Value}
    (hafter : ∀ block, Within pairing.realm block → (after block).InStep pairing) :
    (look (·.evaluator.locals) >>= fun chain ↦ close (.block parameters body chain) >>= after).InStep
      pairing :=
  inStep_look_bind (fun chain ↦ ∀ number ∈ chain, pairing.realm.frame number)
    (fun _ _ hcoupled ↦ ⟨hcoupled.chain .locals, hcoupled.chains .locals⟩)
    (fun hwhole _ number _ ↦ hwhole.frame number) fun _ hchain ↦
      inStep_bind (inStep_close hchain) hafter

/-- The states of the evaluators need not be the same where a visit is noted. -/
theorem inStep_visit (tree : Tree) : (visit tree).InStep pairing :=
  inStep_change (fun _ ↦ ⟨List.suffix_cons _ _, List.prefix_rfl⟩) fun _ _ hcoupled ↦
    hcoupled.passed rfl rfl

theorem inStep_moveTo (tree : Tree) : (moveTo tree).InStep pairing :=
  inStep_change (fun _ ↦ ⟨List.suffix_rfl, List.prefix_rfl⟩) fun _ _ hcoupled ↦
    hcoupled.moved tree

section

variable (hground : Ground pairing library engine)

include hground

theorem inStep_dispatch {receiver : Value} (hreceiver : Within pairing.realm receiver)
    (member : Tree) {arguments : List Value} (harguments : Within pairing.realm arguments)
    {block : Option Value} (hblock : Within pairing.realm block) (node receiverNode : Tree) :
    (dispatch library engine receiver member arguments block node receiverNode).InStep pairing :=
  inStep_bind (hground.authorize receiver member node hreceiver) fun _ _ ↦
    inStep_bind (hground.trace _ _ _ _ _) fun _ _ ↦
      inStep_mapFailure _ <| inStep_bind (inStep_note _) fun _ _ ↦
        inStep_perform hground.inStep
          ((hground.confined.carries _).invoke harguments hblock (Nat.le_refl _) hreceiver member)

theorem inStep_resolve {owner : Value} (howner : Within pairing.realm owner) (name : Site)
    (node : Tree) : (resolve library engine owner name node).InStep pairing :=
  inStep_bind (hground.authorize owner name.tree node howner) fun _ _ ↦
    inStep_mapFailure _ <| inStep_bind (inStep_note _) fun _ _ ↦
      inStep_perform hground.inStep ((hground.confined.carries 0).resolve howner name)

theorem inStep_callBlock (parameters body : Site) {chain : Chain}
    (hchain : ∀ number ∈ chain, pairing.realm.frame number) {arguments : List Value}
    (harguments : Within pairing.realm arguments) :
    (callBlock engine parameters body chain arguments).InStep pairing := by
  have hbound : (bindArguments parameters arguments).InStep pairing :=
    holds_bindArguments (scoped_inStep pairing).toCompositional (fun _ _ ↦ inStep_refuseAt _ _)
      parameters harguments
  refine inStep_bind hbound fun bindings hbindings ↦
    inStep_inFrame _ hbindings ?_ (hground.inStep.evaluate body)
  rintro _ ⟨⟩
  exact hchain

/-- A closure of the realm captured frames of the realm. -/
theorem inStep_callValue {callee : Value} (hcallee : Within pairing.realm callee)
    {arguments : List Value} (harguments : Within pairing.realm arguments)
    {block : Option Value} (hblock : Within pairing.realm block) :
    (callValue library engine callee arguments block).InStep pairing := by
  unfold callValue
  split
  · next index =>
    refine inStep_bind (inStep_look fun left right hcoupled ↦ ?_) fun found hfound ↦ ?_
    · exact ⟨by rw [hcoupled.memory], hcoupled.within.closures index hcallee⟩
    · split
      · split
        · exact inStep_refuse _
        · exact inStep_callBlock hground _ _ (hfound _ rfl) harguments
      · split
        · exact inStep_refuse _
        · exact inStep_dispatch hground (within_head harguments) _ (within_tail harguments)
            hblock _ _
      · exact inStep_refuse _
  · exact inStep_perform hground.inStep
      ((hground.confined.carries _).apply harguments hblock (Nat.le_refl _) hcallee)

/-- The handlers are things of the realm, and the same on both sides. -/
theorem inStep_foreign (tag : String) (site : Site) :
    (foreign library engine tag site).InStep pairing := by
  refine inStep_look_bind (fun handlers ↦ Within pairing.realm handlers)
    (fun _ _ hcoupled ↦ ⟨hcoupled.handlers, hcoupled.handled⟩)
    (fun hwhole _ ↦ within_of_whole hwhole _) fun handlers hhandlers ↦ ?_
  split
  · exact inStep_refuseAt _ _
  · next handler hfound =>
    exact inStep_bind (inStep_moveTo _) fun _ _ ↦
      inStep_callValue hground (within_lookup hhandlers tag handler hfound)
        (within_singleton (within_toValue site)) within_none

end

/-- On ground that is in step evaluation is. -/
theorem footing_inStep {depth : Nat} (hground : Ground pairing library (Eval.engine library depth)) :
    Footing pairing.realm (fun {α} [Confinable α] (run : Run α) ↦ run.InStep pairing) library
      (Eval.engine library depth) where
  toScoped := scoped_inStep pairing
  context := inStep_context
  log := inStep_log
  visit := inStep_visit
  moveTo := inStep_moveTo
  frame := inStep_inNewFrame _ within_nil
  proc _ _ := inStep_close trivial
  capture := inStep_attached
  evaluate := hground.inStep.evaluate
  leaf := eq_nil_of_leaf
  dispatch _ _ _ hreceiver member _ harguments _ hblock receiverNode :=
    inStep_dispatch hground hreceiver member harguments hblock _ receiverNode
  resolve howner name _ := inStep_resolve hground howner name _
  foreign _ _ := inStep_foreign hground _ _

/-- An engine of any depth is in step, as soon as requests and traces are, and the queries to the policy
on top of an engine that is. -/
theorem inStep_engine (hlibrary : library.Confined pairing.realm)
    (hreach : ∀ {receiver : Value}, Within pairing.realm receiver → ∀ name
      {arguments : Option (List Value)}, Within pairing.realm arguments →
        (Run.reach receiver name arguments).InStep pairing)
    (htrace : ∀ receiver member arguments block receiverNode,
      (trace receiver member arguments block receiverNode).InStep pairing)
    (hauthorize : ∀ depth, (Eval.engine library depth).InStep pairing →
      ∀ receiver member node, Within pairing.realm receiver →
        (authorize library (Eval.engine library depth) receiver member node).InStep pairing)
    (depth : Nat) : (Eval.engine library depth).InStep pairing := by
  induction depth with
  | zero => exact ⟨hreach, fun _ ↦ inStep_exhaust, fun _ _ _ _ _ _ ↦ inStep_exhaust⟩
  | succ depth ih =>
    have hground : Ground pairing library (Eval.engine library depth) :=
      ⟨ih, hlibrary, hauthorize depth ih, htrace⟩
    exact ⟨hreach, (footing_inStep hground).step, fun _ _ _ hcallee harguments hblock ↦
      inStep_callValue hground hcallee harguments hblock⟩

end Eval

end Treewalk
