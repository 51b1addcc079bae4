import Treewalk.Proofs.ElementaryComputations
import Treewalk.Proofs.PatternFailures
import Treewalk.Proofs.Provenance

/-!
Properties of runs that are compositional. Much of what is proved of evaluation is proved by going
through the evaluator: a property holds of each run that it makes, because it holds of the steps and is
kept when runs are put together. What the property has to be closed under is the same each time, so
that it is listed once (`Run.Compositional`), and each function of the evaluator is opened once, for
all properties. A property may be about results within a realm; it need not hold of a failure of the
interpreter's own unless evaluation raises it.

Here are the functions that bind parameters and write targets.
-/

set_option autoImplicit false
set_option relaxedAutoImplicit false

namespace Treewalk

/-- Whether a run has ended with a value. -/
def Outcome.isValue {α : Type} : Outcome α → Bool
  | .value _ => true
  | _ => false

namespace Run

variable {α β : Type}

/-! ### What runs come to -/

theorem bind_apply (run : Run α) (after : α → Run β) (machine : Machine) :
    (run >>= after) machine =
      match run machine with
      | (.value result, changed) => after result changed
      | (.failed failure, changed) => (.failed failure, changed)
      | (.aborted message, changed) => (.aborted message, changed)
      | (.exhausted, changed) => (.exhausted, changed) := rfl

theorem look_bind_apply (view : Machine → α) (after : α → Run β) (machine : Machine) :
    (look view >>= after) machine = after (view machine) machine := rfl

theorem either_apply (run : Run α) (after : α → Run β) (recover : Failure → Run β)
    (machine : Machine) :
    either run after recover machine =
      match run machine with
      | (.value result, changed) => after result changed
      | (.failed failure, changed) => recover failure changed
      | (.aborted message, changed) => (.aborted message, changed)
      | (.exhausted, changed) => (.exhausted, changed) := rfl

theorem mapFailure_apply (adjust : Failure → Failure) (run : Run α) (machine : Machine) :
    mapFailure adjust run machine = match run machine with
      | (.failed failure, changed) => (.failed (adjust failure), changed)
      | other => other := rfl

theorem compute_apply (computation : Compute α) (machine : Machine) :
    compute computation machine =
      match computation.run.run machine.memory with
      | (.ok result, changed) => (.value result, { machine with memory := changed })
      | (.error cause, changed) => (.failed ⟨cause, none⟩, { machine with memory := changed }) := by
  unfold compute Machine.onMemory
  dsimp only
  rcases computation.run.run machine.memory with ⟨_ | _, _⟩ <;> rfl

theorem inFrame_apply (space : Space) (bindings : Table) (base : Option Chain) (run : Run α)
    (machine : Machine) :
    inFrame space bindings base run machine =
      ((run (machine.enter space bindings base).2).1,
        (run (machine.enter space bindings base).2).2.leave space
          (machine.enter space bindings base).1) := rfl

theorem bind_eq_either (run : Run α) (after : α → Run β) :
    run >>= after = either run after fail := by
  funext machine
  rw [bind_apply]
  unfold either
  rcases run machine with ⟨_ | _ | _ | _, changed⟩ <;> rfl

theorem rescue_eq_either (run : Run α) (recover : Failure → Run α) :
    rescue run recover = either run value recover := by
  funext machine
  unfold rescue either
  rcases run machine with ⟨_ | _ | _ | _, changed⟩ <;> rfl

theorem mapFailure_eq_either (adjust : Failure → Failure) (run : Run α) :
    mapFailure adjust run = either run value fun failure ↦ fail (adjust failure) := by
  funext machine
  unfold mapFailure either
  rcases run machine with ⟨_ | _ | _ | _, changed⟩ <;> rfl

/-! ### One run after another, whichever way the first one ends -/

/-- A run that has ended. -/
def ended (outcome : Outcome α) : Run α := fun machine ↦ (outcome, machine)

/-- What is done after a run when a value is passed on and a failure is dealt with. -/
def onEnd (after : α → Run β) (recover : Failure → Run β) : Outcome α → Run β
  | .value result => after result
  | .failed failure => recover failure
  | .aborted message => ended (.aborted message)
  | .exhausted => ended .exhausted

theorem either_eq_follow (run : Run α) (after : α → Run β) (recover : Failure → Run β) :
    either run after recover =
      fun machine ↦ onEnd after recover (run machine).1 (run machine).2 := by
  funext machine
  unfold either
  rcases run machine with ⟨_ | _ | _ | _, changed⟩ <;> rfl

end Run

/-- A rescue goes on from the body in one of two ways. -/
theorem Eval.rescued_eq_either (engine : Engine) (body : Site) (clauses : List Site)
    (otherwise : Option Site) :
    rescued engine body clauses otherwise =
      (engine.evaluate body).either
        (fun result ↦ match otherwise with
          | some site => engine.evaluate site
          | none => Run.value result)
        (fun failure ↦ match clauses with
          | [] => Run.fail failure
          | clause :: _ => (Run.log .debug .evaluator (rescueText failure)).bind fun _ ↦
              engine.evaluate clause) := by
  funext machine
  unfold rescued Run.either
  rcases engine.evaluate body machine with ⟨_ | _ | _ | _, changed⟩
  · cases otherwise <;> rfl
  · cases clauses <;> rfl
  · rfl
  · rfl

/-! ### Compositional properties -/

/-- A property that holds of runs that end at once, with a result within a realm or with a failure of
the platform, and of elementary computations within the realm; and that one run after another has when
both have it. After a failure, the failure may as well be passed on. -/
structure Run.Compositional (realm : Realm)
    (Holds : ∀ {α : Type} [Confinable α], Run α → Prop) : Prop where
  value : ∀ {α : Type} [Confinable α] {result : α}, Within realm result → Holds (Run.value result)
  refuse : ∀ {α : Type} [Confinable α] {cause : Cause}, cause.kind.isInterpreter = false →
    Holds (Run.refuse cause : Run α)
  compute : ∀ {α : Type} [Confinable α] {computation : Compute α}, computation.Elementary realm →
    Holds (Run.compute computation)
  either : ∀ {α β : Type} [Confinable α] [Confinable β] {run : Run α} {after : α → Run β}
    {recover : Failure → Run β}, Holds run →
      (∀ result, Within realm result → Holds (after result)) →
      (∀ failure, recover failure = Run.fail failure ∨ Holds (recover failure)) →
        Holds (Run.either run after recover)

/-- A property is compositional that all failures have and whatever the results are. -/
theorem Run.Compositional.of_all {Holds : ∀ {α : Type}, Run α → Prop}
    (hvalue : ∀ {α : Type} (result : α), Holds (Run.value result))
    (hfail : ∀ {α : Type} (failure : Failure), Holds (Run.fail failure : Run α))
    (hcompute : ∀ {α : Type} {computation : Compute α}, computation.Additive →
      Holds (Run.compute computation))
    (heither : ∀ {α β : Type} {run : Run α} {after : α → Run β} {recover : Failure → Run β},
      Holds run → (∀ result, Holds (after result)) → (∀ failure, Holds (recover failure)) →
        Holds (run.either after recover)) :
    Compositional .everything fun {α} [Confinable α] (run : Run α) ↦ Holds run where
  value _ := hvalue _
  refuse _ := hfail _
  compute helementary := hcompute (helementary.additive Realm.whole_everything)
  either hrun hafter hrecover := heither hrun
    (fun result ↦ hafter result (Realm.within_everything result)) fun failure ↦
      (hrecover failure).elim (fun heq ↦ heq ▸ hfail failure) id

/-- A compositional property that reading and writing variables has, and raising the failures that
evaluation raises with the node they concern. -/
structure Run.Scoped (realm : Realm) (Holds : ∀ {α : Type} [Confinable α], Run α → Prop) : Prop
    extends Run.Compositional realm Holds where
  refuseAt : ∀ {α : Type} [Confinable α] {node : Tree} {cause : Cause},
    Failure.Marked ⟨cause, some node⟩ → Holds (Run.refuseAt node cause : Run α)
  read : ∀ space name, Holds (Run.read? space name)
  write : ∀ space (name : Site) {item : Value}, Within realm item →
    Holds (Run.write space name.toName item)

namespace Run

variable {realm : Realm} {Holds : ∀ {α : Type} [Confinable α], Run α → Prop}

namespace Compositional

section

variable {α β : Type} [Confinable α] [Confinable β] (hholds : Compositional realm Holds)

include hholds

theorem pure {result : α} (hresult : Within realm result) : Holds (Pure.pure result : Run α) :=
  hholds.value hresult

theorem bind {run : Run α} {after : α → Run β} (hrun : Holds run)
    (hafter : ∀ result, Within realm result → Holds (after result)) : Holds (run >>= after) :=
  bind_eq_either run after ▸ hholds.either hrun hafter fun _ ↦ Or.inl rfl

theorem map {f : α → β} (hf : ∀ item, Within realm item → Within realm (f item)) {run : Run α}
    (hrun : Holds run) : Holds (f <$> run) :=
  hholds.bind hrun fun result hresult ↦ hholds.pure (hf result hresult)

theorem rescue {run : Run α} {recover : Failure → Run α} (hrun : Holds run)
    (hrecover : ∀ failure, recover failure = fail failure ∨ Holds (recover failure)) :
    Holds (run.rescue recover) :=
  rescue_eq_either run recover ▸ hholds.either hrun (fun _ hresult ↦ hholds.value hresult) hrecover

theorem newList {items : List Value} (hitems : Within realm items) : Holds (newList items) :=
  hholds.compute (.newList hitems)

theorem toSequence {item : Value} (hitem : Within realm item) : Holds (Run.compute item.toSequence) :=
  hholds.compute (.toSequence hitem)

theorem newSymbol (name : String) : Holds (Run.compute (Compute.newSymbol name)) :=
  hholds.compute (.newSymbol name)

end

/-! ### Parameters and targets -/

mutual

theorem bindParameters (hholds : Compositional realm Holds)
    (hunsupported : ∀ tag children,
      Holds (refuseAt (.node tag children) (.unsupportedConstruct tag) : Run Table))
    (mark : Mark) (place : Nat) (parameters : List Tree) {values : List Value}
    (hvalues : Within realm values) {table : Table} (htable : Within realm table) :
    Holds (bindParameters mark place parameters values table) := by
  match parameters with
  | [] => exact hholds.value htable
  | .leaf _ :: _ => exact hholds.refuse rfl
  | .node tag children :: rest =>
    unfold Run.bindParameters
    split
    · exact hholds.bind (hholds.newList hvalues) fun _ hlist ↦
        hholds.bind (bindParameter hholds hunsupported _ _ hlist htable) fun _ hbound ↦
          bindParameters hholds hunsupported _ _ rest within_nil hbound
    · have hfirst : Within realm (values.headD .nil) := within_headD hvalues within_nothing
      exact hholds.bind (bindParameter hholds hunsupported _ _ hfirst htable) fun _ hbound ↦
        bindParameters hholds hunsupported _ _ rest
          (within_of_subset (List.tail_sublist _).subset hvalues) hbound

theorem bindParameter (hholds : Compositional realm Holds)
    (hunsupported : ∀ tag children,
      Holds (refuseAt (.node tag children) (.unsupportedConstruct tag) : Run Table))
    (mark : Mark) (parameter : Tree) {item : Value} (hitem : Within realm item) {table : Table}
    (htable : Within realm table) : Holds (bindParameter mark parameter item table) := by
  match parameter with
  | .leaf _ => exact hholds.refuse rfl
  | .node tag children =>
    have hinsert (name : Site) : Within realm (table.insert name.key name.toValue item) :=
      within_insert htable _ (within_toValue name) hitem
    have hitems : Holds (Run.compute item.toSequence >>= fun items ↦
        Run.bindParameters mark 0 children items table) :=
      hholds.bind (hholds.toSequence hitem) fun _ hitems ↦
        bindParameters hholds hunsupported _ _ children hitems htable
    unfold Run.bindParameter
    split
    · split
      · exact hholds.value htable
      · exact hholds.value (hinsert _)
    · split
      · split
        · exact hholds.refuse rfl
        · split
          · split
            · exact bindParameters hholds hunsupported _ _ children (within_singleton hitem) htable
            · exact hitems
          · exact hholds.value (hinsert _)
      · split
        · exact hitems
        · exact hunsupported tag children

end

theorem innerName (hholds : Compositional realm Holds) (target : Site) : Holds (innerName target) := by
  unfold Run.innerName
  split
  · exact hholds.value within_nothing
  · exact hholds.refuse rfl
  · split
    · exact hholds.refuse rfl
    · exact hholds.value (within_toValue _)

mutual

theorem targetNames (hholds : Compositional realm Holds) (mark : Mark) (place : Nat)
    (targets : List Tree) : Holds (targetNames mark place targets) := by
  match targets with
  | [] => exact hholds.value within_nil
  | target :: rest =>
    unfold Run.targetNames
    exact hholds.bind (targetName hholds _ target) fun _ hfirst ↦
      hholds.bind (targetNames hholds _ _ rest) fun _ hothers ↦
        hholds.pure (within_cons hfirst hothers)

theorem targetName (hholds : Compositional realm Holds) (mark : Mark) (target : Tree) :
    Holds (targetName mark target) := by
  match target with
  | .leaf _ => exact hholds.refuse rfl
  | .node tag children =>
    unfold Run.targetName
    split
    · exact hholds.bind (targetNames hholds _ _ children) fun _ hnames ↦ hholds.newList hnames
    · split
      · exact hholds.value within_nothing
      · split
        · exact hholds.innerName _
        · exact hholds.value (within_toValue _)

end

end Compositional

namespace Scoped

mutual

theorem assignAll (hholds : Scoped realm Holds) (mark : Mark) (place : Nat) (targets : List Tree)
    {values : List Value} (hvalues : Within realm values) :
    Holds (assignAll mark place targets values) := by
  match targets with
  | [] => exact hholds.value trivial
  | .leaf _ :: _ => exact hholds.refuse rfl
  | .node tag children :: rest =>
    unfold Run.assignAll
    split
    · exact hholds.bind (hholds.newList hvalues) fun _ hlist ↦
        hholds.bind (assign hholds _ _ hlist) fun _ _ ↦ assignAll hholds _ _ rest within_nil
    · exact hholds.bind (assign hholds _ _ (within_headD hvalues within_nothing)) fun _ _ ↦
        assignAll hholds _ _ rest (within_of_subset (List.tail_sublist _).subset hvalues)

theorem assign (hholds : Scoped realm Holds) (mark : Mark) (target : Tree) {item : Value}
    (hitem : Within realm item) : Holds (assign mark target item) := by
  match target with
  | .leaf _ => exact hholds.refuse rfl
  | .node tag children =>
    unfold Run.assign
    split
    · split
      · exact hholds.refuse rfl
      · exact hholds.write _ _ hitem
    · split
      · split
        · exact hholds.refuse rfl
        · exact hholds.write _ _ hitem
      · split
        · match children with
          | [] => exact hholds.value trivial
          | inner :: _ => exact assign hholds _ inner hitem
        · split
          · exact hholds.bind (hholds.toSequence hitem) fun _ hitems ↦
              assignAll hholds _ _ children hitems
          · exact hholds.refuseAt (.unsupportedConstruct tag children)

end

theorem destructure (hholds : Scoped realm Holds) (pattern : Site) {item : Value}
    (hitem : Within realm item) : Holds (destructure pattern item) := by
  unfold Run.destructure
  split
  · exact hholds.refuse rfl
  · exact hholds.bind (hholds.toSequence hitem) fun _ hitems ↦ hholds.assignAll _ _ _ hitems

end Scoped

end Run

end Treewalk
