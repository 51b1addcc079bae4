import Treewalk.Proofs.Walk

/-!
How failures of the interpreter's own escape from the parts of a task. A part either raises a
failure that the task can raise, or passes on one that has left a task which it can start.
`Run.PartOf` says so of a run, and putting runs together keeps it; what fails for a reason of the
platform is a part of every task. A task whose run is a part of it is explained (`Task.Explained`):
whatever it ends with has left it.
-/

set_option autoImplicit false
set_option relaxedAutoImplicit false

namespace Treewalk

/-! ### Machines on the way -/

/-- Every proc of a symbol comes from a block argument. -/
def Memory.ProcsPlaced (memory : Memory) : Prop :=
  ∀ index name node, memory.closure? index = some (.symbolProc name node) →
    ∃ children, node = .node Construct.blockPass.tag children

/-- No query of a policy fails for a reason of the interpreter's own. -/
def Policy.Quiet (library : Library) (policy : Policy) : Prop :=
  ∀ depth receiver member node machine failure,
    (Run.perform (Eval.engine library depth) (policy.authorize library receiver member node)
      machine).1 = .failed failure → failure.isInterpreter = false

/-- A machine from which up to another one the failures of sendings and lookups can be told. -/
structure Machine.Sound (library : Library) (machine last : Machine) : Prop where
  procs : machine.memory.ProcsPlaced
  quiet : machine.evaluator.policy.Quiet library
  handlers : machine.handlers = []
  unreached : machine.Unreached last

/-- A machine leads to another one. -/
structure Machine.Leads (before after : Machine) : Prop extends before.Precedes after where
  policy : after.evaluator.policy = before.evaluator.policy
  procs : before.memory.ProcsPlaced → after.memory.ProcsPlaced

namespace Machine

namespace Leads

variable {first middle last : Machine}

theorem refl (machine : Machine) : machine.Leads machine := ⟨.refl machine, rfl, id⟩

theorem trans (hfirst : first.Leads middle) (hlast : middle.Leads last) : first.Leads last :=
  ⟨hfirst.toPrecedes.trans hlast.toPrecedes, hlast.policy.trans hfirst.policy,
    hlast.procs ∘ hfirst.procs⟩

theorem noted (event : Event) (machine : Machine) : machine.Leads (machine.noted event) :=
  ⟨⟨List.suffix_cons _ _, fun _ ↦ rfl⟩, rfl, id⟩

theorem moved (tree : Tree) (machine : Machine) :
    machine.Leads { machine with evaluator := { machine.evaluator with current := some tree } } :=
  ⟨.of_eq rfl rfl, rfl, id⟩

/-- What can be told up to the last machine can be told up to one in between, and from there on. -/
theorem split {library : Library} (hfirst : first.Leads middle) (hlast : middle.Leads last)
    (hsound : first.Sound library last) :
    first.Sound library middle ∧ middle.Sound library last := by
  obtain ⟨hbefore, hafter⟩ := hsound.unreached.split hfirst.events hlast.events
  exact ⟨{ hsound with unreached := hbefore },
    { procs := hfirst.procs hsound.procs
      quiet := hfirst.policy ▸ hsound.quiet
      handlers := (hfirst.handlers hbefore).trans hsound.handlers
      unreached := hafter }⟩

/-- The closures are what matters of memory. -/
theorem of_closures {machine : Machine} {memory : Memory}
    (hclosures : memory.closures = machine.memory.closures) :
    machine.Leads { machine with memory := memory } := by
  refine ⟨.of_eq rfl rfl, rfl, fun hprocs index name node hclosure ↦ ?_⟩
  refine hprocs index name node ?_
  unfold Memory.closure? at hclosure ⊢
  rwa [hclosures] at hclosure

theorem enter (machine : Machine) (space : Space) (bindings : Table) (base : Option Chain) :
    machine.Leads (machine.enter space bindings base).2 where
  events := machine.events_enter space bindings base ▸ List.suffix_cons _ _
  handlers _ := machine.handlers_enter space bindings base
  policy := by rw [machine.evaluator_enter, Evaluator.policy_withChain]
  procs hprocs := machine.memory_enter space bindings base ▸ hprocs

theorem leave (machine : Machine) (space : Space) (entered : Entered) :
    machine.Leads (machine.leave space entered) :=
  ⟨.of_eq rfl rfl, Evaluator.policy_withChain _ _ _, id⟩

end Leads

namespace Unwinds

theorem refl (machine : Machine) : machine.Unwinds machine := ⟨rfl, rfl, rfl⟩

theorem leave {inner outer : Machine} (hunwinds : inner.Unwinds outer) (space : Space)
    (entered : Entered) : inner.Unwinds (outer.leave space entered) :=
  ⟨hunwinds.events, hunwinds.memory, hunwinds.frames⟩

end Unwinds

end Machine

/-- The failure that an outcome is. -/
def Outcome.failure? {α : Type} : Outcome α → Option Failure
  | failed failure => some failure
  | _ => none

/-! ### Parts of a task -/

/-- A failure escapes from a part of a task: the part raised it, or it has left a task inside. -/
inductive Escapes (library : Library) (task : Task) (start : Machine) (failure : Failure)
    (last : Machine) : Prop where
  | raised : task.Raises library failure → Escapes library task start failure last
  | passed {sub : Task} {inner outer : Machine} {raised : Failure} {within : Option Tree} :
      task.Starts library sub → start.events <:+ inner.events →
        Leaves library sub inner failure outer raised within → outer.Unwinds last →
          Escapes library task start failure last

namespace Escapes

variable {library : Library} {task : Task} {failure : Failure}

theorem earlier {first middle last : Machine} (hescapes : Escapes library task middle failure last)
    (hleads : first.Leads middle) : Escapes library task first failure last := by
  cases hescapes with
  | raised hraises => exact .raised hraises
  | passed hstarts hlater hleaves hunwinds =>
    exact .passed hstarts (hleads.events.trans hlater) hleaves hunwinds

theorem leave {start last : Machine} (hescapes : Escapes library task start failure last)
    (space : Space) (entered : Entered) :
    Escapes library task start failure (last.leave space entered) := by
  cases hescapes with
  | raised hraises => exact .raised hraises
  | passed hstarts hlater hleaves hunwinds =>
    exact .passed hstarts hlater hleaves (hunwinds.leave space entered)

/-- What escapes from a task has left it. -/
theorem leaves {start last : Machine} (hescapes : Escapes library task start failure last)
    (hown : failure.isInterpreter = true) {depth : Nat}
    (hends : task.run library depth start = (.failed (task.locate failure), last)) :
    ∃ raised within, Leaves library task start (task.locate failure) last raised within := by
  cases hescapes with
  | raised hraises => exact ⟨_, _, .raised depth hown hraises hends⟩
  | passed hstarts hlater hleaves hunwinds =>
    exact ⟨_, _, .passed depth hstarts hlater hleaves hunwinds hends⟩

end Escapes

/-- On this machine a run is a part of a task: the failures of the interpreter's own that it ends
with escape from it. -/
structure Run.PartAt {α : Type} (library : Library) (task : Task) (run : Run α)
    (machine : Machine) : Prop where
  leads : machine.Leads (run machine).2
  escapes : machine.Sound library (run machine).2 → ∀ failure, (run machine).1 = .failed failure →
    failure.isInterpreter = true → Escapes library task machine failure (run machine).2

/-- A run that is a part of a task on every machine. -/
def Run.PartOf {α : Type} (library : Library) (task : Task) (run : Run α) : Prop :=
  ∀ machine, run.PartAt library task machine

/-- On this machine the failures of the interpreter's own that a run ends with escape from a task,
and then are given its node. -/
structure Run.PlacedAt {α : Type} (library : Library) (task : Task) (run : Run α)
    (machine : Machine) : Prop where
  leads : machine.Leads (run machine).2
  escapes : machine.Sound library (run machine).2 → ∀ failure, (run machine).1 = .failed failure →
    failure.isInterpreter = true →
      ∃ inner, Escapes library task machine inner (run machine).2 ∧ failure = task.locate inner

/-- The failures of the interpreter's own that a task ends with at a depth leave it. -/
structure Task.Explained (library : Library) (depth : Nat) (task : Task) : Prop where
  leads : ∀ machine : Machine, machine.Leads (task.run library depth machine).2
  leaves : ∀ (machine : Machine) (failure : Failure),
    machine.Sound library (task.run library depth machine).2 →
    (task.run library depth machine).1 = .failed failure → failure.isInterpreter = true →
      ∃ raised within,
        Leaves library task machine failure (task.run library depth machine).2 raised within

namespace Task.Explained

variable {library : Library} {depth : Nat} {task sub : Task}

/-- A task is a part of the task that starts it. -/
theorem partOf (hsub : sub.Explained library depth) (hstarts : task.Starts library sub) :
    (sub.run library depth).PartOf library task := by
  refine fun machine ↦ ⟨hsub.leads machine, fun hsound failure hfailed hown ↦ ?_⟩
  obtain ⟨raised, within, hleaves⟩ := hsub.leaves machine failure hsound hfailed hown
  exact .passed hstarts List.suffix_rfl hleaves (.refl _)

/-- A task whose run is placed by it. -/
theorem of_placed (hplaced : ∀ machine, (task.run library depth).PlacedAt library task machine) :
    task.Explained library depth := by
  refine ⟨fun machine ↦ (hplaced machine).leads, fun machine failure hsound hfailed hown ↦ ?_⟩
  obtain ⟨inner, hescapes, rfl⟩ := (hplaced machine).escapes hsound failure hfailed hown
  rw [isInterpreter_locate] at hown
  exact hescapes.leaves hown (by rw [← hfailed])

/-- A task that has no node, and whose run is a part of it. -/
theorem of_partOf (hpart : (task.run library depth).PartOf library task)
    (hnode : task.node? = none) : task.Explained library depth := by
  refine of_placed fun machine ↦ ⟨(hpart machine).leads, fun hsound failure hfailed hown ↦ ?_⟩
  refine ⟨failure, (hpart machine).escapes hsound failure hfailed hown, ?_⟩
  unfold locate
  rw [hnode]

end Task.Explained

namespace Run

variable {α β : Type} {library : Library} {task : Task}

/-! ### Putting parts together -/

/-- A run without a failure of the interpreter's own is a part of every task. -/
theorem partAt_of_leads {run : Run α} {machine : Machine} (hleads : machine.Leads (run machine).2)
    (hforeign : ∀ failure, (run machine).1 = .failed failure → failure.isInterpreter = false) :
    run.PartAt library task machine := by
  refine ⟨hleads, fun _ failure hfailed hown ↦ ?_⟩
  rw [hforeign failure hfailed] at hown
  cases hown

/-- A run that does not fail is a part of every task. -/
theorem partAt_of_unfailed {run : Run α} {machine changed : Machine} {outcome : Outcome α}
    (hrun : run machine = (outcome, changed)) (hleads : machine.Leads changed)
    (hunfailed : outcome.failure? = none) : run.PartAt library task machine := by
  refine ⟨by rw [hrun]; exact hleads, fun _ failure hfailed ↦ ?_⟩
  rw [hrun] at hfailed
  rw [show outcome = .failed failure from hfailed] at hunfailed
  cases hunfailed

/-- A run that goes on as another run from a machine that this one leads to. -/
theorem partAt_after {run next : Run α} {machine changed : Machine}
    (hleads : machine.Leads changed) (hnext : next.PartAt library task changed)
    (hrun : run machine = next changed) : run.PartAt library task machine := by
  obtain ⟨hleads', hescapes⟩ := hnext
  rw [← hrun] at hleads' hescapes
  refine ⟨hleads.trans hleads', fun hsound failure hfailed hown ↦ ?_⟩
  exact (hescapes (hleads.split hleads' hsound).2 failure hfailed hown).earlier hleads

/-- Only on a sound machine does it matter where failures come from. -/
theorem partAt_of_sound {run : Run α} {machine : Machine} (hleads : machine.Leads (run machine).2)
    (hpart : machine.Sound library (run machine).2 → run.PartAt library task machine) :
    run.PartAt library task machine :=
  ⟨hleads, fun hsound ↦ (hpart hsound).escapes hsound⟩

theorem partOf_value (result : α) : (value result).PartOf library task :=
  fun machine ↦ partAt_of_unfailed rfl (.refl machine) rfl

theorem partOf_exhaust : (exhaust : Run α).PartOf library task :=
  fun machine ↦ partAt_of_unfailed rfl (.refl machine) rfl

theorem partOf_abort (message : String) : (abort message : Run α).PartOf library task :=
  fun machine ↦ partAt_of_unfailed rfl (.noted _ machine) rfl

theorem partOf_look (view : Machine → α) : (look view).PartOf library task :=
  fun machine ↦ partAt_of_unfailed rfl (.refl machine) rfl

theorem partOf_change {update : Machine → Machine}
    (hupdate : ∀ machine : Machine, machine.Leads (update machine)) :
    (change update).PartOf library task :=
  fun machine ↦ partAt_of_unfailed rfl (hupdate machine) rfl

theorem partOf_fail {failure : Failure}
    (hraises : failure.isInterpreter = true → task.Raises library failure) :
    (fail failure : Run α).PartOf library task := by
  refine fun machine ↦ ⟨.refl machine, fun _ found hfailed hown ↦ ?_⟩
  obtain rfl := Outcome.failed.inj hfailed
  exact .raised (hraises hown)

theorem partOf_refuse {cause : Cause} (hcause : cause.kind.isInterpreter = false) :
    (refuse cause : Run α).PartOf library task := by
  refine partOf_fail fun hown ↦ ?_
  rw [Failure.isInterpreter, hcause] at hown
  cases hown

theorem partOf_refuseAt {node : Tree} {cause : Cause}
    (hraises : task.Raises library ⟨cause, some node⟩) :
    (refuseAt node cause : Run α).PartOf library task :=
  partOf_fail fun _ ↦ hraises

theorem partAt_bind {run : Run α} {after : α → Run β} {machine : Machine}
    (hrun : run.PartAt library task machine)
    (hafter : ∀ result changed, run machine = (.value result, changed) →
      (after result).PartAt library task changed) :
    (run >>= after).PartAt library task machine := by
  obtain ⟨hleads, hescapes⟩ := hrun
  have happly := bind_apply run after machine
  rcases heq : run machine with ⟨outcome, changed⟩
  rw [heq] at hleads hescapes happly
  cases outcome with
  | value result => exact partAt_after hleads (hafter result changed heq) happly
  | failed found =>
    refine ⟨happly ▸ hleads, fun hsound failure hfailed hown ↦ ?_⟩
    rw [happly] at hsound hfailed ⊢
    obtain rfl := Outcome.failed.inj hfailed
    exact hescapes hsound found rfl hown
  | aborted message => exact partAt_of_unfailed happly hleads rfl
  | exhausted => exact partAt_of_unfailed happly hleads rfl

theorem partOf_bind {run : Run α} {after : α → Run β} (hrun : run.PartOf library task)
    (hafter : ∀ result, (after result).PartOf library task) :
    (run >>= after).PartOf library task :=
  fun machine ↦ partAt_bind (hrun machine) fun result changed _ ↦ hafter result changed

theorem placedAt_of_unfailed {run : Run α} {machine changed : Machine} {outcome : Outcome α}
    (hrun : run machine = (outcome, changed)) (hleads : machine.Leads changed)
    (hunfailed : outcome.failure? = none) : run.PlacedAt library task machine := by
  refine ⟨by rw [hrun]; exact hleads, fun _ failure hfailed ↦ ?_⟩
  rw [hrun] at hfailed
  rw [show outcome = .failed failure from hfailed] at hunfailed
  cases hunfailed

theorem placedAt_after {run next : Run α} {machine changed : Machine}
    (hleads : machine.Leads changed) (hnext : next.PlacedAt library task changed)
    (hrun : run machine = next changed) : run.PlacedAt library task machine := by
  obtain ⟨hleads', hescapes⟩ := hnext
  rw [← hrun] at hleads' hescapes
  refine ⟨hleads.trans hleads', fun hsound failure hfailed hown ↦ ?_⟩
  obtain ⟨inner, hinner, hlocated⟩ := hescapes (hleads.split hleads' hsound).2 failure hfailed hown
  exact ⟨inner, hinner.earlier hleads, hlocated⟩

/-- What fails before the last part has to concern a node. -/
theorem placedAt_bind {run : Run α} {after : α → Run β} {machine : Machine}
    (hrun : run.PartAt library task machine)
    (hnamed : machine.Sound library (run machine).2 → ∀ failure, (run machine).1 = .failed failure →
      failure.isInterpreter = true → failure.node.isSome = true)
    (hafter : ∀ result changed, run machine = (.value result, changed) →
      (after result).PlacedAt library task changed) :
    (run >>= after).PlacedAt library task machine := by
  obtain ⟨hleads, hescapes⟩ := hrun
  have happly := bind_apply run after machine
  rcases heq : run machine with ⟨outcome, changed⟩
  rw [heq] at hleads hescapes hnamed happly
  cases outcome with
  | value result => exact placedAt_after hleads (hafter result changed heq) happly
  | failed found =>
    refine ⟨happly ▸ hleads, fun hsound failure hfailed hown ↦ ?_⟩
    rw [happly] at hsound hfailed ⊢
    obtain rfl := Outcome.failed.inj hfailed
    have hsome := hnamed hsound found rfl hown
    exact ⟨found, hescapes hsound found rfl hown, (task.locate_of_isSome hsome).symm⟩
  | aborted message => exact placedAt_of_unfailed happly hleads rfl
  | exhausted => exact placedAt_of_unfailed happly hleads rfl

/-- What escapes from the last part is given the node of the task. -/
theorem placedAt_mapFailure {adjust : Failure → Failure} {run : Run α} {machine : Machine}
    (hrun : run.PartAt library task machine)
    (hkind : ∀ failure, (adjust failure).isInterpreter = failure.isInterpreter)
    (hadjust : ∀ failure, Escapes library task machine failure (run machine).2 →
      failure.isInterpreter = true → adjust failure = task.locate failure) :
    (mapFailure adjust run).PlacedAt library task machine := by
  obtain ⟨hleads, hescapes⟩ := hrun
  have happly := mapFailure_apply adjust run machine
  rcases heq : run machine with ⟨outcome, changed⟩
  rw [heq] at hleads hescapes hadjust happly
  cases outcome with
  | failed found =>
    refine ⟨happly ▸ hleads, fun hsound failure hfailed hown ↦ ?_⟩
    rw [happly] at hsound hfailed ⊢
    obtain rfl := Outcome.failed.inj hfailed
    rw [hkind] at hown
    have hfound := hescapes hsound found rfl hown
    exact ⟨found, hfound, hadjust found hfound hown⟩
  | value result => exact placedAt_of_unfailed happly hleads rfl
  | aborted message => exact placedAt_of_unfailed happly hleads rfl
  | exhausted => exact placedAt_of_unfailed happly hleads rfl

/-- One run after another, whether it ended with a value or with a failure; a failure may be passed
on. -/
theorem partOf_either {run : Run α} {after : α → Run β} {recover : Failure → Run β}
    (hrun : run.PartOf library task) (hafter : ∀ result, (after result).PartOf library task)
    (hrecover : ∀ failure,
      recover failure = fail failure ∨ (recover failure).PartOf library task) :
    (either run after recover).PartOf library task := by
  intro machine
  obtain ⟨hleads, hescapes⟩ := hrun machine
  have happly := either_apply run after recover machine
  rcases heq : run machine with ⟨outcome, changed⟩
  rw [heq] at hleads hescapes happly
  cases outcome with
  | value result => exact partAt_after hleads (hafter result changed) happly
  | failed found =>
    rcases hrecover found with hfail | hpart
    · replace happly : either run after recover machine = (.failed found, changed) :=
        happly.trans (congrFun hfail changed)
      refine ⟨happly ▸ hleads, fun hsound failure hfailed hown ↦ ?_⟩
      rw [happly] at hsound hfailed ⊢
      obtain rfl := Outcome.failed.inj hfailed
      exact hescapes hsound found rfl hown
    · exact partAt_after hleads (hpart changed) happly
  | aborted message => exact partAt_of_unfailed happly hleads rfl
  | exhausted => exact partAt_of_unfailed happly hleads rfl

/-- An elementary computation only adds to memory and fails for reasons of the platform only. -/
theorem partOf_compute [Confinable α] {computation : Compute α}
    (helementary : computation.Elementary .everything) :
    (compute computation).PartOf library task := by
  intro machine
  have hclosures := (helementary.additive Realm.whole_everything machine.memory).closures
  have hcause := helementary.foreign Realm.whole_everything machine.memory
  have happly := compute_apply computation machine
  generalize computation.run.run machine.memory = ended at hclosures hcause happly
  obtain ⟨cause | result, changed⟩ := ended
  · refine partAt_of_leads ?_ fun failure hfailed ↦ ?_
    · rw [happly]
      exact .of_closures hclosures
    · rw [happly] at hfailed
      obtain rfl := Outcome.failed.inj hfailed
      exact hcause cause rfl
  · exact partAt_of_unfailed happly (.of_closures hclosures) rfl

theorem partOf_log (severity : Log.Severity) (source : Log.Source) (message : String) :
    (log severity source message).PartOf library task := by
  refine fun machine ↦ partAt_of_unfailed rfl ?_ rfl
  unfold Machine.logged
  split
  · exact ⟨.of_eq rfl rfl, rfl, id⟩
  · exact .refl machine

/-- A proc of a symbol has to come from a block argument. -/
theorem partOf_close {closure : Closure}
    (hplaced : ∀ name node, closure = .symbolProc name node →
      ∃ children, node = .node Construct.blockPass.tag children) :
    (close closure).PartOf library task := by
  refine fun machine ↦ partAt_of_unfailed rfl ⟨.of_eq rfl rfl, rfl, ?_⟩ rfl
  intro hprocs index name node hclosure
  change (machine.memory.closures.push closure)[index]? = _ at hclosure
  rw [Array.getElem?_push] at hclosure
  split at hclosure
  · exact hplaced name node (Option.some.inj hclosure)
  · exact hprocs index name node hclosure

theorem partOf_read? (space : Space) (name : Name) : (read? space name).PartOf library task :=
  fun machine ↦ partAt_of_unfailed rfl (.refl machine) rfl

theorem partOf_write (space : Space) (name : Name) (item : Value) :
    (write space name item).PartOf library task := by
  intro machine
  have hfailed {failure : Failure} (hfailed : (write space name item machine).1 = .failed failure) :
      failure.isInterpreter = false := by
    unfold write at hfailed
    split at hfailed
    · cases hfailed
    · obtain rfl := Outcome.failed.inj hfailed
      rfl
  refine partAt_of_leads ?_ fun failure ↦ hfailed
  unfold write
  split
  · exact ⟨⟨List.suffix_cons _ _, fun _ ↦ rfl⟩, rfl, id⟩
  · exact .noted _ machine

theorem partOf_inFrame {space : Space} {bindings : Table} {base : Option Chain} {run : Run α}
    (hrun : run.PartOf library task) : (inFrame space bindings base run).PartOf library task := by
  intro machine
  have henter := Machine.Leads.enter machine space bindings base
  obtain ⟨hleads, hescapes⟩ := hrun (machine.enter space bindings base).2
  refine ⟨(henter.trans hleads).trans (.leave _ _ _), fun hsound failure hfailed hown ↦ ?_⟩
  have hinside := ((henter.trans hleads).split (.leave _ _ _) hsound).1
  exact ((hescapes (henter.split hleads hinside).2 failure hfailed hown).earlier henter).leave _ _

theorem compositional_partOf (library : Library) (task : Task) :
    Compositional .everything fun {α} [Confinable α] (run : Run α) ↦ run.PartOf library task where
  value _ := partOf_value _
  refuse := partOf_refuse
  compute := partOf_compute
  either hrun hafter hrecover := partOf_either hrun
    (fun result ↦ hafter result (Realm.within_everything result)) hrecover

/-- What raises a failure of evaluation is a part of the tasks that can raise it. -/
theorem scoped_partOf (hmarked : ∀ failure : Failure, failure.Marked → task.Raises library failure) :
    Scoped .everything fun {α} [Confinable α] (run : Run α) ↦ run.PartOf library task where
  toCompositional := compositional_partOf library task
  refuseAt hraised := partOf_refuseAt (hmarked _ hraised)
  read := partOf_read?
  write space name item _ := partOf_write space name.toName item

end Run

end Treewalk
