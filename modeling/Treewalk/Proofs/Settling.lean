import Treewalk.Proofs.Seclusion

/-!
Runs that settle. A run is given an engine, and it settles on a machine when there is a depth from which
on it ends, and ends in one way only, whatever the engine: neither a greater depth nor what becomes of
evaluations that lie too deep in each other makes a difference (`Run.Settles`). To tell this, engines
are bounded twice (`Eval.bounded`): by a depth, as before, and by the number of evaluations that may lie
in each other. What an evaluation beyond that number does is left open, so that a run that comes to the
same whatever it does never gets there.

Runs settle on machines that are sealed, which is to say that they hold nothing but what a realm without
blocks leads to (`Enclosure.Seals`), and leave sealed machines. Procs that send a symbol may be in the
realm, since they have no body that could be evaluated. That runs settle is stated once for each way of
putting them together.
-/

set_option autoImplicit false
set_option relaxedAutoImplicit false

namespace Treewalk

/-! ### Engines with two bounds -/

namespace Eval

/-- The engine that evaluates and calls to a depth and has at most so many evaluations lie in each other;
one that lies deeper is left to `beyond`. -/
def bounded (library : Library) (beyond : Site → Run Value) : Nat → Nat → Engine
  | _, 0 => Engine.spent
  | 0, depth + 1 =>
    { evaluate := beyond
      call := callValue library (bounded library beyond 0 depth) }
  | levels + 1, depth + 1 =>
    { evaluate := step library (bounded library beyond levels depth)
      call := callValue library (bounded library beyond (levels + 1) depth) }

/-- A bound on evaluations that is not less than the depth is none. -/
theorem bounded_of_le (library : Library) (beyond : Site → Run Value) {levels depth : Nat}
    (hdepth : depth ≤ levels) : bounded library beyond levels depth = engine library depth := by
  induction depth generalizing levels with
  | zero => cases levels <;> rfl
  | succ depth ih =>
    obtain ⟨levels, rfl⟩ := Nat.exists_eq_add_of_le' (Nat.zero_lt_of_lt hdepth)
    have hlevels : depth ≤ levels := Nat.le_of_succ_le_succ hdepth
    rw [bounded, ih hlevels, ih (Nat.le_succ_of_le hlevels), engine]

/-- Calls are made on the engine of the depth below, whatever the bound on evaluations. -/
theorem call_bounded (library : Library) (beyond : Site → Run Value) (levels depth : Nat) :
    (bounded library beyond levels (depth + 1)).call =
      callValue library (bounded library beyond levels depth) := by
  cases levels <;> rfl

end Eval

/-! ### Sealed machines -/

/-- What evaluation takes place in: a realm, the closures that there are, a library and a policy. -/
structure Enclosure where
  realm : Realm
  closures : Array Closure
  library : Library
  policy : Policy

/-- A machine that is sealed: the realm leads nowhere else, all that the evaluator holds lies in it, and
it has no block. -/
structure Enclosure.Seals (enclosure : Enclosure) (machine : Machine) : Prop where
  closed : enclosure.realm.ClosedOn machine
  context : Within enclosure.realm machine.evaluator.context
  chains : ∀ space, ∀ number ∈ machine.evaluator.chain space, enclosure.realm.frame number
  policy : machine.evaluator.policy = enclosure.policy
  closures : machine.memory.closures = enclosure.closures
  blockless : ∀ index parameters body chain, enclosure.realm.closure index →
    machine.memory.closure? index ≠ some (.block parameters body chain)

/-- A machine next to itself, where nothing ever parts. -/
def Pairing.alone (realm : Realm) (machine : Machine) : Pairing where
  realm := realm
  left := machine
  right := machine
  Parted _ _ := machine ≠ machine
  whole_of_parted hparted := absurd rfl hparted
  parted_mono hparted _ _ := hparted

theorem Outcome.value_ne_exhausted {α : Type} (result : α) : value result ≠ exhausted := nofun

theorem Outcome.failed_ne_exhausted {α : Type} (failure : Failure) :
    (failed failure : Outcome α) ≠ exhausted :=
  nofun

namespace Enclosure

variable {enclosure : Enclosure} {start machine : Machine}

theorem Seals.coupled (hseals : enclosure.Seals machine) :
    (Pairing.alone enclosure.realm machine).Coupled machine machine where
  memory := rfl
  keeps := .refl hseals.closed.memory
  evaluator := rfl
  policy := rfl
  context := hseals.context
  handlers := rfl
  handled := hseals.closed.handlers
  chains := hseals.chains
  size := rfl
  newFrames := hseals.closed.newFrames
  frames _ _ := rfl
  bound := hseals.closed.bound
  outside _ _ := rfl
  deeds := .refl _ _
  requests _ := .refl _ _
  records _ := .refl _ _
  leftThreshold := rfl
  rightThreshold := rfl

/-- What a machine may come to within the realm is sealed again, as long as there are no new closures. -/
theorem Seals.of_coupled (hseals : enclosure.Seals start)
    (hcoupled : (Pairing.alone enclosure.realm start).Coupled machine machine)
    (hclosures : machine.memory.closures = start.memory.closures) : enclosure.Seals machine where
  closed := ⟨hcoupled.within, hcoupled.bound, hcoupled.newFrames, hcoupled.handled⟩
  context := hcoupled.context
  chains := hcoupled.chains
  policy := hcoupled.policy.trans hseals.policy
  closures := hclosures.trans hseals.closures
  blockless index parameters body chain hindex := by
    unfold Memory.closure?
    rw [hclosures]
    exact hseals.blockless index parameters body chain hindex

variable {α β : Type} [Confinable α] [Confinable β]

/-- How a run ends that settles: not for want of depth, with what lies in the realm, on a machine that is
sealed, and with no other cells changed than those of the realm. -/
structure Ends (enclosure : Enclosure) (machine : Machine) (ended : Outcome α × Machine) : Prop where
  settled : ended.1 ≠ .exhausted
  within : Within enclosure.realm ended.1
  seals : enclosure.Seals ended.2
  keeps : enclosure.realm.Keeps machine.memory ended.2.memory

theorem Ends.trans {first : Outcome α × Machine} {last : Outcome β × Machine}
    (hfirst : enclosure.Ends machine first) (hlast : enclosure.Ends first.2 last) :
    enclosure.Ends machine last :=
  ⟨hlast.settled, hlast.within, hlast.seals, hfirst.keeps.trans hlast.keeps⟩

theorem Ends.refl (hseals : enclosure.Seals machine) {outcome : Outcome α}
    (hsettled : outcome ≠ .exhausted) (houtcome : Within enclosure.realm outcome) :
    enclosure.Ends machine (outcome, machine) :=
  ⟨hsettled, houtcome, hseals, .refl hseals.closed.memory⟩

/-- Nothing has happened yet. -/
theorem Seals.ends_here (hseals : enclosure.Seals machine) :
    enclosure.Ends machine (Outcome.value (), machine) :=
  .refl hseals (Outcome.value_ne_exhausted _) (within_value trivial)

/-- What is coupled with itself has ended within the realm. -/
theorem Ends.of_coupled (hseals : enclosure.Seals start)
    (hcoupled : (Pairing.alone enclosure.realm start).Coupled machine machine)
    (hclosures : machine.memory.closures = start.memory.closures) {outcome : Outcome α}
    (hsettled : outcome ≠ .exhausted) (houtcome : Within enclosure.realm outcome) :
    enclosure.Ends start (outcome, machine) :=
  ⟨hsettled, houtcome, hseals.of_coupled hcoupled hclosures, hcoupled.keeps⟩

end Enclosure

/-! ### Runs that settle -/

/-- A run that settles on sealed machines: from some depth on it ends as it does and not for want of
depth, and evaluations that lie more than so many levels deep in each other make no difference to it. -/
def Run.Settles {α : Type} [Confinable α] (enclosure : Enclosure) (levels : Nat)
    (run : Engine → Run α) : Prop :=
  ∀ machine, enclosure.Seals machine → ∃ bound ended, enclosure.Ends machine ended ∧
    ∀ beyond further depth, levels ≤ further → bound ≤ depth →
      run (Eval.bounded enclosure.library beyond further depth) machine = ended

namespace Run

variable {α β γ : Type} [Confinable α] [Confinable β] {enclosure : Enclosure} {levels : Nat}

theorem Settles.mono {run : Engine → Run α} (hrun : Settles enclosure levels run) {further : Nat}
    (hlevels : levels ≤ further) : Settles enclosure further run := by
  intro machine hseals
  obtain ⟨bound, ended, hends, hsame⟩ := hrun machine hseals
  exact ⟨bound, ended, hends, fun beyond more depth hmore ↦
    hsame beyond more depth (Nat.le_trans hlevels hmore)⟩

/-- A site is evaluated one level further out than what its evaluation evaluates. -/
theorem settles_evaluate {site : Site}
    (hstep : Settles enclosure levels fun engine ↦ Eval.step enclosure.library engine site) :
    Settles enclosure (levels + 1) fun engine ↦ engine.evaluate site := by
  intro machine hseals
  obtain ⟨bound, ended, hends, hsame⟩ := hstep machine hseals
  refine ⟨bound + 1, ended, hends, fun beyond further depth hfurther hdepth ↦ ?_⟩
  obtain ⟨further, rfl⟩ := Nat.exists_eq_add_of_le' (Nat.zero_lt_of_lt hfurther)
  obtain ⟨depth, rfl⟩ := Nat.exists_eq_add_of_le' (Nat.zero_lt_of_lt hdepth)
  exact hsame beyond further depth (Nat.le_of_succ_le_succ hfurther) (Nat.le_of_succ_le_succ hdepth)

/-- A call is made from one depth further down. -/
theorem settles_call {callee : Value} {arguments : List Value} {block : Option Value}
    (hcall : Settles enclosure levels fun engine ↦
      Eval.callValue enclosure.library engine callee arguments block) :
    Settles enclosure levels fun engine ↦ engine.call callee arguments block := by
  intro machine hseals
  obtain ⟨bound, ended, hends, hsame⟩ := hcall machine hseals
  refine ⟨bound + 1, ended, hends, fun beyond further depth hfurther hdepth ↦ ?_⟩
  obtain ⟨depth, rfl⟩ := Nat.exists_eq_add_of_le' (Nat.zero_lt_of_lt hdepth)
  dsimp only
  rw [Eval.call_bounded]
  exact hsame beyond further depth hfurther (Nat.le_of_succ_le_succ hdepth)

/-! ### Runs that need no engine -/

/-- A run that needs no engine settles when it stays within the realm, is not exhausted, and adds no
closure. -/
theorem settles_of_inStep {run : Run α}
    (hrun : ∀ machine, run.InStep (.alone enclosure.realm machine))
    (hsettled : ∀ machine, (run machine).1 ≠ .exhausted)
    (hclosures : ∀ machine : Machine, Within enclosure.realm machine.memory →
      (run machine).2.memory.closures = machine.memory.closures) :
    Settles enclosure levels fun _ ↦ run := by
  intro machine hseals
  refine ⟨0, run machine, ?_, fun _ _ _ _ _ ↦ rfl⟩
  have hjoined := (hrun machine).joined machine machine hseals.coupled
  have hmachine := hsettled machine
  have hsame := hclosures machine hseals.closed.memory
  generalize run machine = ended at hjoined hmachine hsame ⊢
  cases hjoined with
  | coupled within coupled => exact .of_coupled hseals coupled hsame hmachine within
  | parted parted => exact absurd rfl parted

theorem settles_ended {outcome : Outcome α} (hsettled : outcome ≠ .exhausted)
    (houtcome : Within enclosure.realm outcome) :
    Settles enclosure levels fun _ ↦ ended outcome :=
  fun machine hseals ↦ ⟨0, (outcome, machine), .refl hseals hsettled houtcome, fun _ _ _ _ _ ↦ rfl⟩

theorem settles_value {result : α} (hresult : Within enclosure.realm result) :
    Settles enclosure levels fun _ ↦ value result :=
  settles_ended (Outcome.value_ne_exhausted result) (within_value hresult)

theorem settles_pure {result : α} (hresult : Within enclosure.realm result) :
    Settles enclosure levels fun _ ↦ (pure result : Run α) :=
  settles_value hresult

theorem settles_fail (failure : Failure) :
    Settles enclosure levels fun _ ↦ (fail failure : Run α) :=
  settles_ended (Outcome.failed_ne_exhausted failure) (within_failed failure)

theorem settles_refuse (cause : Cause) :
    Settles enclosure levels fun _ ↦ (refuse cause : Run α) :=
  settles_fail _

theorem settles_refuseAt (node : Tree) (cause : Cause) :
    Settles enclosure levels fun _ ↦ (refuseAt node cause : Run α) :=
  settles_fail _

theorem settles_look {view : Machine → α}
    (hview : ∀ machine, enclosure.Seals machine → Within enclosure.realm (view machine)) :
    Settles enclosure levels fun _ ↦ look view :=
  fun machine hseals ↦ ⟨0, (.value (view machine), machine),
    .refl hseals (Outcome.value_ne_exhausted _) (within_value (hview machine hseals)),
    fun _ _ _ _ _ ↦ rfl⟩

theorem settles_note (event : Event) : Settles enclosure levels fun _ ↦ note event :=
  settles_of_inStep (fun _ ↦ inStep_note event) (fun _ ↦ Outcome.value_ne_exhausted _) fun _ _ ↦ rfl

theorem settles_log (severity : Log.Severity) (source : Log.Source) (message : String) :
    Settles enclosure levels fun _ ↦ log severity source message :=
  settles_of_inStep (fun _ ↦ inStep_log severity source message)
    (fun _ ↦ Outcome.value_ne_exhausted _) fun _ _ ↦
      congrArg Memory.closures (Machine.memory_logged ..)

theorem settles_compute {computation : Compute α}
    (helementary : computation.Elementary enclosure.realm) :
    Settles enclosure levels fun _ ↦ compute computation := by
  refine settles_of_inStep (fun _ ↦ inStep_compute helementary) (fun machine ↦ ?_)
    fun machine hmemory ↦ ?_
  · rw [compute_apply]
    split
    · exact Outcome.value_ne_exhausted _
    · exact Outcome.failed_ne_exhausted _
  · have hextends := helementary.extends_of_within hmemory
    rw [compute_apply]
    generalize computation.run.run machine.memory = ended at hextends ⊢
    obtain ⟨_ | _, changed⟩ := ended <;> exact hextends.closures

theorem settles_newList {items : List Value} (hitems : Within enclosure.realm items) :
    Settles enclosure levels fun _ ↦ newList items :=
  settles_compute (.newList hitems)

theorem settles_read? (space : Space) (name : Name) :
    Settles enclosure levels fun _ ↦ read? space name :=
  settles_of_inStep (fun _ ↦ inStep_read? space name) (fun _ ↦ Outcome.value_ne_exhausted _)
    fun _ _ ↦ rfl

theorem settles_write (space : Space) (name : Site) {item : Value}
    (hitem : Within enclosure.realm item) :
    Settles enclosure levels fun _ ↦ write space name.toName item := by
  refine settles_of_inStep (fun _ ↦ inStep_write space (within_toValue name) hitem) (fun machine ↦ ?_)
    fun machine _ ↦ ?_
  · unfold write
    split
    · exact Outcome.value_ne_exhausted _
    · exact Outcome.failed_ne_exhausted _
  · unfold write
    split <;> rfl

/-- A thing of the realm leads to nothing of the interpreter but what lies in the realm. -/
theorem settles_reach {receiver : Value} (hreceiver : Within enclosure.realm receiver) (name : String)
    {arguments : Option (List Value)} (harguments : Within enclosure.realm arguments) :
    Settles enclosure levels fun _ ↦ reach receiver name arguments := by
  refine settles_of_inStep (fun _ ↦ inStep_reach rfl hreceiver name harguments) (fun machine ↦ ?_)
    fun machine _ ↦ congrArg Memory.closures (memory_reach receiver name arguments machine)
  unfold reach
  cases machine.answer receiver name arguments with
  | missing => exact Outcome.value_ne_exhausted _
  | found item effect => exact Outcome.value_ne_exhausted _
  | refused cause => exact Outcome.failed_ne_exhausted _

/-! ### Putting runs together -/

/-- One run after another, whichever way the first one ends. -/
theorem settles_follow {run : Engine → Run α} (next : Outcome α → Engine → Run β)
    (hrun : Settles enclosure levels run)
    (hnext : ∀ outcome, outcome ≠ .exhausted → Within enclosure.realm outcome →
      Settles enclosure levels (next outcome)) :
    Settles enclosure levels fun engine machine ↦
      next (run engine machine).1 engine (run engine machine).2 := by
  intro machine hseals
  obtain ⟨bound, ended, hends, hsame⟩ := hrun machine hseals
  obtain ⟨later, last, hlast, hfollows⟩ :=
    hnext ended.1 hends.settled hends.within ended.2 hends.seals
  refine ⟨max bound later, last, hends.trans hlast, fun beyond further depth hfurther hdepth ↦ ?_⟩
  dsimp only
  rw [hsame beyond further depth hfurther (Nat.le_trans (Nat.le_max_left _ _) hdepth)]
  exact hfollows beyond further depth hfurther (Nat.le_trans (Nat.le_max_right _ _) hdepth)

/-- One run after another, whether the first one ends with a value or with a failure. -/
theorem settles_either {run : Engine → Run α} {after : α → Engine → Run β}
    {recover : Failure → Engine → Run β} (hrun : Settles enclosure levels run)
    (hafter : ∀ result, Within enclosure.realm result → Settles enclosure levels (after result))
    (hrecover : ∀ failure, Settles enclosure levels (recover failure)) :
    Settles enclosure levels fun engine ↦
      either (run engine) (after · engine) (recover · engine) := by
  simp only [either_eq_follow]
  refine settles_follow (fun outcome engine ↦ onEnd (after · engine) (recover · engine) outcome) hrun
    fun outcome hsettled houtcome ↦ ?_
  cases outcome with
  | value result => exact hafter result (houtcome result rfl)
  | failed failure => exact hrecover failure
  | aborted message => exact settles_ended nofun (within_aborted message)
  | exhausted => exact absurd rfl hsettled

theorem settles_bind {run : Engine → Run α} {after : α → Engine → Run β}
    (hrun : Settles enclosure levels run)
    (hafter : ∀ result, Within enclosure.realm result → Settles enclosure levels (after result)) :
    Settles enclosure levels fun engine ↦ run engine >>= fun result ↦ after result engine := by
  simp only [bind_eq_either]
  exact settles_either hrun hafter settles_fail

theorem settles_mapFailure (adjust : Failure → Failure) {run : Engine → Run α}
    (hrun : Settles enclosure levels run) :
    Settles enclosure levels fun engine ↦ mapFailure adjust (run engine) := by
  simp only [mapFailure_eq_either]
  exact settles_either hrun (fun _ hresult ↦ settles_value hresult) fun _ ↦ settles_fail _

/-- For runs that need no engine, to settle is compositional. -/
theorem scoped_settles (enclosure : Enclosure) (levels : Nat) :
    Scoped enclosure.realm fun {α} [Confinable α] (run : Run α) ↦
      Settles enclosure levels fun _ ↦ run where
  value := settles_value
  refuse _ := settles_refuse _
  compute := settles_compute
  either hrun hafter hrecover := settles_either hrun hafter fun failure ↦
    (hrecover failure).elim (fun heq ↦ heq ▸ settles_fail failure) id
  refuseAt _ := settles_refuseAt _ _
  read := settles_read?
  write := settles_write

/-- What is done with a thing that was looked at may make use of what being sealed says of it. -/
theorem settles_look_bind {view : Machine → γ} {after : γ → Engine → Run β} (holds : γ → Prop)
    (hview : ∀ machine, enclosure.Seals machine → holds (view machine))
    (hafter : ∀ seen, holds seen → Settles enclosure levels (after seen)) :
    Settles enclosure levels fun engine ↦ look view >>= fun seen ↦ after seen engine :=
  fun machine hseals ↦ hafter (view machine) (hview machine hseals) machine hseals

/-- A new frame on top of the active chain. -/
theorem settles_inNewFrame (space : Space) {bindings : Table}
    (hbindings : Within enclosure.realm bindings) {run : Engine → Run α}
    (hrun : Settles enclosure levels run) :
    Settles enclosure levels fun engine ↦ inFrame space bindings none (run engine) := by
  intro machine hseals
  have hentered : enclosure.Ends machine
      (Outcome.value (), (machine.enter space bindings none).2) := by
    refine .of_coupled hseals (hseals.coupled.enter space hbindings (by rintro _ ⟨⟩)) ?_
      (Outcome.value_ne_exhausted _) (within_value trivial)
    rw [Machine.memory_enter]
  obtain ⟨bound, ended, hends, hsame⟩ := hrun _ hentered.seals
  have hleft : enclosure.Ends ended.2
      (ended.1, ended.2.leave space (machine.enter space bindings none).1) :=
    .of_coupled hends.seals (hends.seals.coupled.leave space (by rintro _ ⟨⟩)) rfl hends.settled
      hends.within
  refine ⟨bound, _, (hentered.trans hends).trans hleft,
    fun beyond further depth hfurther hdepth ↦ ?_⟩
  dsimp only
  rw [inFrame_apply, hsame beyond further depth hfurther hdepth]

end Run

end Treewalk
