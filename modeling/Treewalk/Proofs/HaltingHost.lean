import Treewalk.Proofs.Attribution
import Treewalk.Proofs.Settling

/-!
Host code that halts. Host code goes on by requests, and there are two that may lead back into the
interpreter: it may call values, and it may ask for the parameter names of a closure. It halts when it
asks only for those of closures of the realm, given that all it is handed lies in the realm, and when on
every sealed machine there is a depth at which it ends (`Action.Halts`).

On a sealed machine the realm has no block, and so no host code ever gets the interpreter to evaluate
anything: where it ends at some depth, it ends alike at every greater depth and whatever evaluations do
(`Run.stands_perform`). It may have procs that send a symbol. A proc takes the receiver off its arguments
and sends with the others, so that, when all members, functions and classes of a library halt, calls
settle by induction on the number of arguments (`Run.settles_callClosure`), and with them sends and
lookups of constants.
-/

set_option autoImplicit false
set_option relaxedAutoImplicit false

namespace Treewalk

/-! ### Actions -/

section

variable {α β : Type} [Confinable α] [Confinable β]

/-- Host code that asks for the parameter names of no closure but those of a realm and gives back things
of the realm, as long as all that it comes to see is within the realm. -/
def Action.AsksWithin (realm : Realm) : Action α → Prop
  | .done result => Within realm result
  | .fail _ | .abort _ | .exhaust => True
  | .inspect next => ∀ memory, Within realm memory → (next memory).AsksWithin realm
  | .update _ _ next => next.AsksWithin realm
  | .call _ _ _ next => ∀ result, Within realm result → (next result).AsksWithin realm
  | .attempt _ _ _ next _ recover =>
    (∀ result, Within realm result → (next result).AsksWithin realm) ∧
      ∀ kind, (recover kind).AsksWithin realm
  | .parameters index next =>
    realm.closure index ∧ ∀ names, Within realm names → (next names).AsksWithin realm
  | .observe next => ∀ seen, (next seen).AsksWithin realm
  | .reenter next => next.AsksWithin realm
  | .reach _ _ _ next => ∀ answer, Within realm answer → (next answer).AsksWithin realm

/-- Host code that halts: it asks for the parameter names of no closure outside of the realm, and on
every sealed machine it ends at some depth. -/
structure Action.Halts (enclosure : Enclosure) (action : Action α) : Prop where
  asks : action.AsksWithin enclosure.realm
  ends : ∀ machine, enclosure.Seals machine →
    ∃ depth, (Run.perform (Eval.engine enclosure.library depth) action machine).1 ≠ .exhausted

/-- What holds of all host code of a library that is given only things of the realm. -/
structure Enclosure.OfHost (enclosure : Enclosure) (Holds : Action Value → Prop) : Prop where
  methods : ∀ hostClass ∈ enclosure.library.classes, ∀ method ∈ hostClass.methods,
    ∀ self arguments block, Within enclosure.realm self → Within enclosure.realm arguments →
      Within enclosure.realm block → Holds (method.body self arguments block)
  constructs : ∀ hostClass ∈ enclosure.library.classes, ∀ arguments block,
    Within enclosure.realm arguments → Within enclosure.realm block →
      Holds (hostClass.construct arguments block)
  functions : ∀ function ∈ enclosure.library.functions, ∀ arguments block,
    Within enclosure.realm arguments → Within enclosure.realm block →
      Holds (function.body arguments block)

/-- A library each of whose methods, classes and functions halts. -/
def Enclosure.HostHalts (enclosure : Enclosure) : Prop :=
  enclosure.OfHost fun action ↦ action.Halts enclosure

/-- A policy that halts when it is asked about a thing of the realm. -/
def Enclosure.PolicyHalts (enclosure : Enclosure) : Prop :=
  ∀ receiver member node, Within enclosure.realm receiver →
    (enclosure.policy.authorize enclosure.library receiver member node).Halts enclosure

namespace Action

variable {realm : Realm}

theorem asks_bind {action : Action α} {after : α → Action β} (haction : action.AsksWithin realm)
    (hafter : ∀ result, Within realm result → (after result).AsksWithin realm) :
    (action.bind after).AsksWithin realm := by
  induction action with
  | done result => exact hafter result haction
  | fail failure | abort message | exhaust => exact trivial
  | inspect next ih => exact fun memory hmemory ↦ ih memory (haction memory hmemory)
  | update heap marks next ih => exact ih haction
  | call callee arguments block next ih =>
    exact fun result hresult ↦ ih result (haction result hresult)
  | attempt callee arguments block next catches recover ihnext ihrecover =>
    exact ⟨fun result hresult ↦ ihnext result (haction.1 result hresult),
      fun kind ↦ ihrecover kind (haction.2 kind)⟩
  | parameters index next ih =>
    exact ⟨haction.1, fun names hnames ↦ ih names (haction.2 names hnames)⟩
  | observe next ih => exact fun seen ↦ ih seen (haction seen)
  | reenter next ih => exact ih haction
  | reach receiver name arguments next ih =>
    exact fun answer hanswer ↦ ih answer (haction answer hanswer)

theorem asks_compute {computation : Compute α} (hcomputation : computation.Confined realm) :
    (compute computation).AsksWithin realm := by
  intro memory hmemory
  have hresult := (hcomputation memory hmemory).1
  rcases heq : computation.run.run memory with ⟨cause | result, changed⟩
  · simp only [heq]
    exact trivial
  · rw [heq] at hresult
    simp only [heq]
    exact hresult result rfl

end Action

end

/-! ### Sends and lookups -/

/-- Sends and lookups ask for no parameter names but those of the realm. -/
theorem Enclosure.HostHalts.carries_asks {enclosure : Enclosure} (hhost : enclosure.HostHalts)
    (hconfined : enclosure.library.Confined enclosure.realm) (size : Nat) :
    enclosure.library.Carries enclosure.realm size (Action.AsksWithin enclosure.realm) where
  done hresult := hresult
  fail _ := trivial
  inspect hnext := hnext
  compute htame := Action.asks_compute htame.confined
  bind := Action.asks_bind
  parameters hindex := ⟨hindex, fun _ hnames ↦ hnames⟩
  call _ _ _ _ _ _ _ hresult := hresult
  reach _ _ _ _ _ hanswer := hanswer
  shared hostClass hclass := (hconfined.classes hostClass hclass).shared
  methods hostClass hclass method hmethod self arguments block hself harguments hblock :=
    (hhost.methods hostClass hclass method hmethod self arguments block hself harguments hblock).asks
  constructs hostClass hclass arguments block harguments hblock :=
    (hhost.constructs hostClass hclass arguments block harguments hblock).asks
  functions function hfunction arguments block harguments hblock :=
    (hhost.functions function hfunction arguments block harguments hblock).asks

/-! ### Host code on other engines -/

/-- On a sealed machine no closure has parameter names. -/
theorem Enclosure.Seals.perform_parameters {α : Type} {enclosure : Enclosure} {machine : Machine}
    (hseals : enclosure.Seals machine) {index : Nat} (hindex : enclosure.realm.closure index)
    (engine : Engine) (next : Option Value → Action α) :
    Run.perform engine (.parameters index next) machine = Run.perform engine (next none) machine := by
  change ((Run.look (·.memory.closure? index) >>= _).bind _) machine = _
  unfold Run.bind
  rw [Run.look_bind_apply]
  rcases hclosure : machine.memory.closure? index with _ | ⟨parameters, body, chain⟩ | ⟨name, node⟩
  · rfl
  · exact absurd hclosure (hseals.blockless index parameters body chain hindex)
  · rfl

/-- Calling a closure there either fails at once or sends a member to the first one of its arguments. -/
theorem Enclosure.Seals.callValue_closure {enclosure : Enclosure} {machine : Machine}
    (hseals : enclosure.Seals machine) {index : Nat} (hindex : enclosure.realm.closure index)
    (arguments : List Value) (block : Option Value) :
    (∀ engine, Eval.callValue enclosure.library engine (.closure index) arguments block machine =
      (.failed ⟨.plain .type, none⟩, machine)) ∨
    ∃ receiver rest member node, arguments = receiver :: rest ∧ ∀ engine,
      Eval.callValue enclosure.library engine (.closure index) arguments block machine =
        Eval.dispatch enclosure.library engine receiver member rest block node (.leaf .null)
          machine := by
  have hcall (engine : Engine) :
      Eval.callValue enclosure.library engine (.closure index) arguments block machine = _ :=
    Run.look_bind_apply ..
  simp only [hcall]
  rcases hclosure : machine.memory.closure? index with _ | ⟨parameters, body, chain⟩ | ⟨name, node⟩
  · exact Or.inl fun _ ↦ rfl
  · exact absurd hclosure (hseals.blockless index parameters body chain hindex)
  · cases arguments with
    | nil => exact Or.inl fun _ ↦ rfl
    | cons receiver rest => exact Or.inr ⟨receiver, rest, .leaf (.text name), node, rfl, fun _ ↦ rfl⟩

namespace Action

variable {α β : Type} [Confinable α] [Confinable β] {enclosure : Enclosure}

theorem halts_done {result : α} (hresult : Within enclosure.realm result) :
    (done result).Halts enclosure :=
  ⟨hresult, fun _ _ ↦ ⟨0, Outcome.value_ne_exhausted result⟩⟩

theorem halts_fail (failure : Failure) : (fail failure : Action α).Halts enclosure :=
  ⟨trivial, fun _ _ ↦ ⟨0, Outcome.failed_ne_exhausted failure⟩⟩

theorem halts_refuse (cause : Cause) : (refuse cause : Action α).Halts enclosure := halts_fail _

theorem halts_compute {computation : Compute α} (hcomputation : computation.Confined enclosure.realm) :
    (compute computation).Halts enclosure where
  asks := asks_compute hcomputation
  ends machine _ := by
    refine ⟨0, ?_⟩
    rcases heq : computation.run.run machine.memory with ⟨cause | result, changed⟩
    · simp only [compute, Run.perform, heq]
      exact Outcome.failed_ne_exhausted _
    · simp only [compute, Run.perform, heq]
      exact Outcome.value_ne_exhausted result

/-- What is done with the result of a computation is done on a sealed machine again. -/
theorem halts_compute_bind {computation : Compute α}
    (hcomputation : computation.Confined enclosure.realm) {after : α → Action β}
    (hafter : ∀ result, Within enclosure.realm result → (after result).Halts enclosure) :
    (compute computation >>= after).Halts enclosure where
  asks := asks_bind (asks_compute hcomputation) fun result hresult ↦ (hafter result hresult).asks
  ends machine hseals := by
    -- The rest goes on from the memory that the computation leaves.
    have hconfined := confined_compute hcomputation _ hseals.closed.memory
    have hbind (engine : Engine) : Run.perform engine (compute computation >>= after) =
        (Run.perform engine (compute computation)).bind fun result ↦ Run.perform engine (after result) :=
      Run.perform_bind engine _ after
    simp only [hbind, Run.bind]
    simp only [compute, ConfinedOn] at hconfined
    simp only [compute, Run.perform]
    rcases heq : computation.run.run machine.memory with ⟨cause | result, changed⟩
    · exact ⟨0, Outcome.failed_ne_exhausted _⟩
    · simp only [heq, ConfinedOn] at hconfined
      exact (hafter result hconfined.2).ends _
        (hseals.of_coupled (hseals.coupled.withMemory hconfined.1) rfl)

/-- A listing of parameter names comes to nothing on a sealed machine. -/
theorem halts_parameters {index : Nat} (hindex : enclosure.realm.closure index)
    {next : Option Value → Action α}
    (hnext : ∀ names, Within enclosure.realm names → (next names).Halts enclosure) :
    (parameters index next).Halts enclosure where
  asks := ⟨hindex, fun names hnames ↦ (hnext names hnames).asks⟩
  ends machine hseals := by
    obtain ⟨depth, hsettled⟩ := (hnext none within_none).ends machine hseals
    refine ⟨depth, ?_⟩
    rw [hseals.perform_parameters hindex]
    exact hsettled

end Action

namespace Run

variable {α β : Type} [Confinable α] [Confinable β] {enclosure : Enclosure} {depth : Nat}
  {machine : Machine}

/-- A run that, if it ends at a depth on a machine, ends within the realm, and ends alike at every
greater depth and whatever evaluations do. -/
def Stands (enclosure : Enclosure) (depth : Nat) (run : Engine → Run α) (machine : Machine) : Prop :=
  (run (Eval.engine enclosure.library depth) machine).1 ≠ .exhausted →
    enclosure.Ends machine (run (Eval.engine enclosure.library depth) machine) ∧
      ∀ beyond levels further, depth ≤ further →
        run (Eval.bounded enclosure.library beyond levels further) machine =
          run (Eval.engine enclosure.library depth) machine

/-- A run that comes to one thing on every engine. -/
theorem stands_of_eq {run : Engine → Run α} {ended : Outcome α × Machine}
    (hrun : ∀ engine, run engine machine = ended)
    (hended : ended.1 ≠ .exhausted → enclosure.Ends machine ended) :
    Stands enclosure depth run machine := by
  intro hsettled
  rw [hrun] at hsettled ⊢
  exact ⟨hended hsettled, fun _ _ _ _ ↦ hrun _⟩

theorem stands_ended (hseals : enclosure.Seals machine) {outcome : Outcome α}
    (houtcome : Within enclosure.realm outcome) :
    Stands enclosure depth (fun _ ↦ ended outcome) machine :=
  stands_of_eq (fun _ ↦ rfl) fun hsettled ↦ .refl hseals hsettled houtcome

/-- A run that goes on from another machine. -/
theorem stands_onward {run onward : Engine → Run α} {changed : Machine}
    (hchanged : enclosure.Ends machine (Outcome.value (), changed))
    (hrun : ∀ engine, run engine machine = onward engine changed)
    (honward : Stands enclosure depth onward changed) : Stands enclosure depth run machine := by
  intro hsettled
  rw [hrun] at hsettled ⊢
  obtain ⟨hends, hsame⟩ := honward hsettled
  exact ⟨hchanged.trans hends, fun beyond levels further hfurther ↦
    (hrun _).trans (hsame beyond levels further hfurther)⟩

theorem stands_follow {run : Engine → Run α} (next : Outcome α → Engine → Run β)
    (hexhausted : ∀ engine, next .exhausted engine = ended .exhausted)
    (hrun : Stands enclosure depth run machine)
    (hnext : ∀ outcome changed, enclosure.Ends machine (outcome, changed) →
      Stands enclosure depth (next outcome) changed) :
    Stands enclosure depth (fun engine machine ↦
      next (run engine machine).1 engine (run engine machine).2) machine := by
  intro hsettled
  have hfirst : (run (Eval.engine enclosure.library depth) machine).1 ≠ .exhausted := by
    intro hspent
    dsimp only at hsettled
    rw [hspent, hexhausted] at hsettled
    exact hsettled rfl
  obtain ⟨hends, hsame⟩ := hrun hfirst
  obtain ⟨hlast, hfollows⟩ := hnext _ _ hends hsettled
  refine ⟨hends.trans hlast, fun beyond levels further hfurther ↦ ?_⟩
  dsimp only
  rw [hsame beyond levels further hfurther]
  exact hfollows beyond levels further hfurther

/-- One run after another, whether the first one ends with a value or with a failure. -/
theorem stands_either {run : Engine → Run α} {after : α → Engine → Run β}
    {recover : Failure → Engine → Run β} (hrun : Stands enclosure depth run machine)
    (hafter : ∀ result changed, enclosure.Ends machine (.value result, changed) →
      Stands enclosure depth (after result) changed)
    (hrecover : ∀ failure changed, enclosure.Ends machine (Outcome.failed failure (α := α), changed) →
      Stands enclosure depth (recover failure) changed) :
    Stands enclosure depth
      (fun engine ↦ either (run engine) (after · engine) (recover · engine)) machine := by
  simp only [either_eq_follow]
  refine stands_follow (fun outcome engine ↦ onEnd (after · engine) (recover · engine) outcome)
    (fun _ ↦ rfl) hrun fun outcome changed hends ↦ ?_
  cases outcome with
  | value result => exact hafter result changed hends
  | failed failure => exact hrecover failure changed hends
  | aborted message => exact stands_ended hends.seals (within_aborted message)
  | exhausted => exact stands_ended hends.seals within_exhausted

theorem stands_bind {run : Engine → Run α} {after : α → Engine → Run β}
    (hrun : Stands enclosure depth run machine)
    (hafter : ∀ result changed, enclosure.Ends machine (.value result, changed) →
      Stands enclosure depth (after result) changed) :
    Stands enclosure depth (fun engine ↦ run engine >>= fun result ↦ after result engine) machine := by
  simp only [bind_eq_either]
  exact stands_either hrun hafter fun failure _ hends ↦
    stands_ended hends.seals (within_failed failure)

/-- A run that needs no engine and settles has nothing that it could be different by. -/
theorem Settles.stands {run : Run α} (hrun : Settles enclosure 0 fun _ ↦ run)
    (hseals : enclosure.Seals machine) : Stands enclosure depth (fun _ ↦ run) machine := by
  obtain ⟨bound, ended, hends, hsame⟩ := hrun machine hseals
  obtain rfl : run machine = ended :=
    hsame (fun _ ↦ exhaust) 0 bound (Nat.le_refl _) (Nat.le_refl _)
  exact fun _ ↦ ⟨hends, fun _ _ _ _ ↦ rfl⟩

omit [Confinable α] in
theorem stands_look_bind {view : Machine → α} {after : α → Engine → Run β}
    (hafter : Stands enclosure depth (after (view machine)) machine) :
    Stands enclosure depth (fun engine ↦ look view >>= fun seen ↦ after seen engine) machine :=
  hafter

theorem stands_mapFailure (adjust : Failure → Failure) {run : Engine → Run α}
    (hrun : Stands enclosure depth run machine) :
    Stands enclosure depth (fun engine ↦ mapFailure adjust (run engine)) machine := by
  simp only [mapFailure_eq_either]
  exact stands_either hrun
    (fun _ _ hends ↦ stands_ended hends.seals hends.within)
    fun _ _ hends ↦ stands_ended hends.seals (within_failed _)

/-- Calls with things of the realm that end alike on all engines if they end at a depth. -/
def CallsStand (enclosure : Enclosure) (depth : Nat) : Prop :=
  ∀ callee arguments block machine, Within enclosure.realm callee →
    Within enclosure.realm arguments → Within enclosure.realm block → enclosure.Seals machine →
      Stands enclosure depth (fun engine ↦ engine.call callee arguments block) machine

/-- Host code ends alike on all engines that calls end alike on. The induction is on the tree of its
requests; what it is allowed to do next depends on the memory that it has come to. -/
theorem stands_perform (hcalls : CallsStand enclosure depth) {action : Action α} {machine : Machine}
    (hseals : enclosure.Seals machine)
    (hconfined : action.ConfinedOn enclosure.realm machine.memory)
    (hasks : action.AsksWithin enclosure.realm) :
    Stands enclosure depth (fun engine ↦ perform engine action) machine := by
  induction action generalizing machine with
  | done result => exact stands_ended hseals (within_value hconfined)
  | fail failure => exact stands_ended hseals (within_failed failure)
  | abort message =>
    exact stands_of_eq (fun _ ↦ rfl) fun hsettled ↦
      .of_coupled hseals (hseals.coupled.noted _) rfl hsettled (within_aborted message)
  | exhaust => exact fun hsettled ↦ absurd rfl hsettled
  | inspect next ih =>
    exact stands_onward hseals.ends_here (fun _ ↦ rfl)
      (ih machine.memory hseals hconfined (hasks _ hseals.closed.memory))
  | update heap marks next ih =>
    have hupdated := hseals.coupled.withMemory hconfined.1
    have hends : enclosure.Ends machine (Outcome.value (), _) :=
      .of_coupled hseals hupdated rfl (Outcome.value_ne_exhausted _) (within_value trivial)
    exact stands_onward hends (fun _ ↦ rfl) (ih hends.seals hconfined.2 hasks)
  | call callee arguments block next ih =>
    obtain ⟨hcallee, harguments, hblock, hnext⟩ := hconfined
    refine stands_bind (hcalls callee arguments block machine hcallee harguments hblock hseals)
      fun result changed hends ↦ ?_
    have hresult := hends.within result rfl
    exact ih result hends.seals (hnext result _ hresult hends.keeps) (hasks result hresult)
  | attempt callee arguments block next catches recover ihnext ihrecover =>
    obtain ⟨⟨hcallee, harguments, hblock⟩, hnext, hrecover⟩ := hconfined
    refine stands_either (hcalls callee arguments block machine hcallee harguments hblock hseals)
      (fun result changed hends ↦ ?_) fun failure changed hends ↦ ?_
    · have hresult := hends.within result rfl
      exact ihnext result hends.seals (hnext result _ hresult hends.keeps) (hasks.1 result hresult)
    · split
      · exact ihrecover _ hends.seals (hrecover _ _ hends.keeps) (hasks.2 _)
      · exact stands_ended hends.seals (within_failed failure)
  | parameters index next ih =>
    obtain ⟨hindex, hnext⟩ := hasks
    exact stands_onward hseals.ends_here
      (hseals.perform_parameters hindex · next)
      (ih none hseals (hconfined none _ within_none (.refl hseals.closed.memory))
        (hnext none within_none))
  | observe next ih =>
    exact stands_onward hseals.ends_here (fun _ ↦ rfl)
      (ih machine.observed hseals (hconfined _) (hasks _))
  | reenter next ih =>
    have hreenter (engine : Engine) : perform engine (.reenter next) machine =
        if machine.evaluator.running then (.failed ⟨.sessionRunning, none⟩, machine)
        else perform engine next machine := rfl
    by_cases hrunning : machine.evaluator.running = true
    · exact stands_of_eq (fun engine ↦ (hreenter engine).trans (if_pos hrunning)) fun hsettled ↦
        .refl hseals hsettled (within_failed _)
    · exact stands_onward hseals.ends_here
        (fun engine ↦ (hreenter engine).trans (if_neg hrunning)) (ih hseals hconfined hasks)
  | reach receiver name arguments next ih =>
    obtain ⟨hreceiver, harguments, hnext⟩ := hconfined
    refine stands_bind ((settles_reach hreceiver name harguments).stands hseals)
      fun answer changed hends ↦ ?_
    have hanswer := hends.within answer rfl
    exact ih answer hends.seals (hnext answer _ hanswer hends.keeps) (hasks answer hanswer)

end Run

/-! ### Calls -/

/-- What evaluation stands on that settles: the library and the policy stay within the realm and halt. -/
structure Enclosure.Halting (enclosure : Enclosure) : Prop where
  confined : enclosure.library.Confined enclosure.realm
  host : enclosure.HostHalts
  policyConfined : enclosure.policy.Confined enclosure.realm enclosure.library
  policy : enclosure.PolicyHalts

namespace Eval

open Run

variable {enclosure : Enclosure} {levels : Nat}

theorem settles_keepRequest (receiver : Value) (member node : Tree) :
    Settles enclosure levels fun _ ↦ keepRequest receiver member node :=
  settles_of_inStep (fun _ ↦ inStep_keepRequest receiver member node)
    (fun _ ↦ Outcome.value_ne_exhausted _) fun machine _ ↦
      congrArg Memory.closures (memory_requested receiver member node machine)

theorem settles_trace (receiver : Value) (member : Tree) (arguments : List Value)
    (block : Option Value) (receiverNode : Tree) :
    Settles enclosure levels fun _ ↦ trace receiver member arguments block receiverNode := by
  refine settles_look_bind (fun _ ↦ True) (fun _ _ ↦ trivial) fun threshold _ ↦ ?_
  split
  · refine settles_look_bind (fun _ ↦ True) (fun _ _ ↦ trivial) fun text _ ↦ ?_
    split
    · exact settles_log _ _ _
    · exact settles_bind (settles_note _) fun _ _ ↦ settles_refuse _
  · exact settles_pure trivial

/-- What is done with the answer to a query. -/
theorem settles_answered (receiver : Value) (member node : Tree) (published : Bool) (answer : Value) :
    Settles enclosure levels fun _ ↦ (do
      let granted ← look (·.memory.isGranted answer)
      note (.query receiver member node published granted)
      if granted then return ()
      else
        let kind ← look (·.memory.kindName receiver)
        log .warning .evaluator (denialText kind member)
        refuseAt node (.denied receiver kind member) : Run Unit) := by
  refine settles_look_bind (fun _ ↦ True) (fun _ _ ↦ trivial) fun granted _ ↦
    settles_bind (settles_note _) fun _ _ ↦ ?_
  split
  · exact settles_pure trivial
  · exact settles_look_bind (fun _ ↦ True) (fun _ _ ↦ trivial) fun kind _ ↦
      settles_bind (settles_log _ _ _) fun _ _ ↦ settles_refuseAt _ _

section

variable (hhalting : enclosure.Halting) {depth : Nat} (hcalls : CallsStand enclosure depth)
  {machine : Machine} (hseals : enclosure.Seals machine)

include hhalting hcalls hseals

theorem stands_authorize {receiver : Value} (hreceiver : Within enclosure.realm receiver)
    (member node : Tree) :
    Stands enclosure depth
      (fun engine ↦ authorize enclosure.library engine receiver member node) machine := by
  refine stands_bind ((settles_keepRequest receiver member node).stands hseals)
    fun _ requested hrequested ↦ stands_look_bind (stands_look_bind ?_)
  rw [hrequested.seals.policy]
  exact stands_bind
    (stands_perform hcalls hrequested.seals
      (hhalting.policyConfined receiver member node hreceiver _ hrequested.seals.closed.memory)
      (hhalting.policy receiver member node hreceiver).asks)
    fun answer _ hends ↦ (settles_answered _ _ _ _ answer).stands hends.seals

theorem stands_dispatch {receiver : Value} (hreceiver : Within enclosure.realm receiver)
    (member : Tree) {arguments : List Value} (harguments : Within enclosure.realm arguments)
    {block : Option Value} (hblock : Within enclosure.realm block) (node receiverNode : Tree) :
    Stands enclosure depth
      (fun engine ↦
        dispatch enclosure.library engine receiver member arguments block node receiverNode)
      machine := by
  have hconfined := (hhalting.confined.carries arguments.length).invoke harguments hblock
    (Nat.le_refl _) hreceiver member
  have hasks := (hhalting.host.carries_asks hhalting.confined arguments.length).invoke harguments hblock
    (Nat.le_refl _) hreceiver member
  exact stands_bind (stands_authorize hhalting hcalls hseals hreceiver member node)
    fun _ _ hgranted ↦ stands_bind ((settles_trace _ _ _ _ _).stands hgranted.seals)
      fun _ _ htraced ↦ stands_mapFailure _ <| stands_bind ((settles_note _).stands htraced.seals)
        fun _ _ hnoted ↦
          stands_perform hcalls hnoted.seals (hconfined _ hnoted.seals.closed.memory) hasks

end

/-- A call ends alike on all engines, by induction on the depth: it leads to host code that halts, or on
to a send. -/
theorem stands_call (hhalting : enclosure.Halting) (depth : Nat) : CallsStand enclosure depth := by
  induction depth with
  | zero => exact fun _ _ _ _ _ _ _ _ hsettled ↦ absurd rfl hsettled
  | succ depth ih =>
    intro callee arguments block machine hcallee harguments hblock hseals
    -- The value is called on the engine one depth further down, which the hypothesis is about.
    have hvalue : Stands enclosure depth
        (fun engine ↦ callValue enclosure.library engine callee arguments block) machine := by
      have happly : Stands enclosure depth
          (fun engine ↦ perform engine (enclosure.library.apply callee arguments block)) machine :=
        stands_perform ih hseals
          ((hhalting.confined.carries _).apply harguments hblock (Nat.le_refl _) hcallee _
            hseals.closed.memory)
          ((hhalting.host.carries_asks hhalting.confined _).apply harguments hblock (Nat.le_refl _)
            hcallee)
      cases callee with
      | closure index =>
        rcases hseals.callValue_closure hcallee arguments block with
          hfails | ⟨receiver, rest, member, node, rfl, hsends⟩
        · exact stands_of_eq hfails fun hsettled ↦ .refl hseals hsettled (within_failed _)
        · exact stands_onward hseals.ends_here hsends
            (stands_dispatch hhalting ih hseals (within_head harguments) member
              (within_tail harguments) hblock node _)
      | _ => exact happly
    intro hsettled
    obtain ⟨hends, hsame⟩ := hvalue hsettled
    refine ⟨hends, fun beyond levels further hfurther ↦ ?_⟩
    obtain ⟨further, rfl⟩ := Nat.exists_eq_add_of_le' (Nat.zero_lt_of_lt hfurther)
    dsimp only
    rw [call_bounded]
    exact hsame beyond levels further (Nat.le_of_succ_le_succ hfurther)

end Eval

/-! ### Host code that settles -/

namespace Run

variable {α β : Type} [Confinable α] [Confinable β] {enclosure : Enclosure} {levels : Nat}

/-- Host code that halts settles, and no evaluation at all is needed for it. -/
theorem settles_perform (hhalting : enclosure.Halting) {action : Action α}
    (hconfined : action.Confined enclosure.realm) (haction : action.Halts enclosure) :
    Settles enclosure levels fun engine ↦ perform engine action := by
  intro machine hseals
  obtain ⟨depth, hsettled⟩ := haction.ends machine hseals
  obtain ⟨hends, hsame⟩ := stands_perform (Eval.stands_call hhalting depth) hseals
    (hconfined _ hseals.closed.memory) haction.asks hsettled
  exact ⟨depth, _, hends, fun beyond further more _ hmore ↦ hsame beyond further more hmore⟩

/-- One action after another settles when both do. -/
theorem settles_perform_bind {action : Action α} {after : α → Action β}
    (haction : Settles enclosure levels fun engine ↦ perform engine action)
    (hafter : ∀ result, Within enclosure.realm result →
      Settles enclosure levels fun engine ↦ perform engine (after result)) :
    Settles enclosure levels fun engine ↦ perform engine (action.bind after) := by
  simp only [perform_bind]
  exact settles_bind haction hafter

/-- Calls of closures that settle when there are no more than so many arguments. -/
def CallsSettle (enclosure : Enclosure) (levels size : Nat) : Prop :=
  ∀ index arguments block, enclosure.realm.closure index → Within enclosure.realm arguments →
    arguments.length ≤ size → Within enclosure.realm block →
      Settles enclosure levels fun engine ↦ engine.call (.closure index) arguments block

/-- Sends and lookups settle when calls of closures do. -/
theorem carries_settles (hhalting : enclosure.Halting) {size : Nat}
    (hcalls : CallsSettle enclosure levels size) :
    enclosure.library.Carries enclosure.realm size fun action ↦
      Settles enclosure levels fun engine ↦ perform engine action where
  done hresult := settles_value hresult
  fail failure := settles_fail failure
  inspect hnext machine hseals := hnext machine.memory hseals.closed.memory machine hseals
  compute htame :=
    settles_perform hhalting (Action.confined_compute htame.confined)
      (Action.halts_compute htame.confined)
  bind := settles_perform_bind
  parameters {index} hindex :=
    settles_perform hhalting
      (Action.confined_parameters index fun _ hnames ↦ Action.confined_done hnames)
      (Action.halts_parameters hindex fun _ hnames ↦ Action.halts_done hnames)
  call hindex _ harguments hsize _ hblock :=
    settles_bind (hcalls _ _ _ hindex harguments hsize hblock) fun _ hresult ↦ settles_value hresult
  reach hreceiver name _ harguments :=
    settles_bind (settles_reach hreceiver name harguments) fun _ hanswer ↦ settles_value hanswer
  shared hostClass hclass := (hhalting.confined.classes hostClass hclass).shared
  methods hostClass hclass method hmethod self _ _ hself harguments hblock :=
    settles_perform hhalting
      ((hhalting.confined.classes hostClass hclass).methods method hmethod self hself _ _ harguments
        hblock)
      (hhalting.host.methods hostClass hclass method hmethod self _ _ hself harguments hblock)
  constructs hostClass hclass _ _ harguments hblock :=
    settles_perform hhalting
      ((hhalting.confined.classes hostClass hclass).construct _ _ harguments hblock)
      (hhalting.host.constructs hostClass hclass _ _ harguments hblock)
  functions function hfunction _ _ harguments hblock :=
    settles_perform hhalting
      (hhalting.confined.functions function hfunction _ _ harguments hblock)
      (hhalting.host.functions function hfunction _ _ harguments hblock)

end Run

namespace Eval

open Run

variable {enclosure : Enclosure} {levels : Nat} (hhalting : enclosure.Halting)

include hhalting

theorem settles_authorize {receiver : Value} (hreceiver : Within enclosure.realm receiver)
    (member node : Tree) :
    Settles enclosure levels fun engine ↦
      authorize enclosure.library engine receiver member node := by
  refine settles_bind (settles_keepRequest receiver member node) fun _ _ ↦
    settles_look_bind (fun _ ↦ True) (fun _ _ ↦ trivial) fun published _ ↦
      settles_look_bind (· = enclosure.policy) (fun _ hseals ↦ hseals.policy) fun policy hpolicy ↦ ?_
  subst hpolicy
  exact settles_bind
    (settles_perform hhalting (hhalting.policyConfined receiver member node hreceiver)
      (hhalting.policy receiver member node hreceiver))
    fun answer _ ↦ settles_answered _ _ _ _ answer

/-- A send settles when calls of closures do that have no more arguments. -/
theorem settles_dispatch_of_calls {size : Nat} (hcalls : CallsSettle enclosure levels size)
    {receiver : Value} (hreceiver : Within enclosure.realm receiver) (member : Tree)
    {arguments : List Value} (harguments : Within enclosure.realm arguments)
    (hsize : arguments.length ≤ size) {block : Option Value} (hblock : Within enclosure.realm block)
    (node receiverNode : Tree) :
    Settles enclosure levels fun engine ↦
      dispatch enclosure.library engine receiver member arguments block node receiverNode :=
  settles_bind (settles_authorize hhalting hreceiver member node) fun _ _ ↦
    settles_bind (settles_trace _ _ _ _ _) fun _ _ ↦ settles_mapFailure _ <|
      settles_bind (settles_note _) fun _ _ ↦
        (carries_settles hhalting hcalls).invoke harguments hblock hsize hreceiver member

omit hhalting in
/-- A call of a closure settles when the one send does that it may come to. -/
theorem settles_closure_of_sends {index : Nat} {arguments : List Value} {block : Option Value}
    (hindex : enclosure.realm.closure index)
    (hsends : ∀ receiver rest member node, arguments = receiver :: rest →
      Settles enclosure levels fun engine ↦
        dispatch enclosure.library engine receiver member rest block node (.leaf .null)) :
    Settles enclosure levels fun engine ↦
      callValue enclosure.library engine (.closure index) arguments block := by
  intro machine hseals
  rcases hseals.callValue_closure hindex arguments block with
    hfails | ⟨receiver, rest, member, node, harguments, hcall⟩
  · exact ⟨0, _, .refl hseals (Outcome.failed_ne_exhausted _) (within_failed _),
      fun _ _ _ _ _ ↦ hfails _⟩
  · obtain ⟨bound, ended, hends, hsame⟩ := hsends receiver rest member node harguments machine hseals
    exact ⟨bound, ended, hends, fun beyond further depth hfurther hdepth ↦
      (hcall _).trans (hsame beyond further depth hfurther hdepth)⟩

/-- Calls of closures settle, by induction on the number of arguments: what a closure sends is sent with
one argument less. -/
theorem settles_callClosure (size : Nat) : CallsSettle enclosure levels size := by
  induction size with
  | zero =>
    intro index arguments block hindex _ hsize _
    refine settles_call (settles_closure_of_sends hindex fun receiver rest member node hsplit ↦ ?_)
    rw [List.eq_nil_of_length_eq_zero (Nat.le_zero.mp hsize)] at hsplit
    cases hsplit
  | succ size ih =>
    intro index arguments block hindex harguments hsize hblock
    refine settles_call (settles_closure_of_sends hindex fun receiver rest member node hsplit ↦ ?_)
    subst hsplit
    exact settles_dispatch_of_calls hhalting ih (within_head harguments) member
      (within_tail harguments) (Nat.le_of_succ_le_succ hsize) hblock node _

theorem settles_dispatch {receiver : Value} (hreceiver : Within enclosure.realm receiver)
    (member : Tree) {arguments : List Value} (harguments : Within enclosure.realm arguments)
    {block : Option Value} (hblock : Within enclosure.realm block) (node receiverNode : Tree) :
    Settles enclosure levels fun engine ↦
      dispatch enclosure.library engine receiver member arguments block node receiverNode :=
  settles_dispatch_of_calls hhalting (settles_callClosure hhalting _) hreceiver member harguments
    (Nat.le_refl _) hblock node receiverNode

/-- So does whatever else is called. -/
theorem settles_callValue {callee : Value} (hcallee : Within enclosure.realm callee)
    {arguments : List Value} (harguments : Within enclosure.realm arguments) {block : Option Value}
    (hblock : Within enclosure.realm block) :
    Settles enclosure levels fun engine ↦
      callValue enclosure.library engine callee arguments block := by
  have hcalls : CallsSettle enclosure levels arguments.length := settles_callClosure hhalting _
  have happly := (carries_settles hhalting hcalls).apply harguments hblock (Nat.le_refl _) hcallee
  cases callee with
  | closure index =>
    refine settles_closure_of_sends hcallee fun receiver rest member node hsplit ↦ ?_
    subst hsplit
    exact settles_dispatch hhalting (within_head harguments) member (within_tail harguments) hblock
      node _
  | _ => exact happly

theorem settles_resolve {owner : Value} (howner : Within enclosure.realm owner) (name : Site)
    (node : Tree) :
    Settles enclosure levels fun engine ↦ resolve enclosure.library engine owner name node :=
  settles_bind (settles_authorize hhalting howner name.tree node) fun _ _ ↦
    settles_mapFailure _ <| settles_bind (settles_note _) fun _ _ ↦
      (carries_settles hhalting (settles_callClosure hhalting 0)).resolve howner name

end Eval

/-! ### The default context and the policies that are lent -/

/-- The library that lends only the default context halts. -/
theorem Host.halts_kernelLibrary {enclosure : Enclosure}
    (hlibrary : enclosure.library = Host.kernelLibrary) : enclosure.HostHalts := by
  refine ⟨fun hostClass hclass method hmethod self arguments block _ harguments hblock ↦ ?_,
    fun hostClass hclass arguments block _ _ ↦ ?_, fun function hfunction ↦ ?_⟩
  · rw [hlibrary] at hclass
    obtain rfl := List.mem_singleton.mp hclass
    rcases List.mem_cons.mp hmethod with rfl | hmethod
    · cases block with
      | none => exact Action.halts_refuse _
      | some given =>
        cases arguments with
        | nil => exact Action.halts_done (within_some.mp hblock)
        | cons _ _ => exact Action.halts_refuse _
    · obtain rfl := List.mem_singleton.mp hmethod
      cases block with
      | some given => exact Action.halts_refuse _
      | none =>
        rcases arguments with _ | ⟨message, _ | _⟩
        · exact Action.halts_refuse _
        · exact Action.halts_compute_bind (Compute.Elementary.plain message).confined fun _ _ ↦
            Action.halts_refuse _
        · exact Action.halts_refuse _
  · rw [hlibrary] at hclass
    obtain rfl := List.mem_singleton.mp hclass
    unfold kernel
    dsimp only
    split
    · exact Action.halts_compute (Compute.confined_allocate within_nil)
    · exact Action.halts_refuse _
  · rw [hlibrary] at hfunction
    cases hfunction

namespace Policy

variable {enclosure : Enclosure}

theorem halts_permissive (hpolicy : enclosure.policy = permissive) : enclosure.PolicyHalts := by
  intro receiver member node _
  rw [hpolicy]
  exact Action.halts_done trivial

end Policy

end Treewalk
