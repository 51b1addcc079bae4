import Treewalk.Host.Kernel
import Treewalk.Proofs.LexicalScope
import Treewalk.Proofs.Mediation

/-!
Closures that outlive their session. A block keeps the frames around it and the proc of a symbol its
node, but neither keeps a policy: the policy belongs to the evaluator. After a session the evaluator
is idle, and an idle evaluator grants everything. So what a closure does when the host calls it late
is put to the policy that the evaluator has then: the permissive one between sessions, and in the
middle of a later session that session's own (`late_call_under_present_policy`). The policy of the
session that made the closure is not asked again (`escaped_block_unchecked`).

A call may begin right after a query, so that it takes more than `Evolves.mediated` to see that it is
mediated: a run of an engine never begins by seeking something (`Run.Discreet`).
-/

set_option autoImplicit false
set_option relaxedAutoImplicit false

namespace Treewalk

/-! ### How runs begin -/

namespace Machine

/-- One machine goes on from another by at least one event, and the first seeks nothing. -/
def Begins (before after : Machine) : Prop :=
  ∃ event : Event, event.sought? = none ∧ event :: before.events <:+ after.events

/-- One machine goes on from another; if there are events in between, the first seeks nothing. -/
def Opens (before after : Machine) : Prop := after.events = before.events ∨ before.Begins after

variable {before middle after : Machine}

theorem Begins.noted {event : Event} (hevent : event.sought? = none) (machine : Machine) :
    machine.Begins (machine.noted event) :=
  ⟨event, hevent, List.suffix_rfl⟩

theorem Begins.extended (hbegins : before.Begins middle) (hsuffix : middle.events <:+ after.events) :
    before.Begins after := by
  obtain ⟨event, hevent, hmiddle⟩ := hbegins
  exact ⟨event, hevent, hmiddle.trans hsuffix⟩

namespace Opens

theorem suffix (hopens : before.Opens after) : before.events <:+ after.events := by
  rcases hopens with hsame | ⟨event, -, hsuffix⟩
  · exact hsame ▸ List.suffix_rfl
  · exact (List.suffix_cons _ _).trans hsuffix

theorem refl (machine : Machine) : machine.Opens machine := Or.inl rfl

theorem trans (hfirst : before.Opens middle) (hlast : middle.Opens after) :
    before.Opens after := by
  rcases hfirst with hsame | hbegins
  · unfold Opens Begins
    rw [← hsame]
    exact hlast
  · exact Or.inr (hbegins.extended hlast.suffix)

/-- A further event that seeks nothing makes a beginning. -/
theorem noted {event : Event} (hopens : before.Opens after) (hevent : event.sought? = none) :
    before.Begins (after.noted event) := by
  rcases hopens with hsame | hbegins
  · exact ⟨event, hevent, by rw [← hsame]; exact List.suffix_rfl⟩
  · exact hbegins.extended (List.suffix_cons _ _)

end Opens

end Machine

/-- The first event in between is the one that a beginning begins with. -/
theorem Machine.Opens.sought? {before after : Machine} (hopens : before.Opens after) {event : Event}
    (hfirst : event :: before.events <:+ after.events) : event.sought? = none := by
  rcases hopens with hsame | ⟨first, hnone, hsuffix⟩
  · have hlength := hfirst.length_le
    rw [hsame, List.length_cons] at hlength
    omega
  · have heq : event :: before.events = first :: before.events :=
      (List.suffix_of_suffix_length_le hfirst hsuffix (Nat.le_refl _)).eq_of_length rfl
    rw [(List.cons.inj heq).1]
    exact hnone

/-- A run that does not begin by seeking something. -/
def Run.Discreet {α : Type} (run : Run α) : Prop :=
  ∀ machine : Machine, machine.Opens (run machine).2

/-- An engine neither of whose services begins by seeking something. -/
structure Engine.Discreet (engine : Engine) : Prop where
  evaluate : ∀ site, (engine.evaluate site).Discreet
  call : ∀ callee arguments block, (engine.call callee arguments block).Discreet

namespace Run

variable {α β : Type} {engine : Engine}

theorem discreet_value (result : α) : (value result).Discreet := .refl

theorem discreet_fail (failure : Failure) : (fail failure : Run α).Discreet := .refl

theorem discreet_exhaust : (exhaust : Run α).Discreet := .refl

theorem discreet_abort (message : String) : (abort message : Run α).Discreet :=
  fun machine ↦ Or.inr (.noted rfl machine)

theorem discreet_bind {run : Run α} {after : α → Run β} (hrun : run.Discreet)
    (hafter : ∀ result, (after result).Discreet) : (run >>= after).Discreet := by
  intro machine
  have hmachine := hrun machine
  rw [bind_apply]
  rcases heq : run machine with ⟨outcome, changed⟩
  rw [heq] at hmachine
  cases outcome with
  | value result => exact hmachine.trans (hafter result changed)
  | _ => exact hmachine

theorem discreet_either {run : Run α} {after : α → Run β} {recover : Failure → Run β}
    (hrun : run.Discreet) (hafter : ∀ result, (after result).Discreet)
    (hrecover : ∀ failure, (recover failure).Discreet) :
    (either run after recover).Discreet := by
  intro machine
  have hmachine := hrun machine
  unfold either
  rcases heq : run machine with ⟨outcome, changed⟩
  rw [heq] at hmachine
  cases outcome with
  | value result => exact hmachine.trans (hafter result changed)
  | failed failure => exact hmachine.trans (hrecover failure changed)
  | _ => exact hmachine

/-- What only touches memory is no event. -/
theorem Heapwise.discreet {run : Run α} (hrun : run.Heapwise) : run.Discreet := by
  intro machine
  obtain ⟨heap, marks, hchanged, -⟩ := hrun machine
  exact Or.inl (by rw [hchanged])

theorem compositional_discreet :
    Compositional .everything fun {α} [Confinable α] (run : Run α) ↦ run.Discreet :=
  .of_all discreet_value discreet_fail (fun hadditive ↦ (heapwise_compute hadditive).discreet)
    discreet_either

theorem discreet_parameterNames (hengine : engine.Discreet) (index : Nat) :
    (parameterNames engine index).Discreet :=
  Eval.holds_parameterNames compositional_discreet hengine.evaluate
    (fun _ _ hafter ↦ discreet_bind .refl hafter) index

/-- That the interpreter itself is reached for is noted, and sends nothing. -/
theorem discreet_reach (receiver : Value) (name : String) (arguments : Option (List Value)) :
    (reach receiver name arguments).Discreet := by
  intro machine
  obtain ⟨effect, hreached⟩ := reach_snd receiver name arguments machine
  rw [hreached]
  refine Or.inr ⟨.reach receiver name, rfl, ?_⟩
  rw [Machine.events_affected]
  exact List.suffix_rfl

/-- Host code begins with nothing but what its calls begin with. -/
theorem discreet_perform (hengine : engine.Discreet) (action : Action α) :
    (perform engine action).Discreet := by
  induction action with
  | done result => exact discreet_value result
  | fail failure => exact discreet_fail failure
  | abort message => exact discreet_abort message
  | exhaust => exact discreet_exhaust
  | inspect next ih => exact fun machine ↦ ih machine.memory machine
  | update heap marks next ih => exact fun machine ↦ ih _
  | call callee arguments block next ih => exact discreet_bind (hengine.call _ _ _) ih
  | attempt callee arguments block next catches recover ihnext ihrecover =>
    refine discreet_either (hengine.call _ _ _) ihnext fun failure ↦ ?_
    split
    · exact ihrecover _
    · exact discreet_fail failure
  | parameters index next ih => exact discreet_bind (discreet_parameterNames hengine index) ih
  | observe next ih => exact fun machine ↦ ih _ machine
  | reenter next ih =>
    intro machine
    unfold perform
    split
    · exact .refl machine
    · exact ih machine
  | reach receiver name arguments next ih => exact discreet_bind (discreet_reach _ _ _) ih

end Run

namespace Eval

variable {library : Library} {engine : Engine}

/-- Evaluating begins with a visit. -/
theorem begins_step {depth : Nat} (hengine : (Eval.engine library depth).Evolving library) (site : Site)
    (machine : Machine) :
    machine.Begins (step library (Eval.engine library depth) site machine).2 := by
  obtain ⟨rest, hstep, hrest⟩ := (footing_evolving hengine).afterVisit site
  rw [hstep, Run.bind_apply]
  exact (Machine.Begins.noted rfl machine).extended (Evolves.continues (hrest _)).events

/-- A query that is answered makes a beginning, whatever the policy does to answer. -/
theorem opens_authorize (library : Library) (hengine : engine.Discreet) (receiver : Value)
    (member node : Tree) (machine : Machine) :
    machine.Opens (authorize library engine receiver member node machine).2 ∧
      ∀ changed, authorize library engine receiver member node machine = (.value (), changed) →
        machine.Begins changed := by
  have hasked : machine.Opens (requested receiver member node machine) := by
    unfold requested
    split <;> exact Or.inl rfl
  have hanswered := hasked.trans (Run.discreet_perform hengine
    (machine.evaluator.policy.authorize library receiver member node)
    (requested receiver member node machine))
  rw [authorize_apply]
  rcases heq : Run.perform engine (machine.evaluator.policy.authorize library receiver member node)
    (requested receiver member node machine) with ⟨outcome, answered⟩
  rw [heq] at hanswered
  cases outcome with
  | value answer =>
    have hbegins : machine.Begins (answered.noted (.query receiver member node
        (isPublished library machine.memory receiver member) (answered.memory.isGranted answer))) :=
      hanswered.noted rfl
    dsimp only
    split
    · refine ⟨Or.inr hbegins, fun changed hchanged ↦ ?_⟩
      obtain ⟨-, rfl⟩ := Prod.mk.inj hchanged
      exact hbegins
    · refine ⟨Or.inr (hbegins.extended ?_), nofun⟩
      exact (Machine.events_logged _ _ _ _).symm ▸ List.suffix_rfl
  | _ => exact ⟨hanswered, nofun⟩

/-- A dispatch begins with its query. -/
theorem discreet_dispatch (hdiscreet : engine.Discreet) (hengine : engine.Evolving library)
    (receiver : Value) (member : Tree) (arguments : List Value) (block : Option Value)
    (node receiverNode : Tree) :
    (dispatch library engine receiver member arguments block node receiverNode).Discreet := by
  intro machine
  obtain ⟨hopens, hbegins⟩ := opens_authorize library hdiscreet receiver member node machine
  unfold dispatch
  rw [Run.bind_apply]
  rcases heq : authorize library engine receiver member node machine with ⟨outcome, asked⟩
  rw [heq] at hopens
  cases outcome with
  | value result =>
    obtain ⟨published, hquery⟩ := head?_events_of_authorize heq
    exact Or.inr ((hbegins asked heq).extended
      (Evolves.continues (evolvesAt_granted hengine arguments block receiverNode hquery)).events)
  | _ => exact hopens

/-- A block call begins with its frame. -/
theorem discreet_callBlock (hengine : engine.Evolving library) (parameters body : Site)
    (chain : Chain) (arguments : List Value) :
    (callBlock engine parameters body chain arguments).Discreet := by
  refine Run.discreet_bind (heapwise_bindArguments parameters arguments).discreet
    fun bindings machine ↦ ?_
  have hinside := (Evolves.continues (hengine.evaluate body
    (machine.enter .locals bindings (some chain)).2)).events
  rw [Machine.events_enter] at hinside
  rw [Run.inFrame_apply]
  exact Or.inr ⟨_, rfl, hinside⟩

theorem discreet_callValue (hdiscreet : engine.Discreet) (hengine : engine.Evolving library)
    (callee : Value) (arguments : List Value) (block : Option Value) :
    (callValue library engine callee arguments block).Discreet := by
  unfold callValue
  split
  · refine Run.discreet_bind .refl fun found ↦ ?_
    split
    · split
      · exact Run.discreet_fail _
      · exact discreet_callBlock hengine _ _ _ _
    · split
      · exact Run.discreet_fail _
      · exact discreet_dispatch hdiscreet hengine _ _ _ _ _ _
    · exact Run.discreet_fail _
  · exact Run.discreet_perform hdiscreet _

/-- An engine of any depth never begins by seeking something. -/
theorem discreet_engine (library : Library) (depth : Nat) :
    (Eval.engine library depth).Discreet := by
  induction depth with
  | zero => exact ⟨fun _ ↦ Run.discreet_exhaust, fun _ _ _ ↦ Run.discreet_exhaust⟩
  | succ depth ih =>
    have hengine := evolving_engine library depth
    exact ⟨fun site machine ↦ Or.inr (begins_step hengine site machine),
      discreet_callValue ih hengine⟩

end Eval

/-! ### What a run is put to -/

/-- Since a journal stood at its start, every query was put to this policy. -/
def Submitted (library : Library) (policy : Policy) (start journal : List Event) : Prop :=
  ∀ later receiver member node published granted earlier,
    journal = later ++ .query receiver member node published granted :: earlier →
    start <:+ earlier →
    ∃ moment : Machine, moment.events = earlier ∧ moment.evaluator.policy = policy ∧
      (Event.query receiver member node published granted).Fits library moment

/-- Since a journal stood at its start, every query was granted. -/
def Unrefused (start journal : List Event) : Prop :=
  ∀ later receiver member node published granted earlier,
    journal = later ++ .query receiver member node published granted :: earlier →
    start <:+ earlier → granted = true

theorem Evolves.submitted {library : Library} {before after : Machine} {outcome : Outcome Unit}
    (hevolves : Evolves library before outcome after) :
    Submitted library before.evaluator.policy before.events after.events := by
  intro later receiver member node published granted earlier hcut hnew
  obtain ⟨moment, hduring, hevents, hfits⟩ := hevolves.moment hcut hnew
  exact ⟨moment, hevents, hduring.policy, hfits⟩

/-- The permissive policy refuses nothing. -/
theorem Submitted.unrefused {library : Library} {start journal : List Event}
    (hsubmitted : Submitted library Policy.permissive start journal) :
    Unrefused start journal := by
  intro later receiver member node published granted earlier hcut hnew
  obtain ⟨moment, -, hpolicy, engine, answer, asked, hasked, hanswer, -, hgranted⟩ :=
    hsubmitted later receiver member node published granted earlier hcut hnew
  rw [hasked, hpolicy] at hanswer
  obtain ⟨hvalue, rfl⟩ := Prod.mk.inj hanswer
  rw [hgranted, ← Outcome.value.inj hvalue]
  rfl

/-- What is sought under a policy that refuses names has none of them. -/
theorem Mediated.not_mem_of_denying {library : Library} {names : List String}
    {start journal later earlier : List Event} {event : Event} {receiver : Value} {member : Tree}
    {name : String} (hmediated : Mediated library (Policy.denying names) start journal)
    (hcut : journal = later ++ event :: earlier) (hnew : start <:+ earlier)
    (hsought : event.sought? = some (receiver, member)) (hname : member.text? = some name) :
    name ∉ names := by
  obtain ⟨node, published, rest, moment, -, -, -, hpolicy, engine, answer, asked, hasked, hanswer, -,
    hgranted⟩ := hmediated later event earlier receiver member hcut hnew hsought
  rw [hasked, hpolicy] at hanswer
  unfold Policy.denying at hanswer
  simp only [hname] at hanswer
  have hanswered := granted_of_perform_bool hanswer hgranted.symm
  simpa using hanswered

/-! ### After a session -/

variable {library : Library}

/-- A closure that is there before a session is there after it. -/
theorem Session.closure?_run (session : Session) (site : Site) {machine : Machine} {index : Nat}
    {closure : Closure} (hclosure : machine.memory.closure? index = some closure) :
    (session.run library site machine).2.memory.closure? index = some closure := by
  rcases session.run_cases library site machine with hsame | ⟨outcome, ended, hevolves, hended⟩
  · rw [hsame]
    exact hclosure
  · rw [hended, memory_finish]
    exact hevolves.continues.closure? (by simpa [seat] using hclosure)

namespace Reaches

variable {start machine : Machine}

theorem closure? (hreaches : Reaches library start machine) {index : Nat} {closure : Closure}
    (hclosure : start.memory.closure? index = some closure) :
    machine.memory.closure? index = some closure := by
  induction hreaches with
  | start => exact hclosure
  | ran session site _ ih => exact session.closure?_run site ih
  | called depth callee arguments block _ ih =>
    exact (Evolves.continues
      ((Eval.evolving_engine library depth).call callee arguments block _)).closure? ih
  | performed depth action _ ih =>
    exact (Evolves.continues
      (Run.evolving_perform (Eval.evolving_engine library depth) action _)).closure? ih

/-- Between sessions no session runs, and everything is granted. -/
theorem between (hreaches : Reaches library start machine)
    (hrunning : start.evaluator.running = false)
    (hpolicy : start.evaluator.policy = Policy.permissive) :
    machine.evaluator.running = false ∧ machine.evaluator.policy = Policy.permissive := by
  induction hreaches with
  | start => exact ⟨hrunning, hpolicy⟩
  | ran session site _ ih =>
    rw [session.run_of_idle library site ih.1, Session.evaluator_finish]
    exact ⟨rfl, rfl⟩
  | @called depth callee arguments block before _ ih =>
    have hcontinues := Evolves.continues
      ((Eval.evolving_engine library depth).call callee arguments block before)
    exact ⟨hcontinues.running.trans ih.1, hcontinues.policy.trans ih.2⟩
  | @performed depth _ action before _ ih =>
    have hcontinues := Evolves.continues
      (Run.evolving_perform (Eval.evolving_engine library depth) action before)
    exact ⟨hcontinues.running.trans ih.1, hcontinues.policy.trans ih.2⟩

end Reaches

/-- A machine as it may stand in the middle of a session that was begun on another one: seated, or
gone on from such a machine, or inside a new local frame of such a machine. -/
inductive Session.Amid (library : Library) (session : Session) (start : Machine) :
    Machine → Prop where
  | seated : Amid library session start (session.seat start)
  | evolved {before after : Machine} {outcome : Outcome Unit}
      (standing : Amid library session start before)
      (evolves : Evolves library before outcome after) : Amid library session start after
  | entered {machine : Machine} (standing : Amid library session start machine) (bindings : Table)
      (base : Option Chain) : Amid library session start (machine.enter .locals bindings base).2

namespace Session.Amid

variable {session : Session} {start machine : Machine}

/-- Throughout a session the policy is the session's. -/
theorem policy (hamid : session.Amid library start machine) :
    machine.evaluator.policy = session.policy.getD Policy.permissive := by
  induction hamid with
  | seated => exact session.policy_seat start
  | evolved _ evolves ih => exact evolves.continues.policy.trans ih
  | entered _ bindings base ih =>
    rw [Machine.evaluator_enter, Evaluator.policy_withChain]
    exact ih

theorem closure? (hamid : session.Amid library start machine) {index : Nat} {closure : Closure}
    (hclosure : start.memory.closure? index = some closure) :
    machine.memory.closure? index = some closure := by
  induction hamid with
  | seated => simpa [seat] using hclosure
  | evolved _ evolves ih => exact evolves.continues.closure? ih
  | entered _ bindings base ih =>
    rw [Machine.memory_enter]
    exact ih

end Session.Amid

/-- A machine after a session has ended, with the policy that governs it: between sessions the
permissive one, and in the middle of a later session that session's own. -/
inductive Machine.Later (library : Library) (ended : Machine) : Policy → Machine → Prop where
  | between {late : Machine} (reached : Reaches library ended late) :
      Later library ended Policy.permissive late
  | amid (session : Session) {next late : Machine} (reached : Reaches library ended next)
      (amid : session.Amid library next late) :
      Later library ended (session.policy.getD Policy.permissive) late

/-- A call outside of any session only adds to the journal. -/
theorem Run.events_suffix_callOutside (library : Library) (callee : Value) (arguments : List Value)
    (machine : Machine) :
    machine.events <:+ (Run.callOutside library callee arguments machine).2.events :=
  (Evolves.continues ((Eval.evolving_engine library Session.depth).call callee arguments none
    machine)).events

/-- Whether an event seeks a member of this name. -/
def Event.reachesFor (name : String) (event : Event) : Bool :=
  match event.sought? with
  | some (_, member) => member.text? == some name
  | none => false

theorem Event.exists_of_reachesFor {name : String} {event : Event}
    (hreaches : event.reachesFor name = true) : ∃ receiver member,
      event.sought? = some (receiver, member) ∧ member.text? = some name := by
  unfold reachesFor at hreaches
  split at hreaches
  · next receiver member hsought => exact ⟨receiver, member, hsought, eq_of_beq hreaches⟩
  · cases hreaches

/-- What is found in a journal, but not in the one that it goes on from, is found behind that. -/
theorem exists_cut_of_any {p : Event → Bool} {start journal : List Event}
    (hsuffix : start <:+ journal) (hany : journal.any p = true) (hnone : start.any p = false) :
    ∃ later event earlier, journal = later ++ event :: earlier ∧ start <:+ earlier ∧
      p event = true := by
  obtain ⟨added, rfl⟩ := hsuffix
  rw [List.any_append, hnone, Bool.or_false] at hany
  obtain ⟨event, hmem, hevent⟩ := List.any_eq_true.mp hany
  obtain ⟨later, behind, rfl⟩ := List.append_of_mem hmem
  exact ⟨later, event, behind ++ start, by rw [List.append_assoc, List.cons_append],
    List.suffix_append _ _, hevent⟩

end Treewalk
