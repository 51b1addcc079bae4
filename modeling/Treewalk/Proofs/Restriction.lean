import Treewalk.Proofs.EscapedClosures
import Treewalk.Proofs.Lifecycle
import Treewalk.Proofs.LockstepWalk

/-!
A policy can only cut a run short. Take one session twice, under a policy whose answers have no side
effect and under the permissive policy. Up to the first refused query the two runs do the same deeds
in the same order: they ask the same queries, send the same members with the same arguments, look up
the same constants and write the same variables. Without a refusal they do not differ at all but for
the policy that they hold (`policy_only_cuts_short`). But a script that reaches for the policy itself can
see which one it is (`reached_policy_told_apart`).

The two runs are paired on everything (`Session.restriction`). They part where the policy refuses,
which leaves a mark in both journals: the query that was refused in one was granted in the other. And
they part where something of the interpreter itself is reached for.
-/

set_option autoImplicit false
set_option relaxedAutoImplicit false

namespace Treewalk

/-! ### Deeds up to a refusal -/

/-- Whether an event is a query that was refused. -/
def Event.isDenial : Event → Bool
  | .query _ _ _ _ granted => !granted
  | _ => false

/-- An event without the answer, if it is a query: what was asked, and not what became of it. -/
def Event.unanswered : Event → Event
  | .query receiver member node published _ => .query receiver member node published true
  | event => event

/-- The events up to the first refused query, which is still one of them. -/
def upToDenial : List Event → List Event
  | [] => []
  | event :: rest => if event.isDenial then [event] else event :: upToDenial rest

theorem upToDenial_isPrefix (events : List Event) : upToDenial events <+: events := by
  induction events with
  | nil => exact List.prefix_rfl
  | cons event rest ih =>
    unfold upToDenial
    split
    · exact (List.prefix_cons_inj event).mpr (List.nil_prefix)
    · exact (List.prefix_cons_inj event).mpr ih

/-- What comes after a refusal does not matter. -/
theorem upToDenial_append_isPrefix (earlier : List Event) {denial : Event}
    (hdenial : denial.isDenial = true) (later : List Event) :
    upToDenial (earlier ++ denial :: later) <+: earlier ++ [denial] := by
  induction earlier with
  | nil =>
    rw [List.nil_append, upToDenial, if_pos hdenial]
    exact List.prefix_rfl
  | cons event rest ih =>
    rw [List.cons_append, upToDenial]
    split
    · exact (List.prefix_cons_inj event).mpr (List.nil_prefix)
    · exact (List.prefix_cons_inj event).mpr ih

/-- What comes before any refusal does. -/
theorem mem_upToDenial {earlier : List Event}
    (hearlier : ∀ event ∈ earlier, event.isDenial = false) (event : Event) (later : List Event) :
    event ∈ upToDenial (earlier ++ event :: later) := by
  induction earlier with
  | nil =>
    rw [List.nil_append, upToDenial]
    split <;> exact List.mem_cons_self
  | cons first rest ih =>
    obtain ⟨hfirst, hrest⟩ := List.forall_mem_cons.mp hearlier
    rw [List.cons_append, upToDenial, if_neg (Bool.eq_false_iff.mp hfirst)]
    exact List.mem_cons_of_mem first (ih hrest)

/-- Where one run was refused what the other was granted after the same events, the first one up to
its refusal asked and did nothing that the second one did not. -/
theorem upToDenial_isPrefix_of_parted (common later others : List Event) (receiver : Value)
    (member node : Tree) (published : Bool) :
    (upToDenial (common ++ .query receiver member node published false :: later)).map
        Event.unanswered <+:
      (common ++ .query receiver member node published true :: others).map Event.unanswered := by
  refine ((upToDenial_append_isPrefix common rfl later).map Event.unanswered).trans
    ⟨others.map Event.unanswered, ?_⟩
  simp only [List.map_append, List.map_cons, List.append_assoc, List.singleton_append,
    List.map_nil, Event.unanswered]

/-! ### Silent policies -/

/-- A policy that is silent on a query: wherever it is asked, it answers and does nothing else. -/
def Policy.SilentOn (library : Library) (policy : Policy) (receiver : Value) (member node : Tree) :
    Prop :=
  ∀ depth machine, ∃ answer,
    Run.perform (Eval.engine library depth) (policy.authorize library receiver member node)
      machine = (.value answer, machine)

/-- The policy that refuses some names is silent on every query. -/
theorem Policy.silentOn_denying (library : Library) (names : List String) (receiver : Value)
    (member node : Tree) : (denying names).SilentOn library receiver member node := by
  intro depth machine
  unfold denying
  dsimp only
  split <;> exact ⟨_, rfl⟩

/-! ### The pair of runs -/

namespace Session

/-- Two runs part in one of three ways: a query was refused in one and granted in the other after the
same deeds; or there is a query, asked by the permissive run, on which the policy is not silent; or after
the same deeds something of the interpreter itself was reached for. -/
inductive PartedBy (library : Library) (policy : Policy) (before other first second : Machine) :
    Prop where
  | refused (receiver : Value) (member node : Tree) (published : Bool) (common : List Event)
      (refused : .query receiver member node published false :: common ++ before.deeds <:+ first.deeds)
      (granted : .query receiver member node published true :: common ++ other.deeds <:+ second.deeds)
  | loud (receiver : Value) (member node : Tree) (published : Bool) (common : List Event)
      (asked : .query receiver member node published true :: common ++ other.deeds <:+ second.deeds)
      (loud : ¬ policy.SilentOn library receiver member node)
  | reached (receiver : Value) (name : String) (common : List Event)
      (reached : .reach receiver name :: common ++ before.deeds <:+ first.deeds)
      (beside : common ++ other.deeds <:+ second.deeds)

/-- A session under a policy beside the same session under the permissive policy. -/
def restriction (library : Library) (policy : Policy) (session : Session) (machine : Machine) :
    Pairing where
  realm := .everything
  left := { session with policy := some policy }.seat machine
  right := { session with policy := none }.seat machine
  Parted := PartedBy library policy ({ session with policy := some policy }.seat machine)
    ({ session with policy := none }.seat machine)
  whole_of_parted _ := Realm.whole_everything
  parted_mono := by
    rintro first second later latter hparted hfirst hsecond
    have hleft := Machine.deeds_suffix hfirst.events
    have hright := Machine.deeds_suffix hsecond.events
    cases hparted with
    | refused receiver member node published common refused granted =>
      exact .refused _ _ _ _ _ (refused.trans hleft) (granted.trans hright)
    | loud receiver member node published common asked loud =>
      exact .loud _ _ _ _ _ (asked.trans hright) loud
    | reached receiver name common reached beside =>
      exact .reached _ _ _ (reached.trans hleft) (beside.trans hright)

variable (library : Library) (policy : Policy) (session : Session) (machine : Machine)

/-- The seats of the two sessions differ in the policy alone. -/
theorem seat_permissive : { session with policy := none }.seat machine =
    { { session with policy := some policy }.seat machine with
      evaluator :=
        { ({ session with policy := some policy }.seat machine).evaluator with
          policy := Policy.permissive } } := by
  unfold seat opened Machine.logged
  split <;> rfl

theorem coupled_seat : (session.restriction library policy machine).Coupled
    ({ session with policy := some policy }.seat machine)
    ({ session with policy := none }.seat machine) := by
  have hseat := session.seat_permissive policy machine
  have hpolicy : (session.restriction library policy machine).right.evaluator.policy =
      Policy.permissive := policy_seat _ _
  have hmemory := congrArg Machine.memory hseat
  have hhandlers := congrArg Machine.handlers hseat
  have hframes := congrArg Machine.frames hseat
  refine Pairing.coupled_of_whole Realm.whole_everything hmemory hhandlers ?_ hframes
  rw [hpolicy]
  exact congrArg Machine.evaluator hseat

/-- The policy has no bearing on what is logged. -/
theorem threshold_restriction : (session.restriction library policy machine).left.threshold =
    (session.restriction library policy machine).right.threshold := by
  have hseat := session.seat_permissive policy machine
  exact (congrArg Machine.threshold hseat).symm

/-- A query to the permissive policy is granted, and that is all. -/
theorem authorize_of_permissive {engine : Engine} (receiver : Value) (member node : Tree)
    {asking : Machine} (hpolicy : asking.evaluator.policy = Policy.permissive) :
    Eval.authorize library engine receiver member node asking =
      (.value (), (Eval.requested receiver member node asking).noted
        (.query receiver member node
          (Eval.isPublished library asking.memory receiver member) true)) := by
  rw [Eval.authorize_apply, hpolicy]
  rfl

/-- The query is asked on both sides. Either both grant it, or the runs part here. -/
theorem inStep_authorize_restriction (depth : Nat) (receiver : Value) (member node : Tree) :
    (Eval.authorize library (Eval.engine library depth) receiver member node).InStep
      (session.restriction library policy machine) where
  grows _ asking := .of_continues
    (Eval.evolving_authorize (Eval.evolving_engine library depth) _ _ _ asking).continues
  joined left right hcoupled := by
    have hpolicy : left.evaluator.policy = policy :=
      hcoupled.policy.trans (policy_seat _ _)
    have hpermissive : right.evaluator.policy = Policy.permissive := by
      rw [hcoupled.evaluator]
      exact policy_seat _ _
    have hrequested := hcoupled.requested receiver member node
    obtain ⟨common, hleft, hright⟩ := hrequested.deeds
    have hnoted (asked : Machine) (published granted : Bool) :
        (asked.noted (.query receiver member node published granted)).deeds =
          .query receiver member node published granted :: asked.deeds :=
      asked.deeds_noted _
    rw [authorize_of_permissive library receiver member node hpermissive, hcoupled.memory]
    by_cases hsilent : policy.SilentOn library receiver member node
    · obtain ⟨answer, hanswer⟩ := hsilent depth (Eval.requested receiver member node left)
      rw [Eval.authorize_apply, hpolicy, hanswer]
      dsimp only
      split
      · next hgranted =>
        rw [hgranted]
        exact .coupled (fun _ _ ↦ trivial) (hrequested.noted _)
      · next hrefused =>
        rw [Bool.eq_false_iff.mpr hrefused]
        refine .parted (.refused receiver member node
          (Eval.isPublished library left.memory receiver member) common ?_ ?_)
        · rw [Machine.deeds_logged, hnoted, hleft]
          exact List.suffix_rfl
        · rw [hnoted, hright]
          exact List.suffix_rfl
    · refine .parted (.loud receiver member node
        (Eval.isPublished library left.memory receiver member) common ?_ hsilent)
      rw [hnoted, hright]
      exact List.suffix_rfl

/-- Whoever reaches for the interpreter may find the policy, and so the runs part. -/
theorem inStep_reach_restriction (receiver : Value) (name : String)
    (arguments : Option (List Value)) :
    (Run.reach receiver name arguments).InStep (session.restriction library policy machine) where
  grows _ asking := by
    have hevolves : (Run.reach receiver name arguments).EvolvesAt library asking :=
      Run.evolving_reach _ _ _ asking
    exact .of_continues (Evolves.continues hevolves)
  joined left right hcoupled := by
    obtain ⟨common, hleft, hright⟩ := hcoupled.deeds
    obtain ⟨effect, hfirst⟩ := Run.reach_snd receiver name arguments left
    obtain ⟨effect', hsecond⟩ := Run.reach_snd receiver name arguments right
    have hdeeds (asked : Machine) (effect : Effect) :
        ((asked.noted (.reach receiver name)).affected effect).deeds =
          .reach receiver name :: asked.deeds := by
      rw [Machine.deeds, Machine.events_affected]
      exact asked.deeds_noted (.reach receiver name)
    refine .parted (.reached receiver name common ?_ ?_)
    · rw [hfirst, hdeeds, hleft]
      exact List.suffix_rfl
    · rw [hsecond, hdeeds, hright]
      exact List.suffix_cons _ _

theorem inStep_evaluate (site : Site) :
    ((Eval.engine library depth).evaluate site).InStep
      (session.restriction library policy machine) :=
  (Eval.inStep_engine (.of_whole Realm.whole_everything library)
    (fun _ name _ _ ↦ session.inStep_reach_restriction library policy machine _ name _)
    (Eval.inStep_trace (session.threshold_restriction library policy machine))
    (fun depth _ receiver member node _ ↦
      session.inStep_authorize_restriction library policy machine depth receiver member node)
    depth).evaluate site

/-- Taking a seat is no deed. -/
theorem deeds_seat : (session.seat machine).deeds = machine.deeds := by
  obtain ⟨inner, outer, hevents⟩ := session.events_seat machine
  unfold Machine.deeds
  rw [hevents]
  rfl

omit library policy in
/-- Deeds that ended up on top of those at the seat are those of the session. -/
theorem deedsSince_finish {ended : Machine} {added : List Event}
    (hdeeds : ended.deeds = added ++ (session.seat machine).deeds) :
    machine.deedsSince (finish ended) = added.reverse := by
  refine Machine.deedsSince_of_append ?_
  rw [← session.deeds_seat machine, ← hdeeds, Machine.deeds, events_finish, Machine.deeds]

/-- What stands on top of the deeds at the seat stands at its place among those of the session. -/
theorem exists_deedsSince_finish {ended : Machine} {event : Event} {common : List Event}
    (hsuffix : event :: common ++ (session.seat machine).deeds <:+ ended.deeds) :
    ∃ later, machine.deedsSince (finish ended) = common.reverse ++ event :: later := by
  obtain ⟨later, hdeeds⟩ := hsuffix
  refine ⟨later.reverse, ?_⟩
  rw [session.deedsSince_finish machine (hdeeds.symm.trans (List.append_assoc _ _ _).symm)]
  simp only [List.reverse_append, List.reverse_cons, List.append_assoc, List.singleton_append]

omit library policy in
theorem mem_deedsSince_finish {ended : Machine} {event : Event} {common : List Event}
    (hsuffix : event :: common ++ (session.seat machine).deeds <:+ ended.deeds) :
    event ∈ machine.deedsSince (finish ended) := by
  obtain ⟨later, hlater⟩ := session.exists_deedsSince_finish machine hsuffix
  rw [hlater]
  exact List.mem_append_right _ List.mem_cons_self

omit library policy session in
/-- Where one session was refused what another one was granted after the same deeds, it has done
nothing else up to its first refusal. -/
theorem upToDenial_finish_isPrefix {first second : Session} {refused granted : Machine}
    {receiver : Value} {member node : Tree} {published : Bool} {common : List Event}
    (hrefused : .query receiver member node published false :: common ++
      (first.seat machine).deeds <:+ refused.deeds)
    (hgranted : .query receiver member node published true :: common ++
      (second.seat machine).deeds <:+ granted.deeds) :
    (upToDenial (machine.deedsSince (finish refused))).map Event.unanswered <+:
      (machine.deedsSince (finish granted)).map Event.unanswered := by
  obtain ⟨later, hlater⟩ := first.exists_deedsSince_finish machine hrefused
  obtain ⟨others, hothers⟩ := second.exists_deedsSince_finish machine hgranted
  rw [hlater, hothers]
  exact upToDenial_isPrefix_of_parted _ later others receiver member node published

end Session

/-- Machines coupled on everything have the same frames. -/
theorem Pairing.Coupled.frames_eq {pairing : Pairing} {left right : Machine}
    (hcoupled : pairing.Coupled left right) (hwhole : pairing.realm.Whole) :
    right.frames = left.frames := by
  refine Array.ext hcoupled.size fun number hright hleft ↦ ?_
  have hframe := hcoupled.frames number (hwhole.frame number)
  unfold Frames.frame at hframe
  rwa [Array.getD_eq_getD_getElem?, Array.getD_eq_getD_getElem?, Array.getElem?_eq_getElem hright,
    Array.getElem?_eq_getElem hleft] at hframe

/-- Two runs that never parted have done the same deeds and leave the same behind. -/
theorem Session.finish_alike_of_coupled {library : Library} {policy : Policy} {session : Session}
    {machine left right : Machine}
    (hcoupled : (session.restriction library policy machine).Coupled left right) :
    machine.deedsSince (finish left) = machine.deedsSince (finish right) ∧
      (finish left).memory = (finish right).memory ∧
      (finish left).frames = (finish right).frames ∧
      (finish left).evaluator = (finish right).evaluator ∧
      (finish left).records = (finish right).records := by
  obtain ⟨added, hleft, hright⟩ := hcoupled.deeds
  refine ⟨?_, ?_, ?_, ?_, ?_⟩
  · rw [deedsSince_finish _ machine hleft, deedsSince_finish _ machine hright]
  · rw [memory_finish, memory_finish, hcoupled.memory]
  · rw [frames_finish, frames_finish, hcoupled.frames_eq Realm.whole_everything]
  · rw [evaluator_finish, evaluator_finish]
  · have hthreshold := session.threshold_restriction library policy machine
    refine ((hcoupled.records hthreshold).finish (hcoupled.threshold hthreshold)).eq_of_eq ?_
    exact (congrArg Machine.records (session.seat_permissive policy machine)).symm

/-! ### The main result -/

/-- A run under the permissive policy is never refused anything. -/
theorem Evolves.granted {library : Library} {before after : Machine} {outcome : Outcome Unit}
    (hevolves : Evolves library before outcome after)
    (hpolicy : before.evaluator.policy = Policy.permissive) {added : List Event}
    (hadded : added ++ before.deeds <:+ after.deeds) : ∀ event ∈ added, event.isDenial = false := by
  intro event hevent
  obtain ⟨rest, hrest⟩ := hadded
  obtain ⟨since, hsince⟩ := hevolves.continues.events
  -- The deeds that were added are among the events that were added.
  have hdeeds : (rest ++ added) ++ before.deeds = since.filter Event.isDeed ++ before.deeds := by
    rw [List.append_assoc, hrest, Machine.deeds, ← hsince, List.filter_append, Machine.deeds]
  have hmem : event ∈ since.filter Event.isDeed := by
    rw [← List.append_cancel_right hdeeds]
    exact List.mem_append_right rest hevent
  obtain ⟨later, earlier, rfl⟩ := List.append_of_mem (List.mem_filter.mp hmem).1
  cases event with
  | query receiver member node published granted =>
    have hunrefused := (hpolicy ▸ hevolves.submitted).unrefused later receiver member node published
      granted (earlier ++ before.events) (by rw [← hsince]; simp) (List.suffix_append _ _)
    rw [hunrefused]
    rfl
  | _ => rfl

/-- A policy that is silent on the queries of a permissive run cuts that run short at most: up to
its first refusal it does the same deeds, and without one it ends in the same way, with the same
memory and bindings. But up to there nothing of the interpreter itself may be reached for. -/
theorem policy_only_cuts_short (library : Library) (policy : Policy) (session : Session)
    (site : Site) (machine : Machine) :
    let restricted := { session with policy := some policy }.run library site machine
    let permitted := { session with policy := none }.run library site machine
    (∀ receiver member node published granted,
      Event.query receiver member node published granted ∈ machine.deedsSince permitted.2 →
        policy.SilentOn library receiver member node) →
    (∀ event ∈ upToDenial (machine.deedsSince restricted.2), event.isReach = false) →
    (upToDenial (machine.deedsSince restricted.2)).map Event.unanswered <+:
      (machine.deedsSince permitted.2).map Event.unanswered ∧
    ((∀ event ∈ machine.deedsSince restricted.2, event.isDenial = false) →
      restricted.1 = permitted.1 ∧
      machine.deedsSince restricted.2 = machine.deedsSince permitted.2 ∧
      restricted.2.memory = permitted.2.memory ∧ restricted.2.frames = permitted.2.frames ∧
      restricted.2.evaluator = permitted.2.evaluator ∧
      restricted.2.records = permitted.2.records) := by
  intro restricted permitted hsilent hunreached
  by_cases hidle : machine.evaluator.running = false
  · have hrestricted : restricted = _ := Session.run_of_idle library _ site hidle
    have hpermitted : permitted = _ := Session.run_of_idle library _ site hidle
    have hjoined := (session.inStep_evaluate library policy machine site).joined _ _
      (session.coupled_seat library policy machine)
    generalize (Eval.engine library Session.depth).evaluate site
      ({ session with policy := some policy }.seat machine) = first at hjoined hrestricted
    have hevolves := (Eval.evolving_engine library Session.depth).evaluate site
      ({ session with policy := none }.seat machine)
    unfold Run.EvolvesAt at hevolves
    generalize (Eval.engine library Session.depth).evaluate site
      ({ session with policy := none }.seat machine) = second at hjoined hpermitted hevolves
    rw [hpermitted] at hsilent
    rw [hrestricted] at hunreached
    rw [hrestricted, hpermitted]
    cases hjoined with
    | coupled within coupled =>
      obtain ⟨hdeeds, hbehind⟩ := Session.finish_alike_of_coupled coupled
      dsimp only
      rw [hdeeds]
      exact ⟨(upToDenial_isPrefix _).map Event.unanswered, fun _ ↦ ⟨rfl, rfl, hbehind⟩⟩
    | parted parted =>
      cases parted with
      | refused receiver member node published common hrefused hgranted =>
        refine ⟨Session.upToDenial_finish_isPrefix machine hrefused hgranted, fun hnone ↦ ?_⟩
        cases hnone _ (Session.mem_deedsSince_finish _ machine hrefused)
      | loud receiver member node published common hasked hloud =>
        exact absurd (hsilent receiver member node published true
          (Session.mem_deedsSince_finish _ machine hasked)) hloud
      | reached receiver name common hreached hbeside =>
        have hgranted := hevolves.granted (Session.policy_seat _ machine) hbeside
        obtain ⟨later, hlater⟩ := Session.exists_deedsSince_finish _ machine hreached
        dsimp only at hunreached
        rw [hlater] at hunreached
        have hmem := mem_upToDenial (fun event hevent ↦ hgranted event (List.mem_reverse.mp hevent))
          (.reach receiver name) later
        cases hunreached _ hmem
  · rw [Bool.not_eq_false] at hidle
    have hrefused (policy : Option Policy) :
        { session with policy := policy }.run library site machine =
          (.failed ⟨.sessionRunning, none⟩, machine) :=
      Session.run_of_running library _ site hidle
    have hsame : restricted = permitted := (hrefused (some policy)).trans (hrefused none).symm
    rw [hsame]
    exact ⟨(upToDenial_isPrefix _).map Event.unanswered, fun _ ↦ ⟨rfl, rfl, rfl, rfl, rfl, rfl⟩⟩

/-- A script sends a text its `upcase` and rescues what goes wrong, under a policy that refuses that
name: there is a refusal, and up to it nothing is done that the permissive run does not do. -/
theorem refused_member_cuts_short :
    let site : Site := ⟨.node "rescue"
      [.node "send" [.node "str" [.leaf (.text "a")], .leaf (.text "upcase")],
        .node "resbody" [.leaf .null, .leaf .null, .node "int" [.leaf (.int 1)]],
        .leaf .null], .common⟩
    let policy := Policy.denying ["upcase"]
    let restricted := Session.run {} { policy := some policy } site {}
    let permitted := Session.run {} {} site {}
    (∀ receiver member node published granted,
      Event.query receiver member node published granted ∈
        ({} : Machine).deedsSince permitted.2 → policy.SilentOn {} receiver member node) ∧
    (∀ event ∈ upToDenial (({} : Machine).deedsSince restricted.2), event.isReach = false) ∧
    (({} : Machine).deedsSince restricted.2).any Event.isDenial = true ∧
    (upToDenial (({} : Machine).deedsSince restricted.2)).map Event.unanswered <+:
      (({} : Machine).deedsSince permitted.2).map Event.unanswered := by
  intro site policy restricted permitted
  have hsilent : ∀ receiver member node published granted,
      Event.query receiver member node published granted ∈
        ({} : Machine).deedsSince permitted.2 → policy.SilentOn {} receiver member node :=
    fun receiver member node _ _ _ ↦ Policy.silentOn_denying {} ["upcase"] receiver member node
  have hunreached : ∀ event ∈ upToDenial (({} : Machine).deedsSince restricted.2),
      event.isReach = false := by decide +kernel
  exact ⟨hsilent, hunreached, by decide +kernel,
    (policy_only_cuts_short {} policy {} site {} hsilent hunreached).1⟩

/-- Whether an event, if it is a query, asks for a member by its name. -/
def Event.asksByName : Event → Bool
  | .query _ member _ _ _ => member.text?.isSome
  | _ => true

/-- The policy that refuses private names is silent on all names. -/
theorem Policy.silentOn_restricted (library : Library) (receiver : Value) {member : Tree}
    (hmember : member.text?.isSome = true) (node : Tree) :
    (restricted none).SilentOn library receiver member node := by
  intro depth machine
  obtain ⟨name, hname⟩ := Option.isSome_iff_exists.mp hmember
  unfold restricted
  simp only [hname]
  split <;> exact ⟨_, rfl⟩

/-- A session reaches for its policy and asks which names are listed. A restricted policy answers, and
the permissive one has no such member, although nothing was refused. -/
theorem reached_policy_told_apart :
    let machine : Machine := { memory := { heap := #[Host.kernelCell] } }
    let session : Session := { context := .cell 0 }
    let policy := Policy.restricted none
    let reached := Tree.sent (Tree.sent Tree.blockEvaluator "capabilities" []) "allowed" []
    let restricted :=
      { session with policy := some policy }.run Host.kernelLibrary ⟨reached, .common⟩ machine
    let permitted := { session with policy := none }.run Host.kernelLibrary ⟨reached, .common⟩ machine
    (∀ receiver member node published granted,
      Event.query receiver member node published granted ∈ machine.deedsSince permitted.2 →
        policy.SilentOn Host.kernelLibrary receiver member node) ∧
    (∀ event ∈ machine.deedsSince restricted.2, event.isDenial = false) ∧
    restricted.1 ≠ permitted.1 := by
  intro machine session policy reached restricted permitted
  have hnames : (machine.deedsSince permitted.2).all Event.asksByName = true := by decide +kernel
  have hgranted : (machine.deedsSince restricted.2).all (fun event ↦ !event.isDenial) = true := by
    decide +kernel
  have hrestricted : restricted.1.isValue = true := by decide +kernel
  have hpermitted : permitted.1.isValue = false := by decide +kernel
  refine ⟨fun receiver member node _ _ hmem ↦
    Policy.silentOn_restricted _ _ (List.all_eq_true.mp hnames _ hmem) _, fun event hevent ↦ ?_,
    fun hsame ↦ ?_⟩
  · simpa using List.all_eq_true.mp hgranted event hevent
  · rw [hsame, hpermitted] at hrestricted
    cases hrestricted

end Treewalk
