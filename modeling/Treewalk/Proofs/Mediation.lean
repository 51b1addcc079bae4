import Treewalk.Proofs.Journal

/-!
Complete mediation. In the journal of a session every member that is sent and every constant that is
looked up stands right on top of a query for the same member of the same receiver, and that query
was put to the session's policy and answered with a value that grants (`Session.mediated_run`). A
query that is not granted ends in a failure that names the receiver, the member and the node, and
adds nothing to the journal but itself. Under a restricted policy nothing private is ever reached,
and with a list of names only what is listed or published for scripts (`Policy.confines_of_grants`).
-/

set_option autoImplicit false
set_option relaxedAutoImplicit false

namespace Treewalk

/-- The receiver and the member that an event seeks, if it does: a member that is sent, or a
constant that is looked up. -/
def Event.sought? : Event → Option (Value × Tree)
  | .invocation receiver member _ _ => some (receiver, member)
  | .lookup owner name => some (owner, name)
  | _ => none

/-- Since a journal stood at its start, whatever was reached for had been granted: right before it
stands a query for the same member of the same receiver, and the answer that this policy gave to the
query grants it. -/
def Mediated (library : Library) (policy : Policy) (start journal : List Event) : Prop :=
  ∀ later event earlier receiver member, journal = later ++ event :: earlier → start <:+ earlier →
    event.sought? = some (receiver, member) →
    ∃ node published rest moment,
      earlier = .query receiver member node published true :: rest ∧ start <:+ rest ∧
      moment.events = rest ∧ moment.evaluator.policy = policy ∧
      (Event.query receiver member node published true).Fits library moment

/-- Since a journal stood at its start, whatever was reached for has a name without an underscore in
front; and if names are listed, it is one of them, or it was one published for scripts when it was
asked for. -/
def Confined (allowed : Option (List String)) (start journal : List Event) : Prop :=
  ∀ later event earlier receiver member, journal = later ++ event :: earlier → start <:+ earlier →
    event.sought? = some (receiver, member) →
    ∃ name, member.text? = some name ∧ Text.startsWith ['_'] name.toList = false ∧
      ∀ names, allowed = some names → name ∈ names ∨
        ∃ node rest, earlier = .query receiver member node true true :: rest

/-! ### Granted queries -/

/-- What is sought stands on top of a granted query. -/
theorem Event.Fits.query_of_sought {library : Library} {moment : Machine} {event : Event}
    {receiver : Value} {member : Tree} (hfits : event.Fits library moment)
    (hsought : event.sought? = some (receiver, member)) :
    ∃ node published, moment.events.head? = some (.query receiver member node published true) := by
  cases event with
  | invocation =>
    obtain ⟨rfl, rfl⟩ := Prod.mk.inj (Option.some.inj hsought)
    exact hfits
  | lookup =>
    obtain ⟨rfl, rfl⟩ := Prod.mk.inj (Option.some.inj hsought)
    exact hfits
  | _ => exact nomatch hsought

/-- A run is mediated, provided that its first event seeks nothing. -/
theorem Evolves.mediated_of_opening {library : Library} {before after : Machine}
    {outcome : Outcome Unit} (hevolves : Evolves library before outcome after)
    (hopening : ∀ event : Event, event :: before.events <:+ after.events → event.sought? = none) :
    Mediated library before.evaluator.policy before.events after.events := by
  intro later event earlier receiver member hcut hnew hsought
  obtain ⟨moment, -, rfl, hfits⟩ := hevolves.moment hcut hnew
  obtain ⟨node, published, hhead⟩ := hfits.query_of_sought hsought
  obtain ⟨rest, hrest⟩ := List.head?_eq_some_iff.mp hhead
  -- The query is no older than the run, for else the event would be the first one of the run.
  have hold : before.events <:+ rest := by
    rw [hrest] at hnew
    rcases List.suffix_cons_iff.mp hnew with heq | hrest
    · rw [hrest, ← heq] at hcut
      rw [hopening event ⟨later, hcut.symm⟩] at hsought
      cases hsought
    · exact hrest
  rw [hrest, List.append_cons] at hcut
  obtain ⟨asking, hduring, hasking, hquery⟩ := hevolves.moment hcut hold
  exact ⟨node, published, rest, asking, hrest, hold, hasking, hduring.policy, hquery⟩

/-- A run is mediated, provided that it does not begin right after a query. -/
theorem Evolves.mediated {library : Library} {before after : Machine} {outcome : Outcome Unit}
    (hevolves : Evolves library before outcome after)
    (hstart : ∀ receiver member node published,
      before.events.head? ≠ some (.query receiver member node published true)) :
    Mediated library before.evaluator.policy before.events after.events := by
  refine hevolves.mediated_of_opening fun event ⟨later, hcut⟩ ↦ ?_
  obtain ⟨moment, -, hmoment, hfits⟩ := hevolves.moment hcut.symm List.suffix_rfl
  rcases hsought : event.sought? with _ | ⟨receiver, member⟩
  · rfl
  · obtain ⟨node, published, hhead⟩ := hfits.query_of_sought hsought
    rw [hmoment] at hhead
    exact absurd hhead (hstart receiver member node published)

/-! ### Restricted policies -/

/-- An answer that is false grants nothing. -/
theorem granted_of_perform_bool {engine : Engine} {granted : Bool} {asked answered : Machine}
    {answer : Value}
    (hanswer : Run.perform engine (.done (.bool granted)) asked = (.value answer, answered))
    (hgranted : answered.memory.isGranted answer = true) : granted = true := by
  obtain ⟨hvalue, -⟩ := Prod.mk.inj hanswer
  rw [← Outcome.value.inj hvalue] at hgranted
  exact hgranted

/-- Only a published member is found to be one. -/
theorem Policy.publishes_of_grants {library : Library} {receiver : Value} {name : String}
    {engine : Engine} {asked answered : Machine} {answer : Value}
    (hanswer : Run.perform engine (isPublished library receiver name) asked =
      (.value answer, answered))
    (hgranted : answered.memory.isGranted answer = true) :
    library.publishes asked.memory receiver name = true := by
  unfold isPublished at hanswer
  simp only [Run.perform] at hanswer
  split at hanswer
  · cases hanswer
  · -- The parameter names of a block are no method, whatever they turn out to be.
    rw [Run.perform, Run.bind] at hanswer
    split at hanswer
    · exact absurd (granted_of_perform_bool hanswer hgranted) Bool.false_ne_true
    all_goals cases hanswer
  · exact granted_of_perform_bool hanswer hgranted

/-- A restricted policy grants no private member, and with a list of names only members that are
listed or published. -/
theorem Policy.confines_of_grants {library : Library} {allowed : Option (List String)}
    {receiver : Value} {member node : Tree} {engine : Engine} {asked answered : Machine}
    {answer : Value}
    (hanswer : Run.perform engine
      ((restricted allowed).authorize library receiver member node) asked =
        (.value answer, answered))
    (hgranted : answered.memory.isGranted answer = true) :
    ∃ name, member.text? = some name ∧ Text.startsWith ['_'] name.toList = false ∧
      ∀ names, allowed = some names →
        name ∈ names ∨ Eval.isPublished library asked.memory receiver member = true := by
  unfold restricted at hanswer
  dsimp only at hanswer
  split at hanswer
  · cases hanswer
  · next name hname =>
    split at hanswer
    · exact absurd (granted_of_perform_bool hanswer hgranted) Bool.false_ne_true
    · next hprivate =>
      refine ⟨name, hname, Bool.eq_false_iff.mpr hprivate, ?_⟩
      rintro names rfl
      dsimp only at hanswer
      split at hanswer
      · next hlisted => exact Or.inl (List.contains_iff_mem.mp hlisted)
      · refine Or.inr ?_
        unfold Eval.isPublished
        rw [hname]
        exact publishes_of_grants hanswer hgranted

/-- Where a restricted policy mediates, it confines. -/
theorem Mediated.confined {library : Library} {allowed : Option (List String)}
    {start journal : List Event}
    (hmediated : Mediated library (Policy.restricted allowed) start journal) :
    Confined allowed start journal := by
  intro later event earlier receiver member hcut hnew hsought
  obtain ⟨node, published, rest, moment, hearlier, -, -, hpolicy, hfits⟩ :=
    hmediated later event earlier receiver member hcut hnew hsought
  obtain ⟨engine, answer, asked, hasked, hanswer, hpublished, hgranted⟩ := hfits
  rw [hasked, hpolicy] at hanswer
  obtain ⟨name, hname, hprivate, hnames⟩ := Policy.confines_of_grants hanswer hgranted.symm
  refine ⟨name, hname, hprivate, fun names hallowed ↦ ?_⟩
  refine (hnames names hallowed).imp_right fun hmarked ↦ ⟨node, rest, ?_⟩
  rw [hearlier, hpublished, hmarked]

/-! ### Sessions -/

/-- Mediation goes back over an event that reaches for nothing. -/
theorem Mediated.of_cons {library : Library} {policy : Policy} {event : Event}
    {start journal : List Event} (hmediated : Mediated library policy (event :: start) journal)
    (hevent : event.sought? = none) (hsuffix : event :: start <:+ journal) :
    Mediated library policy start journal := by
  intro later reaching earlier receiver member hcut hnew hsought
  rcases cut_cases hcut hsuffix with hlater | ⟨rest, hrest⟩
  · obtain ⟨node, published, rest, moment, hearlier, hrest, hmoment⟩ :=
      hmediated later reaching earlier receiver member hcut hlater hsought
    exact ⟨node, published, rest, moment, hearlier, (List.suffix_cons _ _).trans hrest, hmoment⟩
  · obtain ⟨rfl, -⟩ := cut_cons hrest hnew
    rw [hevent] at hsought
    cases hsought

/-- A session is mediated by its own policy. -/
theorem Session.mediated_run (library : Library) (session : Session) (site : Site)
    (machine : Machine) :
    Mediated library (session.policy.getD Policy.permissive) machine.events
      (session.run library site machine).2.events := by
  rcases session.run_cases library site machine with hsame | ⟨outcome, ended, hevolves, hended⟩
  · intro later event earlier receiver member hcut hnew
    rw [hsame] at hcut
    exact absurd hnew (not_suffix_of_cut hcut)
  · obtain ⟨inner, outer, hseat⟩ := session.events_seat machine
    have hsuffix := hevolves.continues.events
    have hmediated := hevolves.mediated (by rw [hseat]; nofun)
    rw [session.policy_seat] at hmediated
    rw [hseat] at hmediated hsuffix
    rw [hended, events_finish]
    exact (hmediated.of_cons rfl hsuffix).of_cons rfl ((List.suffix_cons _ _).trans hsuffix)

/-! ### Refused queries -/

namespace Eval

/-- How a query ends that was answered but not granted: the query is noted and logged, and the
failure has the receiver, the member and the node. -/
def denial {α : Type} (library : Library) (receiver : Value) (member node : Tree)
    (asked answered : Machine) : Outcome α × Machine :=
  let kind := answered.memory.kindName receiver
  let noted := answered.noted
    (.query receiver member node (isPublished library asked.memory receiver member) false)
  (.failed ⟨.denied receiver kind member, some node⟩,
    noted.logged .warning .evaluator (denialText kind member))

variable {library : Library} {engine : Engine} {receiver answer : Value} {node : Tree}
  {machine answered : Machine}

theorem authorize_of_denied {member : Tree}
    (hanswer : Run.perform engine
      (machine.evaluator.policy.authorize library receiver member node)
      (requested receiver member node machine) = (.value answer, answered))
    (hdenied : answered.memory.isGranted answer = false) :
    authorize library engine receiver member node machine =
      denial library receiver member node machine answered := by
  rw [authorize_apply, hanswer]
  dsimp only
  rw [hdenied, if_neg Bool.false_ne_true]
  rfl

theorem dispatch_of_denied {member : Tree} (arguments : List Value) (block : Option Value)
    (receiverNode : Tree)
    (hanswer : Run.perform engine
      (machine.evaluator.policy.authorize library receiver member node)
      (requested receiver member node machine) = (.value answer, answered))
    (hdenied : answered.memory.isGranted answer = false) :
    dispatch library engine receiver member arguments block node receiverNode machine =
      denial library receiver member node machine answered := by
  unfold dispatch
  rw [Run.bind_apply, authorize_of_denied hanswer hdenied]
  rfl

theorem resolve_of_denied {name : Site}
    (hanswer : Run.perform engine
      (machine.evaluator.policy.authorize library receiver name.tree node)
      (requested receiver name.tree node machine) = (.value answer, answered))
    (hdenied : answered.memory.isGranted answer = false) :
    resolve library engine receiver name node machine =
      denial library receiver name.tree node machine answered := by
  unfold resolve
  rw [Run.bind_apply, authorize_of_denied hanswer hdenied]
  rfl

end Eval

end Treewalk
