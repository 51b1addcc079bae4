import Treewalk.Proofs.LockstepWalk

/-!
Secluded sessions. A session is secluded in a realm when the realm leads nowhere else and all that
the session is given lies in it: its context, its bindings, and what the host library and the policy
hand out. What lies outside of the realm is then as good as not there. Cells and frames outside stay
as they are (`Realm.Spares`), and on any other machine that is the same as far as the realm goes the
session comes to the same (`Session.secluded_run`): it ends alike, leaves the same memory, and adds
the same deeds, requests and records.

Of the state that an evaluator is left in, a session takes over only the node evaluated last. That
node is shown to nobody before the first node of the session takes its place, which is why the
lockstep begins there (`Eval.joined_root`).
-/

set_option autoImplicit false
set_option relaxedAutoImplicit false

namespace Treewalk

/-! ### Realms closed on a machine -/

/-- A realm that leads nowhere else on a machine. Whatever comes to be is in it. -/
structure Realm.ClosedOn (realm : Realm) (machine : Machine) : Prop where
  memory : Within realm machine.memory
  bound : ∀ number, realm.frame number → Within realm (machine.frames.frame number)
  newFrames : ∀ number, machine.frames.size ≤ number → realm.frame number
  handlers : Within realm machine.handlers

/-- A machine that is another one as far as a realm goes. -/
structure Realm.SameOn (realm : Realm) (machine other : Machine) : Prop where
  memory : other.memory = machine.memory
  size : other.frames.size = machine.frames.size
  frames : ∀ number, realm.frame number →
    other.frames.frame number = machine.frames.frame number
  handlers : other.handlers = machine.handlers
  threshold : other.threshold = machine.threshold

/-- What is outside of a realm stays as it is, and the realm goes on leading nowhere else. -/
structure Realm.Spares (realm : Realm) (before after : Machine) : Prop where
  closed : realm.ClosedOn after
  cells : ∀ address, ¬ realm.cell address →
    after.memory.heap[address]? = before.memory.heap[address]?
  frames : ∀ number, ¬ realm.frame number →
    after.frames.frame number = before.frames.frame number

namespace Realm.Spares

variable {realm : Realm}

theorem refl {machine : Machine} (hclosed : realm.ClosedOn machine) :
    realm.Spares machine machine :=
  ⟨hclosed, fun _ _ ↦ rfl, fun _ _ ↦ rfl⟩

theorem trans {first middle last : Machine} (hfirst : realm.Spares first middle)
    (hlast : realm.Spares middle last) : realm.Spares first last where
  closed := hlast.closed
  cells address haddress :=
    (hlast.cells address haddress).trans (hfirst.cells address haddress)
  frames number hnumber := (hlast.frames number hnumber).trans (hfirst.frames number hnumber)

end Realm.Spares

/-- Two runs that come to the same, each on a machine of its own. -/
structure Run.Alike {α : Type} (machine other : Machine) (first second : Outcome α × Machine) :
    Prop where
  outcome : second.1 = first.1
  memory : second.2.memory = first.2.memory
  handlers : second.2.handlers = first.2.handlers
  deeds : GrownAlike machine.deeds other.deeds first.2.deeds second.2.deeds
  requests : GrownAlike machine.requests other.requests first.2.requests second.2.requests
  records : GrownAlike machine.records other.records first.2.records second.2.records
  threshold : second.2.threshold = first.2.threshold

/-- A session with all that it is given in a realm. -/
structure Session.Confined (realm : Realm) (library : Library) (session : Session) : Prop where
  context : Within realm session.context
  locals : Within realm session.locals
  globals : Within realm session.globals
  host : library.Confined realm
  policy : (session.policy.getD Policy.permissive).Confined realm library

namespace Machine

variable (severity : Log.Severity) (source : Log.Source) (message : String) (machine : Machine)

@[simp] theorem requests_logged :
    (machine.logged severity source message).requests = machine.requests := by
  unfold logged
  split <;> rfl

@[simp] theorem threshold_logged :
    (machine.logged severity source message).threshold = machine.threshold := by
  unfold logged
  split <;> rfl

end Machine

/-! ### Queries to one policy -/

namespace Eval

open Run

theorem inStep_keepRequest {pairing : Pairing} (receiver : Value) (member node : Tree) :
    (keepRequest receiver member node).InStep pairing :=
  inStep_change (fun machine ↦ by
    unfold requested
    split <;> exact ⟨List.suffix_rfl, List.prefix_rfl⟩) fun _ _ hcoupled ↦
      hcoupled.requested receiver member node

/-- When both machines have one policy, and it stays within the realm, its queries are in step. -/
theorem inStep_authorize {pairing : Pairing} {library : Library} {engine : Engine}
    (hengine : engine.InStep pairing)
    (hsame : pairing.right.evaluator.policy = pairing.left.evaluator.policy)
    (hpolicy : pairing.left.evaluator.policy.Confined pairing.realm library) {receiver : Value}
    (hreceiver : Within pairing.realm receiver) (member node : Tree) :
    (authorize library engine receiver member node).InStep pairing := by
  refine inStep_bind (inStep_keepRequest receiver member node) fun _ _ ↦
    inStep_bind (inStep_look fun left right hcoupled ↦ ⟨by rw [hcoupled.memory], trivial⟩)
      fun published _ ↦ ?_
  refine inStep_look_bind (fun policy ↦ policy.Confined pairing.realm library)
    (fun left right hcoupled ↦ ⟨?_, hcoupled.policy ▸ hpolicy⟩)
    (fun hwhole policy _ _ _ _ _ _ ↦ Action.confinedOn_of_whole hwhole _ _) fun policy hasked ↦ ?_
  · rw [hcoupled.evaluator, hcoupled.policy]
    exact hsame
  · refine inStep_bind (inStep_perform hengine (hasked receiver member node hreceiver))
      fun answer _ ↦
        inStep_bind (inStep_look fun left right hcoupled ↦ ⟨by rw [hcoupled.memory], trivial⟩)
          fun granted _ ↦ inStep_bind (inStep_note _) fun _ _ ↦ ?_
    split
    · exact inStep_pure trivial
    · exact inStep_bind
        (inStep_look fun left right hcoupled ↦ ⟨by rw [hcoupled.memory], trivial⟩)
        fun kind _ ↦ inStep_bind (inStep_log _ _ _) fun _ _ ↦ inStep_refuseAt _ _

end Eval

/-! ### The first node -/

/-- The machine with another node as the one evaluated last. -/
def Machine.pointedAt (current : Option Tree) (machine : Machine) : Machine :=
  { machine with evaluator := { machine.evaluator with current := current } }

theorem Pairing.Coupled.pointedAt_eq {pairing : Pairing} {left right : Machine}
    (hcoupled : pairing.Coupled left right) :
    right.pointedAt left.evaluator.current = right := by
  have hcurrent : left.evaluator.current = right.evaluator.current := by
    rw [hcoupled.evaluator]
  rw [hcurrent]
  rfl

namespace Eval

open Run

/-- The evaluation of a tree is over after the visit, or else the tree becomes the node evaluated
last before anything is done: its construct has a meaning, or the handler of its tag is called. -/
theorem step_cases (library : Library) (engine : Engine) (site : Site)
    (handlers : List (String × Value)) :
    (∃ outcome : Outcome Value, (∀ realm : Realm, Within realm outcome) ∧
      ∀ machine, machine.handlers = handlers → step library engine site machine =
        (outcome, machine.noted (.visit site.tree machine.evaluator))) ∨
    ∃ run : Run Value,
      ((∃ construct inner children, site.tree = .node (Construct.tag construct) inner ∧
          run = node library engine construct site children) ∨
        ∃ tag handler, handlers.lookup tag = some handler ∧
          run = callValue library engine handler [site.toValue] none) ∧
      ∀ machine, machine.handlers = handlers → step library engine site machine =
        run ((machine.noted (.visit site.tree machine.evaluator)).pointedAt (some site.tree)) := by
  obtain ⟨tree, mark⟩ := site
  rcases tree with scalar | ⟨tag, children⟩
  · refine Or.inl ?_
    cases scalar with
    | null =>
      exact ⟨.value .nil, fun _ ↦ within_value within_nothing, fun _ _ ↦ rfl⟩
    | _ => exact ⟨.failed ⟨.notANode _, none⟩, fun _ ↦ within_failed _, fun _ _ ↦ rfl⟩
  · rcases hconstruct : Construct.ofTag? tag with _ | construct
    · have hforeign (machine : Machine) : step library engine ⟨.node tag children, mark⟩ machine =
          foreign library engine tag ⟨.node tag children, mark⟩
            (machine.noted (.visit (.node tag children) machine.evaluator)) := by
        simp only [step, hconstruct]
        rfl
      rcases hfound : handlers.lookup tag with _ | handler
      · refine Or.inl ⟨.failed ⟨.unsupportedConstruct tag, some (.node tag children)⟩,
          fun _ ↦ within_failed _, fun machine hhandlers ↦ ?_⟩
        have hlookup : (machine.noted (.visit (.node tag children)
            machine.evaluator)).handlers.lookup tag = none := hhandlers ▸ hfound
        rw [hforeign, foreign_of_none hlookup]
      · refine Or.inr ⟨_, Or.inr ⟨tag, handler, hfound, rfl⟩, fun machine hhandlers ↦ ?_⟩
        have hlookup : (machine.noted (.visit (.node tag children)
            machine.evaluator)).handlers.lookup tag = some handler := hhandlers ▸ hfound
        rw [hforeign, foreign_of_some hlookup]
        rfl
    · obtain rfl : construct.tag = tag := by simpa using List.find?_some hconstruct
      refine Or.inr ⟨_, Or.inl ⟨construct, children, Site.childrenOf mark children, rfl, rfl⟩,
        fun machine _ ↦ ?_⟩
      simp only [step, hconstruct]
      rfl

/-- Which node was evaluated last makes no difference to the evaluation of a tree: the right machine
may have any. -/
theorem joined_root {pairing : Pairing} {library : Library} {depth : Nat}
    (hground : Ground pairing library (engine library depth)) (site : Site) (current : Option Tree)
    {left right : Machine} (hcoupled : pairing.Coupled left right) :
    pairing.Joined (step library (engine library depth) site left)
      ((step library (engine library depth) site (right.pointedAt current)).1,
        (step library (engine library depth) site (right.pointedAt current)).2.pointedAt
          (step library (engine library depth) site left).2.evaluator.current) := by
  have hvisited : pairing.Coupled (left.noted (.visit site.tree left.evaluator))
      (right.noted (.visit site.tree (right.pointedAt current).evaluator)) :=
    hcoupled.passed rfl rfl
  have hhandlers : (right.pointedAt current).handlers = left.handlers := hcoupled.handlers
  rcases step_cases library (engine library depth) site left.handlers with
    ⟨outcome, houtcome, hstep⟩ | ⟨run, hrun, hstep⟩
  · rw [hstep _ rfl, hstep _ hhandlers]
    refine .coupled (houtcome _) ?_
    rw [← hvisited.pointedAt_eq] at hvisited
    exact hvisited
  · have hfooting := footing_inStep hground
    have hjoined : pairing.Joined
        (run ((left.noted (.visit site.tree left.evaluator)).pointedAt (some site.tree)))
        (run (((right.pointedAt current).noted
          (.visit site.tree (right.pointedAt current).evaluator)).pointedAt (some site.tree))) := by
      have hmoved := hvisited.moved site.tree
      rcases hrun with ⟨construct, inner, children, hsite, rfl⟩ | ⟨tag, handler, hfound, rfl⟩
      · exact (hfooting.node construct hsite children).joined _ _ hmoved
      · exact (inStep_callValue hground (within_lookup hcoupled.handled tag handler hfound)
          (within_singleton (within_toValue site)) within_none).joined _ _ hmoved
    rw [hstep _ rfl, hstep _ hhandlers]
    generalize run _ = first at hjoined ⊢
    generalize run _ = second at hjoined ⊢
    cases hjoined with
    | coupled within coupled =>
      refine .coupled within ?_
      rw [coupled.pointedAt_eq]
      exact coupled
    | parted parted =>
      exact .parted (pairing.parted_mono parted (.refl _) ⟨List.suffix_rfl, List.prefix_rfl⟩)

end Eval

/-! ### The two machines of a session -/

namespace Session

variable {realm : Realm} {library : Library} {session : Session} {machine other : Machine}

/-- A session that is opened on two machines, the second of them pointed at the node that was
evaluated last on the first one. -/
def twofold (realm : Realm) (session : Session) (machine other : Machine) : Pairing where
  realm := realm
  left := session.opened machine
  right := (session.opened other).pointedAt machine.evaluator.current
  Parted _ _ := False
  whole_of_parted := False.elim
  parted_mono hparted := hparted.elim

@[simp] theorem threshold_opened (session : Session) (machine : Machine) :
    (session.opened machine).threshold = machine.threshold :=
  Machine.threshold_logged _ _ _ _

@[simp] theorem requests_opened (session : Session) (machine : Machine) :
    (session.opened machine).requests = machine.requests :=
  Machine.requests_logged _ _ _ _

@[simp] theorem requests_finish (machine : Machine) :
    (finish machine).requests = machine.requests :=
  Machine.requests_logged _ _ _ _

@[simp] theorem threshold_finish (machine : Machine) :
    (finish machine).threshold = machine.threshold :=
  Machine.threshold_logged _ _ _ _

theorem coupled_opened (hclosed : realm.ClosedOn machine) (hsame : realm.SameOn machine other)
    (hsession : session.Confined realm library) :
    (twofold realm session machine other).Coupled (session.opened machine)
      ((session.opened other).pointedAt machine.evaluator.current) where
  memory := by simp [Machine.pointedAt, hsame.memory]
  keeps := .refl ((session.memory_opened machine).symm ▸ hclosed.memory)
  evaluator := by simp [Machine.pointedAt, twofold, start]
  policy := rfl
  context := (session.evaluator_opened machine).symm ▸ hsession.context
  handlers := by simp [Machine.pointedAt, hsame.handlers]
  handled := (session.handlers_opened machine).symm ▸ hclosed.handlers
  chains space number hnumber := by cases space <;> simp [start, Evaluator.chain] at hnumber
  size := by simp [Machine.pointedAt, hsame.size]
  newFrames number hnumber := hclosed.newFrames number (by simpa using hnumber)
  frames number hnumber := by simpa [Machine.pointedAt] using hsame.frames number hnumber
  bound number hnumber := (session.frames_opened machine).symm ▸ hclosed.bound number hnumber
  outside _ _ := rfl
  deeds := .refl _ _
  requests _ := .refl _ _
  records _ := .refl _ _
  leftThreshold := rfl
  rightThreshold := rfl

theorem threshold_twofold (hthreshold : other.threshold = machine.threshold) :
    (twofold realm session machine other).left.threshold =
      (twofold realm session machine other).right.threshold := by
  simp [twofold, Machine.pointedAt, hthreshold]

/-- The seats are coupled as well. -/
theorem coupled_seats (hclosed : realm.ClosedOn machine) (hsame : realm.SameOn machine other)
    (hsession : session.Confined realm library) :
    (twofold realm session machine other).Coupled (session.seat machine)
      ((session.seat other).pointedAt machine.evaluator.current) :=
  have hnone : ∀ chain, (none : Option Chain) = some chain → ∀ number ∈ chain,
      (twofold realm session machine other).realm.frame number := nofun
  ((coupled_opened hclosed hsame hsession).enter .globals hsession.globals hnone).enter .locals
    hsession.locals hnone

/-- However often it is opened, a session has its own policy. -/
theorem policy_opened (session : Session) (machine : Machine) :
    (session.opened machine).evaluator.policy = session.policy.getD Policy.permissive := by
  rw [evaluator_opened]
  rfl

theorem inStep_authorize (hsession : session.Confined realm library) {engine : Engine}
    (hengine : engine.InStep (twofold realm session machine other)) {receiver : Value}
    (hreceiver : Within realm receiver) (member node : Tree) :
    (Eval.authorize library engine receiver member node).InStep
      (twofold realm session machine other) :=
  Eval.inStep_authorize hengine
    ((session.policy_opened other).trans (session.policy_opened machine).symm)
    ((session.policy_opened machine).symm ▸ hsession.policy) hreceiver member node

/-- What a session stands on when it is opened twice. -/
theorem ground (hsession : session.Confined realm library)
    (hthreshold : other.threshold = machine.threshold) (depth : Nat) :
    Eval.Ground (twofold realm session machine other) library (Eval.engine library depth) := by
  have hthresholds : (twofold realm session machine other).left.threshold =
      (twofold realm session machine other).right.threshold := threshold_twofold hthreshold
  have htrace := Eval.inStep_trace hthresholds
  have hlists : (twofold realm session machine other).right.evaluator.policy.lists =
      (twofold realm session machine other).left.evaluator.policy.lists :=
    congrArg Policy.lists
      ((session.policy_opened other).trans (session.policy_opened machine).symm)
  have hengine : (Eval.engine library depth).InStep (twofold realm session machine other) :=
    Eval.inStep_engine hsession.host (Run.inStep_reach hlists) htrace
      (fun depth hengine receiver member node hreceiver ↦
        inStep_authorize hsession hengine hreceiver member node) depth
  exact ⟨hengine, hsession.host, fun _ member node hreceiver ↦
    inStep_authorize hsession hengine hreceiver member node, htrace⟩

/-- Up to its first node, opening a session adds nothing but a record. -/
theorem alike_opened (hthreshold : other.threshold = machine.threshold) :
    GrownAlike machine.records other.records (session.opened machine).records
      ((session.opened other).pointedAt machine.evaluator.current).records := by
  have hstarted : GrownAlike machine.records other.records
      { machine with evaluator := session.start machine.evaluator }.records
      { other with evaluator := session.start other.evaluator }.records := .refl _ _
  exact hstarted.logged hthreshold _ _ _

/-- What coupled machines come to at the end of the session. -/
theorem alike_finish (hthreshold : other.threshold = machine.threshold) {left right : Machine}
    (hcoupled : (twofold realm session machine other).Coupled left right)
    (outcome : Outcome Value) :
    Run.Alike machine other (outcome, finish left) (outcome, finish right) where
  outcome := rfl
  memory := by rw [memory_finish, memory_finish, hcoupled.memory]
  handlers := by rw [handlers_finish, handlers_finish, hcoupled.handlers]
  deeds := by simpa [Machine.deeds, twofold, Machine.pointedAt] using hcoupled.deeds
  requests := by
    have hpolicy : (session.opened machine).evaluator.policy =
        (session.opened other).evaluator.policy := by
      rw [evaluator_opened, evaluator_opened]
      rfl
    simpa [twofold, Machine.pointedAt] using hcoupled.requests (congrArg Policy.records hpolicy)
  records := (alike_opened hthreshold).trans
    ((hcoupled.records (threshold_twofold hthreshold)).finish
      (hcoupled.threshold (threshold_twofold hthreshold)))
  threshold := by
    rw [threshold_finish, threshold_finish, hcoupled.threshold (threshold_twofold hthreshold)]

theorem spares_finish {left right : Machine}
    (hcoupled : (twofold realm session machine other).Coupled left right) :
    realm.Spares machine (finish left) where
  closed :=
    { memory := (memory_finish left).symm ▸ hcoupled.within
      bound := (frames_finish left).symm ▸ hcoupled.bound
      newFrames := (frames_finish left).symm ▸ hcoupled.newFrames
      handlers := (handlers_finish left).symm ▸ hcoupled.handled }
  cells address haddress := by
    rw [memory_finish, hcoupled.keeps.outside address haddress]
    exact congrArg (·.heap[address]?) (session.memory_opened machine)
  frames number hnumber := by
    rw [frames_finish, hcoupled.outside number hnumber]
    exact congrArg (Frames.frame · number) (session.frames_opened machine)

/-- A secluded session spares what is outside of its realm, and comes to the same on every machine
that is the same as far as the realm goes. -/
theorem secluded_run (hclosed : realm.ClosedOn machine) (hsession : session.Confined realm library)
    (hsame : realm.SameOn machine other) (hidle : machine.evaluator.running = false)
    (hother : other.evaluator.running = false) (site : Site) :
    Run.Alike machine other (session.run library site machine) (session.run library site other) ∧
      realm.Spares machine (session.run library site machine).2 := by
  have hroot (machine : Machine) : (Eval.engine library depth).evaluate site machine =
      Eval.step library (Eval.engine library (depth - 1)) site machine := rfl
  have hback : ((session.seat other).pointedAt machine.evaluator.current).pointedAt
      (session.seat other).evaluator.current = session.seat other := rfl
  have hjoined := Eval.joined_root (ground hsession hsame.threshold (depth - 1)) site
    (session.seat other).evaluator.current (coupled_seats hclosed hsame hsession)
  rw [hback] at hjoined
  rw [run_of_idle library session site hidle, run_of_idle library session site hother, hroot, hroot]
  generalize Eval.step library _ site (session.seat machine) = first at hjoined ⊢
  generalize Eval.step library _ site (session.seat other) = second at hjoined ⊢
  rcases hjoined with ⟨-, coupled⟩ | ⟨⟨⟩⟩
  exact ⟨alike_finish hsame.threshold coupled second.1, spares_finish coupled⟩

end Session

end Treewalk
