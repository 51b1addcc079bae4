import Treewalk.Proofs.ConfinedHost
import Treewalk.Proofs.ConfinedRequests
import Treewalk.Proofs.Containment
import Treewalk.Proofs.StackDiscipline

/-!
Two runs in lockstep. One library evaluates on two machines that differ where it must not matter: in
the policy of the evaluator, in what was noted before, in which log records are kept, and in frames
outside of a realm. As long as the two are coupled they do the same: they read the same memory, find
the same values under all names, and add the same deeds and, where one threshold holds for both, the
same records. They may part where the policies answer differently or where only one of them has to
print a receiver, and then it only counts that what has been noted stays noted and that closures
stay.

`Run.InStep` says of a run that it takes coupled machines to coupled or parted ones. This is a
compositional property (`Run.scoped_inStep`), and engines of any depth are in step as soon as the
queries to the policy are (`Eval.inStep_engine`).
-/

set_option autoImplicit false
set_option relaxedAutoImplicit false

namespace Treewalk

/-! ### Deeds -/

/-- Whether an event is something that a script does or asks for, and not only a step on the way. -/
def Event.isDeed : Event → Bool
  | .visit _ _ | .enter _ _ _ => false
  | _ => true

/-- The deeds in a journal, the latest first. -/
def Machine.deeds (machine : Machine) : List Event := machine.events.filter Event.isDeed

/-- The deeds noted on a machine since an earlier one, in the order in which they were done. -/
def Machine.deedsSince (start machine : Machine) : List Event :=
  (machine.deeds.take (machine.deeds.length - start.deeds.length)).reverse

theorem Machine.deedsSince_of_append {start machine : Machine} {added : List Event}
    (hdeeds : machine.deeds = added ++ start.deeds) :
    start.deedsSince machine = added.reverse := by
  unfold deedsSince
  rw [hdeeds, List.length_append, Nat.add_sub_cancel, List.take_left]

/-- What is at the end of one journal is at the end of every longer one. -/
theorem Machine.deeds_suffix {machine later : Machine} (hevents : machine.events <:+ later.events) :
    machine.deeds <:+ later.deeds :=
  hevents.filter Event.isDeed

/-- A machine on which nothing was taken back of another one: what was noted is still noted, and the
closures are still there. -/
structure Machine.Retains (before after : Machine) : Prop where
  events : before.events <:+ after.events
  closures : before.memory.closures.toList <+: after.memory.closures.toList

namespace Machine.Retains

theorem refl (machine : Machine) : machine.Retains machine :=
  ⟨List.suffix_rfl, List.prefix_rfl⟩

theorem trans {first middle last : Machine} (hfirst : first.Retains middle)
    (hlast : middle.Retains last) : first.Retains last :=
  ⟨hfirst.events.trans hlast.events, hfirst.closures.trans hlast.closures⟩

theorem of_continues {before after : Machine} (hcontinues : before.Continues after) :
    before.Retains after :=
  ⟨hcontinues.events, hcontinues.closures⟩

theorem noted (event : Event) (machine : Machine) : machine.Retains (machine.noted event) :=
  of_continues (.noted event machine)

theorem logged (severity : Log.Severity) (source : Log.Source) (message : String)
    (machine : Machine) : machine.Retains (machine.logged severity source message) := by
  unfold Machine.logged
  split <;> exact ⟨List.suffix_rfl, List.prefix_rfl⟩

end Machine.Retains

/-- What host code sees of a machine. -/
def Machine.observed (machine : Machine) : Observation where
  localDepth := machine.evaluator.locals.length
  globalDepth := machine.evaluator.globals.length
  scope := machine.frames.describe? Space.locals.label machine.evaluator.locals
  current := machine.evaluator.current

/-- Two lists that have grown alike: the same was put in front of both. -/
def GrownAlike {α : Type} (base other now later : List α) : Prop :=
  ∃ added, now = added ++ base ∧ later = added ++ other

namespace GrownAlike

variable {α : Type} {base other now later : List α}

theorem refl (base other : List α) : GrownAlike base other base other := ⟨[], rfl, rfl⟩

theorem cons (item : α) (hgrown : GrownAlike base other now later) :
    GrownAlike base other (item :: now) (item :: later) := by
  obtain ⟨added, rfl, rfl⟩ := hgrown
  exact ⟨item :: added, rfl, rfl⟩

theorem trans {last latest : List α} (hfirst : GrownAlike base other now later)
    (hlast : GrownAlike now later last latest) : GrownAlike base other last latest := by
  obtain ⟨added, rfl, rfl⟩ := hfirst
  obtain ⟨further, rfl, rfl⟩ := hlast
  exact ⟨further ++ added, (List.append_assoc _ _ _).symm, (List.append_assoc _ _ _).symm⟩

theorem eq_of_eq (hgrown : GrownAlike base other now later) (hbase : base = other) :
    now = later := by
  obtain ⟨added, rfl, rfl⟩ := hgrown
  rw [hbase]

/-- Machines with one threshold keep the same records. -/
theorem logged {machine latter : Machine} {base other : List Log.Record}
    (hgrown : GrownAlike base other machine.records latter.records)
    (hthreshold : latter.threshold = machine.threshold) (severity : Log.Severity)
    (source : Log.Source) (message : String) :
    GrownAlike base other (machine.logged severity source message).records
      (latter.logged severity source message).records := by
  unfold Machine.logged
  rw [hthreshold]
  split
  · exact hgrown.cons _
  · exact hgrown

/-- And so they do at the end of a session. -/
theorem finish {machine latter : Machine} {base other : List Log.Record}
    (hgrown : GrownAlike base other machine.records latter.records)
    (hthreshold : latter.threshold = machine.threshold) :
    GrownAlike base other (Session.finish machine).records (Session.finish latter).records :=
  have hidle : GrownAlike base other { machine with evaluator := Evaluator.idle }.records
      { latter with evaluator := Evaluator.idle }.records := hgrown
  hidle.logged hthreshold _ _ _

end GrownAlike

theorem Machine.deeds_noted (machine : Machine) (event : Event) :
    (machine.noted event).deeds =
      if event.isDeed then event :: machine.deeds else machine.deeds := by
  unfold deeds noted
  exact List.filter_cons

@[simp] theorem Machine.deeds_logged (severity : Log.Severity) (source : Log.Source)
    (message : String) (machine : Machine) :
    (machine.logged severity source message).deeds = machine.deeds := by
  rw [deeds, events_logged, deeds]

/-! ### Frames that agree -/

namespace Frames

variable {frames other : Frames} {chain : Chain}

theorem holder?_congr (hagree : ∀ number ∈ chain, other.frame number = frames.frame number)
    (key : Key) : other.holder? key chain = frames.holder? key chain := by
  induction chain with
  | nil => rfl
  | cons first outer ih =>
    rw [holder?, holder?, hagree first List.mem_cons_self,
      ih fun number hnumber ↦ hagree number (List.mem_cons_of_mem first hnumber)]

theorem target?_congr (hagree : ∀ number ∈ chain, other.frame number = frames.frame number)
    (key : Key) : other.target? key chain = frames.target? key chain := by
  rw [target?, target?, holder?_congr hagree]

theorem describe?_congr (hagree : ∀ number ∈ chain, other.frame number = frames.frame number)
    (space : String) : other.describe? space chain = frames.describe? space chain := by
  have hlisting : other.listing? chain = frames.listing? chain := by
    induction chain with
    | nil => rfl
    | cons first outer ih =>
      rw [listing?, listing?, hagree first List.mem_cons_self,
        ih fun number hnumber ↦ hagree number (List.mem_cons_of_mem first hnumber)]
  rw [describe?, describe?, hlisting]

/-- A write goes to a frame of the chain. -/
theorem mem_of_target? {key : Key} {number : Nat}
    (htarget : frames.target? key chain = some number) : number ∈ chain := by
  have hholder (hholder : frames.holder? key chain = some number) : number ∈ chain := by
    clear htarget
    induction chain with
    | nil => cases hholder
    | cons first outer ih =>
      unfold holder? at hholder
      split at hholder
      · obtain rfl := Option.some.inj hholder
        exact List.mem_cons_self
      · exact List.mem_cons_of_mem first (ih hholder)
  unfold target? at htarget
  split at htarget
  · next found hfound => exact hholder (hfound.trans htarget)
  · exact List.mem_of_mem_head? htarget

/-- What a new frame makes of each frame. -/
theorem frame_pushed (frames : Frames) (bindings : Table) (number : Nat) :
    Frames.frame (frames.push bindings) number =
      if number = frames.size then bindings else frames.frame number := by
  unfold frame
  rw [Array.getD_eq_getD_getElem?, Array.getD_eq_getD_getElem?, Array.getElem?_push]
  split <;> rfl

end Frames

/-! ### Pairs of machines -/

/-- Two machines from which two runs start that are to be in lockstep within a realm, and what it
means that the runs have parted: that must be a matter of what machines retain, and no realm may be
left. -/
structure Pairing where
  realm : Realm
  left : Machine
  right : Machine
  Parted : Machine → Machine → Prop
  whole_of_parted {first second : Machine} : Parted first second → realm.Whole
  parted_mono {first second later latter : Machine} : Parted first second →
    first.Retains later → second.Retains latter → Parted later latter

/-- Machines that are coupled: of the left one the realm is all that matters, and there the right
one is the same; both have grown alike since the start. -/
structure Pairing.Coupled (pairing : Pairing) (left right : Machine) : Prop where
  memory : right.memory = left.memory
  keeps : pairing.realm.Keeps pairing.left.memory left.memory
  evaluator : right.evaluator =
    { left.evaluator with policy := pairing.right.evaluator.policy }
  policy : left.evaluator.policy = pairing.left.evaluator.policy
  context : Within pairing.realm left.evaluator.context
  handlers : right.handlers = left.handlers
  handled : Within pairing.realm left.handlers
  chains : ∀ space, ∀ number ∈ left.evaluator.chain space, pairing.realm.frame number
  size : right.frames.size = left.frames.size
  newFrames : ∀ number, left.frames.size ≤ number → pairing.realm.frame number
  frames : ∀ number, pairing.realm.frame number →
    right.frames.frame number = left.frames.frame number
  bound : ∀ number, pairing.realm.frame number → Within pairing.realm (left.frames.frame number)
  outside : ∀ number, ¬ pairing.realm.frame number →
    left.frames.frame number = pairing.left.frames.frame number
  deeds : GrownAlike pairing.left.deeds pairing.right.deeds left.deeds right.deeds
  requests : pairing.left.evaluator.policy.records = pairing.right.evaluator.policy.records →
    GrownAlike pairing.left.requests pairing.right.requests left.requests right.requests
  records : pairing.left.threshold = pairing.right.threshold →
    GrownAlike pairing.left.records pairing.right.records left.records right.records
  leftThreshold : left.threshold = pairing.left.threshold
  rightThreshold : right.threshold = pairing.right.threshold

namespace Pairing.Coupled

variable {pairing : Pairing} {left right : Machine} (hcoupled : pairing.Coupled left right)

include hcoupled

theorem within : Within pairing.realm left.memory := hcoupled.keeps.within

/-- Machines that started with one threshold have one threshold. -/
theorem threshold (hsame : pairing.left.threshold = pairing.right.threshold) :
    right.threshold = left.threshold := by
  rw [hcoupled.rightThreshold, hcoupled.leftThreshold, hsame]

theorem chain (space : Space) : right.evaluator.chain space = left.evaluator.chain space := by
  rw [hcoupled.evaluator]
  cases space <;> rfl

/-- Along an active chain the frames agree. -/
theorem agree (space : Space) : ∀ number ∈ left.evaluator.chain space,
    right.frames.frame number = left.frames.frame number :=
  fun number hnumber ↦ hcoupled.frames number (hcoupled.chains space number hnumber)

/-- Host code sees the same of both machines. -/
theorem observed : right.observed = left.observed := by
  have hlocals : right.evaluator.locals = left.evaluator.locals := hcoupled.chain .locals
  have hglobals : right.evaluator.globals = left.evaluator.globals := hcoupled.chain .globals
  have hscope := Frames.describe?_congr (hcoupled.agree .locals) Space.locals.label
  have hcurrent : right.evaluator.current = left.evaluator.current := by
    rw [hcoupled.evaluator]
  unfold Machine.observed
  rw [hlocals, hglobals, hcurrent]
  exact congrArg (Observation.mk _ _ · _) hscope

/-- Of two moments at which the machines are coupled, the later one keeps the realm. -/
theorem keeps_of {later latter : Machine} (hlater : pairing.Coupled later latter) :
    pairing.realm.Keeps left.memory later.memory where
  within := hlater.within
  outside address haddress := (hlater.keeps.outside address haddress).trans
    (hcoupled.keeps.outside address haddress).symm

/-- Both memories may go on alike within the realm. -/
theorem withMemory {memory : Memory} (hkeeps : pairing.realm.Keeps left.memory memory) :
    pairing.Coupled { left with memory := memory } { right with memory := memory } :=
  { hcoupled with
    memory := rfl
    keeps := hcoupled.keeps.trans hkeeps }

/-- The same event is noted on both sides. -/
theorem noted (event : Event) : pairing.Coupled (left.noted event) (right.noted event) :=
  { hcoupled with
    deeds := by
      rw [Machine.deeds_noted, Machine.deeds_noted]
      split
      · exact hcoupled.deeds.cons event
      · exact hcoupled.deeds }

/-- What is no deed may be noted differently. -/
theorem passed {event other : Event} (hevent : event.isDeed = false)
    (hother : other.isDeed = false) :
    pairing.Coupled (left.noted event) (right.noted other) :=
  { hcoupled with
    deeds := by
      rw [Machine.deeds_noted, Machine.deeds_noted, hevent, hother]
      exact hcoupled.deeds }

theorem moved (tree : Tree) :
    pairing.Coupled
      { left with evaluator := { left.evaluator with current := some tree } }
      { right with evaluator := { right.evaluator with current := some tree } } :=
  { hcoupled with
    evaluator := by rw [hcoupled.evaluator]
    chains := fun space ↦ by
      cases space with
      | locals => exact hcoupled.chains .locals
      | globals => exact hcoupled.chains .globals }

theorem logged (severity : Log.Severity) (source : Log.Source) (message : String) :
    pairing.Coupled (left.logged severity source message)
      (right.logged severity source message) := by
  have hlogged (machine : Machine) : machine.logged severity source message =
      { machine with records := (machine.logged severity source message).records } := by
    unfold Machine.logged
    split <;> rfl
  rw [hlogged left, hlogged right]
  exact { hcoupled with
    records := fun hsame ↦ (hcoupled.records hsame).logged (hcoupled.threshold hsame) _ _ _ }

/-- A query is kept on both sides, provided that both policies have their queries kept or neither
has. -/
theorem requested (receiver : Value) (member node : Tree) :
    pairing.Coupled (Eval.requested receiver member node left)
      (Eval.requested receiver member node right) := by
  have hrequested (machine : Machine) : Eval.requested receiver member node machine =
      { machine with requests := (Eval.requested receiver member node machine).requests } := by
    unfold Eval.requested
    split <;> rfl
  have hright : right.evaluator.policy = pairing.right.evaluator.policy := by
    rw [hcoupled.evaluator]
  rw [hrequested left, hrequested right]
  refine { hcoupled with requests := fun hsame ↦ ?_ }
  have hgrown := hcoupled.requests hsame
  unfold Eval.requested
  rw [hcoupled.policy, hright, ← hsame, hcoupled.memory]
  split
  · exact hgrown.cons _
  · exact hgrown

/-- A frame of the realm is replaced by the same one on both sides. -/
theorem replaced {number : Nat} {table : Table} (hnumber : pairing.realm.frame number)
    (htable : Within pairing.realm table) :
    pairing.Coupled { left with frames := left.frames.setIfInBounds number table }
      { right with frames := right.frames.setIfInBounds number table } := by
  refine { hcoupled with size := ?_, newFrames := ?_, frames := ?_, bound := ?_, outside := ?_ }
  · rw [Array.size_setIfInBounds, Array.size_setIfInBounds]
    exact hcoupled.size
  · rw [Array.size_setIfInBounds]
    exact hcoupled.newFrames
  · intro other hother
    rw [Frames.frame_setIfInBounds, Frames.frame_setIfInBounds, hcoupled.size,
      hcoupled.frames other hother]
  · intro other hother
    rw [Frames.frame_setIfInBounds]
    split
    · exact htable
    · exact hcoupled.bound other hother
  · intro other hother
    rw [Frames.frame_setIfInBounds, if_neg]
    · exact hcoupled.outside other hother
    · rintro ⟨rfl, -⟩
      exact hother hnumber

/-- A name is written in the same frame of the realm on both sides. -/
theorem written {name : Name} {number : Nat} {value : Value} (hnumber : pairing.realm.frame number)
    (hname : Within pairing.realm name.value) (hvalue : Within pairing.realm value) :
    pairing.Coupled { left with frames := left.frames.bind number name value }
      { right with frames := right.frames.bind number name value } := by
  unfold Frames.bind
  rw [hcoupled.frames number hnumber]
  exact hcoupled.replaced hnumber (within_insert (hcoupled.bound number hnumber) _ hname hvalue)

/-- A name is taken out of the same frame of the realm on both sides. -/
theorem removed {number : Nat} (hnumber : pairing.realm.frame number) (key : Key) :
    pairing.Coupled { left with frames := left.frames.unbind number key }
      { right with frames := right.frames.unbind number key } := by
  unfold Frames.unbind
  rw [hcoupled.frames number hnumber]
  exact hcoupled.replaced hnumber (within_erase (hcoupled.bound number hnumber) key)

/-- For whoever reaches for the interpreter the machines are the same, if the policies list the same. -/
theorem reachedAlike
    (hlists : pairing.right.evaluator.policy.lists = pairing.left.evaluator.policy.lists) :
    left.ReachedAlike pairing.realm right where
  memory := hcoupled.memory
  context := by rw [hcoupled.evaluator]
  globals := hcoupled.chain .globals
  lists := by
    rw [hcoupled.evaluator, hcoupled.policy]
    exact hlists
  frames := hcoupled.frames

theorem confines : left.Confines pairing.realm where
  memory := hcoupled.within
  context := hcoupled.context
  globals := hcoupled.chains .globals
  bound := hcoupled.bound

/-- A request has the same effect on both sides. -/
theorem affected {effect : Effect} (heffect : Within pairing.realm effect) :
    pairing.Coupled (left.affected effect) (right.affected effect) := by
  cases effect with
  | nothing => exact hcoupled
  | bind number name value => exact hcoupled.written heffect.1 heffect.2.1 heffect.2.2
  | unbind number key => exact hcoupled.removed heffect key
  | seat context =>
    exact { hcoupled with
      evaluator := by rw [Machine.affected, Machine.affected, hcoupled.evaluator]
      context := heffect
      chains := fun space ↦ by
        cases space with
        | locals => exact hcoupled.chains .locals
        | globals => exact hcoupled.chains .globals }
  | handle tag handler =>
    exact { hcoupled with
      handlers := congrArg (List.cons (tag, handler)) hcoupled.handlers
      handled := within_cons ⟨trivial, heffect⟩ hcoupled.handled }

/-- A frame is added on both sides; it is in the realm. -/
theorem pushed {bindings : Table} (hbindings : Within pairing.realm bindings) :
    pairing.Coupled { left with frames := left.frames.push bindings }
      { right with frames := right.frames.push bindings } := by
  refine { hcoupled with size := ?_, newFrames := ?_, frames := ?_, bound := ?_, outside := ?_ }
  · simp only [Array.size_push, hcoupled.size]
  · intro number hnumber
    simp only [Array.size_push] at hnumber
    exact hcoupled.newFrames number (Nat.le_of_succ_le hnumber)
  · intro number hnumber
    simp only [Frames.frame_pushed, hcoupled.size, hcoupled.frames number hnumber]
  · intro number hnumber
    simp only [Frames.frame_pushed]
    split
    · exact hbindings
    · exact hcoupled.bound number hnumber
  · intro number hnumber
    simp only [Frames.frame_pushed]
    rw [if_neg]
    · exact hcoupled.outside number hnumber
    · rintro rfl
      exact hnumber (hcoupled.newFrames _ (Nat.le_refl _))

/-- Both evaluators may get the same chain of frames of the realm. -/
theorem withChain (space : Space) {chain : Chain}
    (hchain : ∀ number ∈ chain, pairing.realm.frame number) :
    pairing.Coupled { left with evaluator := left.evaluator.withChain space chain }
      { right with evaluator := right.evaluator.withChain space chain } := by
  refine { hcoupled with evaluator := ?_, policy := ?_, context := ?_, chains := ?_ }
  · rw [hcoupled.evaluator]
    cases space <;> rfl
  · exact (Evaluator.policy_withChain _ _ _).trans hcoupled.policy
  · rw [Evaluator.context_withChain]
    exact hcoupled.context
  · intro other
    by_cases hother : other = space
    · subst hother
      rw [Evaluator.chain_withChain_self]
      exact hchain
    · rw [Evaluator.chain_withChain_of_ne _ _ hother]
      exact hcoupled.chains other

/-- A frame is entered alike on both sides. -/
theorem enter (space : Space) {bindings : Table} (hbindings : Within pairing.realm bindings)
    {base : Option Chain}
    (hbase : ∀ chain, base = some chain → ∀ number ∈ chain, pairing.realm.frame number) :
    pairing.Coupled (left.enter space bindings base).2 (right.enter space bindings base).2 := by
  have henter (machine : Machine) : (machine.enter space bindings base).2 =
      Machine.noted (.enter space (machine.evaluator.chain space) (machine.innerChain space base))
        { machine with
          frames := machine.frames.push bindings
          evaluator := machine.evaluator.withChain space (machine.innerChain space base) } := by
    cases base <;> rfl
  have hinner : right.innerChain space base = left.innerChain space base := by
    rw [Machine.innerChain, Machine.innerChain, hcoupled.size, hcoupled.chain space]
  have hinside : ∀ number ∈ left.innerChain space base, pairing.realm.frame number := by
    intro number hnumber
    rcases List.mem_cons.mp hnumber with rfl | hnumber
    · exact hcoupled.newFrames _ (Nat.le_refl _)
    · cases base with
      | none => exact hcoupled.chains space number hnumber
      | some chain => exact hbase chain rfl number hnumber
  rw [henter left, henter right, hinner, hcoupled.chain space]
  exact ((hcoupled.pushed hbindings).withChain space hinside).noted _

/-- What leaving a frame needs to know is the same on both sides. -/
theorem entered (space : Space) (bindings : Table) (base : Option Chain) :
    (right.enter space bindings base).1 = (left.enter space bindings base).1 := by
  have hentered (machine : Machine) : (machine.enter space bindings base).1 =
      ⟨machine.frames.size, base.map fun _ ↦ machine.evaluator.chain space⟩ := by
    cases base <;> rfl
  rw [hentered left, hentered right, hcoupled.size, hcoupled.chain space]

/-- And a frame is left alike. -/
theorem leave (space : Space) {entered : Entered}
    (hsaved : ∀ chain, entered.saved = some chain → ∀ number ∈ chain, pairing.realm.frame number) :
    pairing.Coupled (left.leave space entered) (right.leave space entered) := by
  have hchain : ∀ number ∈ Chain.leave entered (left.evaluator.chain space),
      pairing.realm.frame number := by
    intro number hnumber
    unfold Chain.leave at hnumber
    split at hnumber
    · next saved heq => exact hsaved saved heq number hnumber
    · refine hcoupled.chains space number ?_
      split at hnumber
      · cases hnumber
      · next first outer heq =>
        rw [heq]
        split at hnumber
        · exact List.mem_cons_of_mem first hnumber
        · exact hnumber
  unfold Machine.leave
  rw [hcoupled.chain space]
  exact hcoupled.withChain space hchain

end Pairing.Coupled

/-- Where no realm is left, the two machines of a pairing are coupled to begin with if they differ
at most in the policy and in what was noted and logged. -/
theorem Pairing.coupled_of_whole {pairing : Pairing} (hwhole : pairing.realm.Whole)
    (hmemory : pairing.right.memory = pairing.left.memory)
    (hhandlers : pairing.right.handlers = pairing.left.handlers)
    (hevaluator : pairing.right.evaluator =
      { pairing.left.evaluator with policy := pairing.right.evaluator.policy })
    (hframes : pairing.right.frames = pairing.left.frames) :
    pairing.Coupled pairing.left pairing.right where
  memory := hmemory
  keeps := .of_whole hwhole _ _
  evaluator := hevaluator
  policy := rfl
  context := within_of_whole hwhole _
  handlers := hhandlers
  handled := within_of_whole hwhole _
  chains _ number _ := hwhole.frame number
  size := congrArg Array.size hframes
  newFrames number _ := hwhole.frame number
  frames number _ := congrArg (Frames.frame · number) hframes
  bound _ _ := within_of_whole hwhole _
  outside _ _ := rfl
  deeds := .refl _ _
  requests _ := .refl _ _
  records _ := .refl _ _
  leftThreshold := rfl
  rightThreshold := rfl

/-! ### Runs in step -/

instance {α : Type} [Confinable α] : Confinable (Outcome α) where
  Within realm outcome := ∀ result, outcome = .value result → Within realm result
  within_of_whole whole _ := fun result _ ↦ within_of_whole whole result

section

variable {α : Type} [Confinable α] {realm : Realm}

/-- Only a value can refer to anything. -/
theorem within_ended {outcome : Outcome α} (hvalue : ∀ result, outcome ≠ .value result) :
    Within realm outcome :=
  fun result heq ↦ absurd heq (hvalue result)

theorem within_value {result : α} (hresult : Within realm result) :
    Within realm (Outcome.value result) :=
  fun _ heq ↦ Outcome.value.inj heq ▸ hresult

theorem within_failed (failure : Failure) : Within realm (.failed failure : Outcome α) :=
  within_ended (by rintro _ ⟨⟩)

theorem within_aborted (message : String) : Within realm (.aborted message : Outcome α) :=
  within_ended (by rintro _ ⟨⟩)

theorem within_exhausted : Within realm (.exhausted : Outcome α) :=
  within_ended (by rintro _ ⟨⟩)

end

/-- How two runs end: alike and with coupled machines, or parted. -/
inductive Pairing.Joined {α : Type} [Confinable α] (pairing : Pairing) :
    Outcome α × Machine → Outcome α × Machine → Prop where
  | coupled {outcome : Outcome α} {left right : Machine} (within : Within pairing.realm outcome)
      (coupled : pairing.Coupled left right) : Joined pairing (outcome, left) (outcome, right)
  | parted {first second : Outcome α × Machine} (parted : pairing.Parted first.2 second.2) :
      Joined pairing first second

/-- A run that takes coupled machines to coupled or parted ones. On parted machines all that counts
is that the run takes nothing back. -/
structure Run.InStep {α : Type} [Confinable α] (pairing : Pairing) (run : Run α) : Prop where
  grows : pairing.realm.Whole → ∀ machine : Machine, machine.Retains (run machine).2
  joined : ∀ left right, pairing.Coupled left right → pairing.Joined (run left) (run right)

/-- An engine both of whose services are in step, as requests for the interpreter itself are. -/
structure Engine.InStep (pairing : Pairing) (engine : Engine) : Prop where
  reach : ∀ {receiver : Value}, Within pairing.realm receiver → ∀ name
    {arguments : Option (List Value)}, Within pairing.realm arguments →
      (Run.reach receiver name arguments).InStep pairing
  evaluate : ∀ site, (engine.evaluate site).InStep pairing
  call : ∀ callee arguments block, Within pairing.realm callee → Within pairing.realm arguments →
    Within pairing.realm block → (engine.call callee arguments block).InStep pairing

namespace Run

variable {α β : Type} [Confinable α] [Confinable β] {pairing : Pairing}

/-! ### Putting runs together -/

theorem inStep_ended {outcome : Outcome α} (houtcome : Within pairing.realm outcome) :
    (ended outcome).InStep pairing where
  grows _ machine := .refl machine
  joined _ _ hcoupled := .coupled houtcome hcoupled

theorem inStep_value {result : α} (hresult : Within pairing.realm result) :
    (value result).InStep pairing :=
  inStep_ended (within_value hresult)

theorem inStep_pure {result : α} (hresult : Within pairing.realm result) :
    (pure result : Run α).InStep pairing :=
  inStep_value hresult

theorem inStep_fail (failure : Failure) : (fail failure : Run α).InStep pairing :=
  inStep_ended (within_failed failure)

theorem inStep_refuse (cause : Cause) : (refuse cause : Run α).InStep pairing := inStep_fail _

theorem inStep_refuseAt (node : Tree) (cause : Cause) :
    (refuseAt node cause : Run α).InStep pairing :=
  inStep_fail _

theorem inStep_exhaust : (exhaust : Run α).InStep pairing :=
  inStep_ended within_exhausted

/-- What is looked at must be the same on both sides. -/
theorem inStep_look {view : Machine → α}
    (hview : ∀ left right, pairing.Coupled left right →
      view right = view left ∧ Within pairing.realm (view left)) :
    (look view).InStep pairing where
  grows _ machine := .refl machine
  joined left right hcoupled := by
    obtain ⟨hsame, hwithin⟩ := hview left right hcoupled
    unfold look
    rw [hsame]
    exact .coupled (within_value hwithin) hcoupled

theorem inStep_change {update : Machine → Machine}
    (hgrows : ∀ machine : Machine, machine.Retains (update machine))
    (hupdate : ∀ left right, pairing.Coupled left right →
      pairing.Coupled (update left) (update right)) :
    (change update).InStep pairing where
  grows _ := hgrows
  joined left right hcoupled := .coupled (within_value trivial) (hupdate left right hcoupled)

theorem inStep_note (event : Event) : (note event).InStep pairing :=
  inStep_change (.noted event) fun _ _ hcoupled ↦ hcoupled.noted event

theorem inStep_log (severity : Log.Severity) (source : Log.Source) (message : String) :
    (log severity source message).InStep pairing :=
  inStep_change (.logged severity source message) fun _ _ hcoupled ↦
    hcoupled.logged severity source message

/-- What comes after joined ends is joined again, and nothing joins what has parted. -/
theorem joined_follow {first second : Outcome α × Machine} {next : Outcome α → Run β}
    (hjoined : pairing.Joined first second)
    (hgrows : pairing.realm.Whole → ∀ outcome (machine : Machine),
      machine.Retains (next outcome machine).2)
    (hnext : ∀ outcome left right, Within pairing.realm outcome → pairing.Coupled left right →
      pairing.Joined (next outcome left) (next outcome right)) :
    pairing.Joined (next first.1 first.2) (next second.1 second.2) := by
  cases hjoined with
  | coupled within coupled => exact hnext _ _ _ within coupled
  | parted parted =>
    have hwhole := pairing.whole_of_parted parted
    exact .parted (pairing.parted_mono parted (hgrows hwhole _ _) (hgrows hwhole _ _))

omit [Confinable α] [Confinable β] in
theorem grows_onEnd {after : α → Run β} {recover : Failure → Run β}
    (hafter : ∀ result (machine : Machine), machine.Retains (after result machine).2)
    (hrecover : ∀ failure (machine : Machine), machine.Retains (recover failure machine).2)
    (outcome : Outcome α) (machine : Machine) :
    machine.Retains (onEnd after recover outcome machine).2 := by
  cases outcome with
  | value result => exact hafter result machine
  | failed failure => exact hrecover failure machine
  | _ => exact .refl machine

omit [Confinable α] [Confinable β] in
theorem grows_either {run : Run α} {after : α → Run β} {recover : Failure → Run β}
    (hrun : ∀ machine : Machine, machine.Retains (run machine).2)
    (hafter : ∀ result (machine : Machine), machine.Retains (after result machine).2)
    (hrecover : ∀ failure (machine : Machine), machine.Retains (recover failure machine).2)
    (machine : Machine) : machine.Retains (either run after recover machine).2 := by
  rw [either_eq_follow]
  exact (hrun machine).trans (grows_onEnd hafter hrecover _ _)

omit [Confinable α] [Confinable β] in
theorem grows_bind {run : Run α} {after : α → Run β}
    (hrun : ∀ machine : Machine, machine.Retains (run machine).2)
    (hafter : ∀ result (machine : Machine), machine.Retains (after result machine).2)
    (machine : Machine) : machine.Retains ((run >>= after) machine).2 :=
  bind_eq_either run after ▸ grows_either hrun hafter (fun _ ↦ .refl) machine

theorem joined_either {run : Run α} {after : α → Run β} {recover : Failure → Run β}
    {left right : Machine} (hrun : pairing.Joined (run left) (run right))
    (hgrows : pairing.realm.Whole → ∀ result (machine : Machine),
      machine.Retains (after result machine).2)
    (hrecovers : pairing.realm.Whole → ∀ failure (machine : Machine),
      machine.Retains (recover failure machine).2)
    (hafter : ∀ result first second, Within pairing.realm result → pairing.Coupled first second →
      pairing.Joined (after result first) (after result second))
    (hrecover : ∀ failure first second, pairing.Coupled first second →
      pairing.Joined (recover failure first) (recover failure second)) :
    pairing.Joined (either run after recover left) (either run after recover right) := by
  rw [either_eq_follow]
  refine joined_follow hrun (fun hwhole ↦ grows_onEnd (hgrows hwhole) (hrecovers hwhole))
    fun outcome first second houtcome hchanged ↦ ?_
  cases outcome with
  | value result => exact hafter result first second (houtcome result rfl) hchanged
  | failed failure => exact hrecover failure first second hchanged
  | aborted message => exact .coupled (within_aborted message) hchanged
  | exhausted => exact .coupled within_exhausted hchanged

theorem joined_bind {run : Run α} {after : α → Run β} {left right : Machine}
    (hrun : pairing.Joined (run left) (run right))
    (hgrows : pairing.realm.Whole → ∀ result (machine : Machine),
      machine.Retains (after result machine).2)
    (hafter : ∀ result first second, Within pairing.realm result → pairing.Coupled first second →
      pairing.Joined (after result first) (after result second)) :
    pairing.Joined ((run >>= after) left) ((run >>= after) right) :=
  bind_eq_either run after ▸ joined_either hrun hgrows (fun _ _ ↦ .refl) hafter
    fun failure _ _ hchanged ↦ .coupled (within_failed failure) hchanged

theorem inStep_either {run : Run α} {after : α → Run β} {recover : Failure → Run β}
    (hrun : run.InStep pairing)
    (hafter : ∀ result, Within pairing.realm result → (after result).InStep pairing)
    (hrecover : ∀ failure, (recover failure).InStep pairing) :
    (either run after recover).InStep pairing := by
  have hgrows (hwhole : pairing.realm.Whole) (result : α) :
      ∀ machine : Machine, machine.Retains (after result machine).2 :=
    (hafter result (within_of_whole hwhole result)).grows hwhole
  have hrecovers (hwhole : pairing.realm.Whole) (failure : Failure) :
      ∀ machine : Machine, machine.Retains (recover failure machine).2 :=
    (hrecover failure).grows hwhole
  exact ⟨fun hwhole ↦ grows_either (hrun.grows hwhole) (hgrows hwhole) (hrecovers hwhole),
    fun left right hcoupled ↦ joined_either (hrun.joined left right hcoupled) hgrows hrecovers
      (fun result first second hresult ↦ (hafter result hresult).joined first second)
      fun failure ↦ (hrecover failure).joined⟩

theorem inStep_bind {run : Run α} {after : α → Run β} (hrun : run.InStep pairing)
    (hafter : ∀ result, Within pairing.realm result → (after result).InStep pairing) :
    (run >>= after).InStep pairing :=
  bind_eq_either run after ▸ inStep_either hrun hafter inStep_fail

/-- What is done with a thing that was looked at may make use of what coupling says of it. -/
theorem inStep_look_bind {γ : Type} {view : Machine → γ} {after : γ → Run β} (holds : γ → Prop)
    (hview : ∀ left right, pairing.Coupled left right →
      view right = view left ∧ holds (view left))
    (hholds : pairing.realm.Whole → ∀ seen, holds seen)
    (hafter : ∀ seen, holds seen → (after seen).InStep pairing) :
    (look view >>= after).InStep pairing where
  grows hwhole machine := (hafter _ (hholds hwhole _)).grows hwhole machine
  joined left right hcoupled := by
    obtain ⟨hsame, hseen⟩ := hview left right hcoupled
    rw [look_bind_apply, look_bind_apply, hsame]
    exact (hafter _ hseen).joined left right hcoupled

theorem inStep_mapFailure (adjust : Failure → Failure) {run : Run α} (hrun : run.InStep pairing) :
    (mapFailure adjust run).InStep pairing :=
  mapFailure_eq_either adjust run ▸ inStep_either hrun (fun _ hresult ↦ inStep_value hresult)
    fun failure ↦ inStep_fail (adjust failure)

/-! ### Memory -/

theorem inStep_compute {computation : Compute α} (helementary : computation.Elementary pairing.realm) :
    (compute computation).InStep pairing where
  grows hwhole machine := by
    obtain ⟨heap, marks, hchanged, -⟩ := heapwise_compute (helementary.additive hwhole) machine
    rw [hchanged]
    exact ⟨List.suffix_rfl, List.prefix_rfl⟩
  joined left right hcoupled := by
    obtain ⟨hresult, hkeeps⟩ := helementary.confined left.memory hcoupled.within
    rw [compute_apply, compute_apply, hcoupled.memory]
    generalize computation.run.run left.memory = ended at hresult hkeeps ⊢
    obtain ⟨cause | result, changed⟩ := ended
    · exact .coupled (within_failed _) (hcoupled.withMemory hkeeps)
    · exact .coupled (within_value (hresult result rfl)) (hcoupled.withMemory hkeeps)

theorem inStep_close {closure : Closure} (hclosure : Within pairing.realm closure) :
    (close closure).InStep pairing where
  grows _ machine := by
    refine ⟨List.suffix_rfl, ?_⟩
    change machine.memory.closures.toList <+: (machine.memory.closures.push closure).toList
    rw [Array.toList_push]
    exact List.prefix_append _ _
  joined left right hcoupled := by
    have hindex : Within pairing.realm (Value.closure left.memory.closures.size) :=
      hcoupled.within.newClosures _ (Nat.le_refl _)
    have hclose (machine : Machine) : close closure machine =
        (.value (machine.memory.close closure).1,
          { machine with memory := (machine.memory.close closure).2 }) := rfl
    rw [hclose, hclose, hcoupled.memory]
    exact .coupled (within_value hindex)
      (hcoupled.withMemory (.close hcoupled.within hclosure))

/-! ### Variables -/

theorem inStep_read? (space : Space) (name : Name) : (read? space name).InStep pairing :=
  inStep_look fun left right hcoupled ↦ by
    refine ⟨?_, Frames.within_find? (hcoupled.chains space) hcoupled.bound name.key⟩
    rw [hcoupled.chain space]
    exact Frames.find?_congr (hcoupled.agree space) name.key

theorem inStep_write (space : Space) {name : Name} (hname : Within pairing.realm name.value)
    {item : Value} (hitem : Within pairing.realm item) :
    (write space name item).InStep pairing where
  grows _ machine := by
    unfold write
    split <;> exact ⟨List.suffix_cons _ _, List.prefix_rfl⟩
  joined left right hcoupled := by
    have hsame : right.frames.target? name.key (right.evaluator.chain space) =
        left.frames.target? name.key (left.evaluator.chain space) := by
      rw [hcoupled.chain space]
      exact Frames.target?_congr (hcoupled.agree space) name.key
    unfold write
    rw [hsame]
    rcases htarget : left.frames.target? name.key (left.evaluator.chain space) with _ | number
    · exact .coupled (within_failed _) (hcoupled.noted _)
    · exact .coupled (within_value trivial) ((hcoupled.written
        (hcoupled.chains space number (Frames.mem_of_target? htarget)) hname hitem).noted _)

theorem inStep_inFrame (space : Space) {bindings : Table}
    (hbindings : Within pairing.realm bindings) {base : Option Chain}
    (hbase : ∀ chain, base = some chain → ∀ number ∈ chain, pairing.realm.frame number)
    {run : Run α} (hrun : run.InStep pairing) :
    (inFrame space bindings base run).InStep pairing where
  grows hwhole machine := by
    have hentered : machine.Retains (machine.enter space bindings base).2 := by
      have hevents := Machine.events_enter machine space bindings base
      have hmemory := Machine.memory_enter machine space bindings base
      exact ⟨hevents ▸ List.suffix_cons _ _, hmemory ▸ List.prefix_rfl⟩
    rw [inFrame_apply]
    exact hentered.trans ⟨(hrun.grows hwhole _).events, (hrun.grows hwhole _).closures⟩
  joined left right hcoupled := by
    have hinside := hrun.joined _ _ (hcoupled.enter space hbindings hbase)
    rw [inFrame_apply, inFrame_apply, hcoupled.entered space bindings base]
    have hsaved : ∀ chain, (left.enter space bindings base).1.saved = some chain →
        ∀ number ∈ chain, pairing.realm.frame number := by
      intro chain hsaved
      cases base with
      | none => cases hsaved
      | some captured =>
        obtain rfl := Option.some.inj hsaved
        exact hcoupled.chains space
    generalize run (left.enter space bindings base).2 = first at hinside ⊢
    generalize run (right.enter space bindings base).2 = second at hinside ⊢
    cases hinside with
    | coupled within coupled => exact .coupled within (coupled.leave space hsaved)
    | parted parted =>
      exact .parted (pairing.parted_mono parted ⟨List.suffix_rfl, List.prefix_rfl⟩
        ⟨List.suffix_rfl, List.prefix_rfl⟩)

/-- A new frame on top of the active chain. -/
theorem inStep_inNewFrame (space : Space) {bindings : Table}
    (hbindings : Within pairing.realm bindings) {run : Run α} (hrun : run.InStep pairing) :
    (inFrame space bindings none run).InStep pairing :=
  inStep_inFrame space hbindings (by rintro _ ⟨⟩) hrun

theorem scoped_inStep (pairing : Pairing) :
    Scoped pairing.realm fun {α} [Confinable α] (run : Run α) ↦ run.InStep pairing where
  value := inStep_value
  refuse _ := inStep_refuse _
  compute := inStep_compute
  either hrun hafter hrecover := inStep_either hrun hafter fun failure ↦
    (hrecover failure).elim (fun heq ↦ heq ▸ inStep_fail failure) id
  refuseAt _ := inStep_refuseAt _ _
  read := inStep_read?
  write space name _ hitem := inStep_write space (within_toValue name) hitem

/-! ### Requests for the interpreter itself -/

/-- A request is in step when the policies list the same. -/
theorem inStep_reach
    (hlists : pairing.right.evaluator.policy.lists = pairing.left.evaluator.policy.lists)
    {receiver : Value} (hreceiver : Within pairing.realm receiver) (name : String)
    {arguments : Option (List Value)} (harguments : Within pairing.realm arguments) :
    (reach receiver name arguments).InStep pairing where
  grows _ machine := by
    have hevolves : (reach receiver name arguments).EvolvesAt {} machine := evolving_reach _ _ _ machine
    exact .of_continues (Evolves.continues hevolves)
  joined left right hcoupled := by
    have hsame := Machine.answer_congr (hcoupled.reachedAlike hlists) hcoupled.confines hreceiver
      name arguments
    have hwithin := Machine.within_answer hcoupled.confines hreceiver name harguments
    have hnoted := hcoupled.noted (.reach receiver name)
    unfold reach
    rw [hsame]
    cases hanswer : left.answer receiver name arguments with
    | missing => exact .coupled (within_value within_none) hnoted
    | found item effect =>
      rw [hanswer] at hwithin
      exact .coupled (within_value (within_some.mpr hwithin.1)) (hnoted.affected hwithin.2)
    | refused cause => exact .coupled (within_failed _) hnoted

/-! ### Host actions -/

section

variable {engine : Engine} (hengine : engine.InStep pairing)

include hengine

theorem inStep_parameterNames (index : Nat) : (parameterNames engine index).InStep pairing :=
  Eval.holds_parameterNames (scoped_inStep pairing).toCompositional hengine.evaluate
    (fun index _ hafter ↦ inStep_look_bind (fun _ ↦ True)
      (fun _ _ hcoupled ↦ ⟨by rw [hcoupled.memory], trivial⟩) (fun _ _ ↦ trivial)
      fun found _ ↦ hafter found) index

omit [Confinable α] in
theorem grows_perform (hwhole : pairing.realm.Whole) (action : Action α) (machine : Machine) :
    machine.Retains (perform engine action machine).2 := by
  induction action generalizing machine with
  | done result => exact .refl machine
  | fail failure => exact .refl machine
  | abort message => exact .noted _ machine
  | exhaust => exact .refl machine
  | inspect next ih => exact ih machine.memory machine
  | update heap marks next ih =>
    have hupdated : machine.Retains
        { machine with memory := { machine.memory with heap := heap, marks := marks } } :=
      ⟨List.suffix_rfl, List.prefix_rfl⟩
    exact hupdated.trans (ih _)
  | call callee arguments block next ih =>
    have hcall := hengine.call callee arguments block (within_of_whole hwhole _)
      (within_of_whole hwhole _) (within_of_whole hwhole _)
    exact grows_bind (hcall.grows hwhole) ih machine
  | attempt callee arguments block next catches recover ihnext ihrecover =>
    have hcall := hengine.call callee arguments block (within_of_whole hwhole _)
      (within_of_whole hwhole _) (within_of_whole hwhole _)
    refine grows_either (hcall.grows hwhole) ihnext (fun failure changed ↦ ?_) machine
    split
    · exact ihrecover _ changed
    · exact .refl changed
  | parameters index next ih =>
    exact grows_bind ((inStep_parameterNames hengine index).grows hwhole) ih machine
  | observe next ih => exact ih _ machine
  | reenter next ih =>
    unfold perform
    split
    · exact .refl machine
    · exact ih machine
  | reach receiver name arguments next ih =>
    have hreach := hengine.reach (within_of_whole hwhole receiver) name
      (within_of_whole hwhole arguments)
    exact grows_bind (hreach.grows hwhole) ih machine

/-- Host code that stays within the realm does the same on coupled machines. The induction is on the
tree of its requests; what it is allowed to do next depends on the memory that it has come to. -/
theorem joined_perform {action : Action α} {left right : Machine}
    (hcoupled : pairing.Coupled left right)
    (haction : action.ConfinedOn pairing.realm left.memory) :
    pairing.Joined (perform engine action left) (perform engine action right) := by
  induction action generalizing left right with
  | done result =>
    exact .coupled (within_value haction) hcoupled
  | fail failure => exact .coupled (within_failed failure) hcoupled
  | abort message => exact .coupled (within_aborted message) (hcoupled.noted _)
  | exhaust => exact .coupled within_exhausted hcoupled
  | inspect next ih =>
    unfold perform
    rw [hcoupled.memory]
    exact ih left.memory hcoupled haction
  | update heap marks next ih =>
    unfold perform
    rw [hcoupled.memory]
    exact ih (hcoupled.withMemory haction.1) haction.2
  | call callee arguments block next ih =>
    obtain ⟨hcallee, harguments, hblock, hnext⟩ := haction
    refine joined_bind ((hengine.call _ _ _ hcallee harguments hblock).joined left right hcoupled)
      (fun hwhole result ↦ grows_perform hengine hwhole (next result))
      fun result first second hresult hchanged ↦ ?_
    exact ih result hchanged (hnext result first.memory hresult (hcoupled.keeps_of hchanged))
  | attempt callee arguments block next catches recover ihnext ihrecover =>
    obtain ⟨⟨hcallee, harguments, hblock⟩, hnext, hrecover⟩ := haction
    have hcall := (hengine.call _ _ _ hcallee harguments hblock).joined left right hcoupled
    refine joined_either hcall (fun hwhole result ↦ grows_perform hengine hwhole (next result))
      (fun hwhole failure changed ↦ ?_) (fun result first second hresult hchanged ↦ ?_)
      fun failure first second hchanged ↦ ?_
    · split
      · exact grows_perform hengine hwhole (recover _) changed
      · exact .refl changed
    · exact ihnext result hchanged (hnext result first.memory hresult (hcoupled.keeps_of hchanged))
    · split
      · exact ihrecover _ hchanged (hrecover _ first.memory (hcoupled.keeps_of hchanged))
      · exact .coupled (within_failed failure) hchanged
  | parameters index next ih =>
    refine joined_bind ((inStep_parameterNames hengine index).joined left right hcoupled)
      (fun hwhole names ↦ grows_perform hengine hwhole (next names))
      fun names first second hnames hchanged ↦ ?_
    exact ih names hchanged (haction names first.memory hnames (hcoupled.keeps_of hchanged))
  | observe next ih =>
    change pairing.Joined (perform engine (next left.observed) left)
      (perform engine (next right.observed) right)
    rw [hcoupled.observed]
    exact ih _ hcoupled (haction _)
  | reenter next ih =>
    have hrunning : right.evaluator.running = left.evaluator.running := by
      rw [hcoupled.evaluator]
    unfold perform
    rw [hrunning]
    split
    · exact .coupled (within_failed _) hcoupled
    · exact ih hcoupled haction
  | reach receiver name arguments next ih =>
    obtain ⟨hreceiver, harguments, hnext⟩ := haction
    refine joined_bind ((hengine.reach hreceiver name harguments).joined left right hcoupled)
      (fun hwhole answer ↦ grows_perform hengine hwhole (next answer))
      fun answer first second hanswer hchanged ↦ ?_
    exact ih answer hchanged (hnext answer first.memory hanswer (hcoupled.keeps_of hchanged))

theorem inStep_perform {action : Action α} (haction : action.Confined pairing.realm) :
    (perform engine action).InStep pairing where
  grows hwhole := grows_perform hengine hwhole action
  joined _ _ hcoupled := joined_perform hengine hcoupled (haction _ hcoupled.within)

end

end Run

end Treewalk
