import Treewalk.Proofs.AlikeHost
import Treewalk.Proofs.Lockstep

/-!
Machines that are numbered differently. Two machines are twins when one is the other under other
numbers (`Comparison.Twins`): memory, frames and chains correspond, and since the comparison began the
same deeds were done on both sides. What is not compared are the nodes that are not told apart, the
node evaluated last and the log; and where host code is blind to them, the local variables need not
correspond outside of blocks. Whatever is changed on both sides alike leaves twins, with one lemma for
each change that a run makes to a machine.
-/

set_option autoImplicit false
set_option relaxedAutoImplicit false

namespace Treewalk

/-! ### What is compared -/

/-- An event with what is seen of the nodes in it. -/
def Event.blurred (seen : Tree → Tree) : Event → Event
  | query receiver member node published granted => query receiver member (seen node) published granted
  | event => event

/-- An event with the addresses of its values renamed. Names hold no addresses. -/
def Event.renamed (numbering : Numbering) : Event → Event
  | query receiver member node published granted =>
    query (rename numbering receiver) member node published granted
  | invocation receiver member arguments block =>
    invocation (rename numbering receiver) member (rename numbering arguments) (rename numbering block)
  | lookup owner name => lookup (rename numbering owner) name
  | write space name value => write space name (rename numbering value)
  | untraced receiver member => untraced (rename numbering receiver) member
  | reach receiver name => reach (rename numbering receiver) name
  | event => event

instance : Renamable Event := ⟨Event.renamed⟩

/-- A kept query with what is seen of the node in it. -/
def Request.blurred (seen : Tree → Tree) (request : Request) : Request :=
  { request with node := seen request.node }

instance : Renamable Request :=
  ⟨fun numbering request ↦ { request with receiver := rename numbering request.receiver }⟩

/-- A failure with what is seen of its node. -/
def Failure.blurred (seen : Tree → Tree) (failure : Failure) : Failure :=
  { failure with node := failure.node.map seen }

/-- Two lists that have grown alike, in what is shown of the things that were put in front. -/
def GrownAlong {α β : Type} (shown shown' : α → β) (base other now later : List α) : Prop :=
  ∃ added added', now = added ++ base ∧ later = added' ++ other ∧ added'.map shown' = added.map shown

namespace GrownAlong

variable {α β : Type} {shown shown' : α → β} {base other now later : List α}

theorem refl (base other : List α) : GrownAlong shown shown' base other base other :=
  ⟨[], [], rfl, rfl, rfl⟩

theorem cons {item item' : α} (hshown : shown' item' = shown item)
    (hgrown : GrownAlong shown shown' base other now later) :
    GrownAlong shown shown' base other (item :: now) (item' :: later) := by
  obtain ⟨added, added', rfl, rfl, hadded⟩ := hgrown
  refine ⟨item :: added, item' :: added', rfl, rfl, ?_⟩
  rw [List.map_cons, List.map_cons, hshown, hadded]

end GrownAlong

/-! ### Chains and frames -/

namespace Frames

variable {numbering : Numbering} {left right : Frames}

/-- A name is found in the corresponding frame, with the corresponding value. -/
theorem find?_renamed
    (hframes : ∀ number, right.frame (numbering.frame number) = rename numbering (left.frame number))
    (key : Key) (chain : Chain) :
    right.find? (rename numbering key) (chain.map numbering.frame) =
      rename numbering (left.find? key chain) := by
  induction chain with
  | nil => rfl
  | cons number rest ih =>
    have hfound : (right.frame (numbering.frame number)).find? (rename numbering key) =
        rename numbering ((left.frame number).find? key) := by
      rw [hframes, Table.find?_rename]
    rw [List.map_cons, find?, find?, hfound, ih]
    cases (left.frame number).find? key <;> rfl

/-- A write goes to the corresponding frame. -/
theorem target?_renamed
    (hframes : ∀ number, right.frame (numbering.frame number) = rename numbering (left.frame number))
    {key : Key} (hkey : rename numbering key = key) (chain : Chain) :
    right.target? key (chain.map numbering.frame) =
      (left.target? key chain).map numbering.frame := by
  have hhas (table : Table) : (rename numbering table).has key = table.has key := by
    have hrenamed : (rename numbering table).has (rename numbering key) = table.has key :=
      Table.has_rename table key
    rwa [hkey] at hrenamed
  have hholder : right.holder? key (chain.map numbering.frame) =
      (left.holder? key chain).map numbering.frame := by
    induction chain with
    | nil => rfl
    | cons number rest ih =>
      rw [List.map_cons, holder?, holder?, hframes, hhas, ih]
      split <;> rfl
  rw [target?, target?, hholder]
  cases left.holder? key chain with
  | none => cases chain <;> rfl
  | some number => rfl

theorem describe?_renamed
    (hframes : ∀ number, right.frame (numbering.frame number) = rename numbering (left.frame number))
    (space : String) (chain : Chain) :
    right.describe? space (chain.map numbering.frame) = left.describe? space chain := by
  have hnames (table : Table) :
      listing?.textNames? (rename numbering table) = listing?.textNames? table := by
    induction table with
    | nil => rfl
    | cons entry rest ih =>
      obtain ⟨key, name, value⟩ := entry
      rw [rename_cons, rename_entry, listing?.textNames?, listing?.textNames?]
      cases name with
      | text s mark => simp only [Value.rename_text, ih]
      | symbol s mark => simp only [Value.rename_symbol, ih]
      | tuple items mark => rw [Value.rename_tuple]
      | _ => rfl
  have hlisting : right.listing? (chain.map numbering.frame) = left.listing? chain := by
    induction chain with
    | nil => rfl
    | cons number rest ih => rw [List.map_cons, listing?, listing?, hframes, hnames, ih]
  rw [describe?, describe?, hlisting]

end Frames

/-! ### Comparisons -/

mutual

/-- Whether evaluating a tree lists parameters and does nothing else, or fails because the construct is
not supported. -/
def Tree.listsParameters : Tree → Bool
  | .leaf _ => true
  | .node tag children =>
    match Construct.ofTag? tag with
    | none => true
    | some .parameters | some .soleParameter => Tree.allListParameters children
    | some .parameter | some .restParameter | some .targets => true
    | some _ => false

/-- Whether evaluating any of the trees lists parameters and does nothing else. -/
def Tree.allListParameters : List Tree → Bool
  | [] => true
  | tree :: rest => tree.listsParameters && Tree.allListParameters rest

end

theorem Tree.listsParameters_of_mem {trees : List Tree} (htrees : Tree.allListParameters trees = true)
    {tree : Tree} (htree : tree ∈ trees) : tree.listsParameters = true := by
  induction trees with
  | nil => cases htree
  | cons first rest ih =>
    rw [allListParameters, Bool.and_eq_true] at htrees
    rcases List.mem_cons.mp htree with rfl | hrest
    · exact htrees.1
    · exact ih htrees.2 hrest

/-- The evaluation of a tree was begun on a machine since an earlier one. -/
def Machine.Visited (before after : Machine) (tree : Tree) : Prop :=
  ∃ added evaluator, after.events = added ++ before.events ∧ Event.visit tree evaluator ∈ added

namespace Machine.Visited

theorem mono {before after later : Machine} {tree : Tree} (hvisited : before.Visited after tree)
    (hlater : after.events <:+ later.events) : before.Visited later tree := by
  obtain ⟨added, evaluator, hevents, hvisit⟩ := hvisited
  obtain ⟨more, hmore⟩ := hlater
  exact ⟨more ++ added, evaluator, by rw [← hmore, hevents, List.append_assoc],
    List.mem_append_right more hvisit⟩

theorem since {first before after : Machine} {tree : Tree} (hvisited : before.Visited after tree)
    (hfirst : first.events <:+ before.events) : first.Visited after tree := by
  obtain ⟨added, evaluator, hevents, hvisit⟩ := hvisited
  obtain ⟨more, hmore⟩ := hfirst
  exact ⟨added ++ more, evaluator, by rw [hevents, ← hmore, List.append_assoc],
    List.mem_append_left more hvisit⟩

end Machine.Visited

/-- Whether the parameter list of a closure, if it has one, was evaluated since an earlier machine. -/
def Closure.IsListed (before after : Machine) : Closure → Prop
  | block parameters _ _ => before.Visited after parameters.tree
  | symbolProc _ _ => False

/-- A block whose parameter list, when it is evaluated, does nothing but list parameters. -/
def Closure.isProper : Closure → Bool
  | block parameters _ _ => parameters.tree.listsParameters
  | symbolProc _ _ => true

/-- Two runs that are compared: how addresses and frames are numbered on the right, and up to how many
cells and frames on the left; whether host code is blind to the local variables; what is seen of nodes;
which side may be exhausted before the other; and the machines that the comparison begins with. -/
structure Comparison where
  numbering : Numbering
  limit : Nat
  frameLimit : Nat
  blind : Bool
  seen : Tree → Tree
  early : Prop
  late : Prop
  left : Machine
  right : Machine

namespace Comparison

/-- The ways out: the left machine holds more cells or frames than the limits, or host code is blind and
the parameters of a block were evaluated that cannot be listed without reading variables. -/
inductive Gone (comparison : Comparison) (left : Machine) : Prop where
  | cells (exceeds : comparison.limit < left.memory.heap.size)
  | frames (exceeds : comparison.frameLimit < left.frames.size)
  | parameters {closure : Closure} (blind : comparison.blind = true)
      (found : closure ∈ left.memory.closures.toList) (improper : closure.isProper = false)
      (listed : closure.IsListed comparison.left left)

/-- The right machine is the left one under other numbers. Outside of blocks the local variables may
be different ones, and then they are out of scope. -/
structure Twins (comparison : Comparison) (inScope : Bool) (left right : Machine) : Prop where
  memory : comparison.numbering.Matches comparison.limit left.memory right.memory
  frames : ∀ number, right.frames.frame (comparison.numbering.frame number) =
    rename comparison.numbering (left.frames.frame number)
  bounds : ∀ number,
    comparison.numbering.frame number < right.frames.size ↔ number < left.frames.size
  newFrames : ∀ count, left.frames.size + count < comparison.frameLimit →
    comparison.numbering.frame (left.frames.size + count) = right.frames.size + count
  locals : inScope = true →
    right.evaluator.locals = left.evaluator.locals.map comparison.numbering.frame
  globals : right.evaluator.globals = left.evaluator.globals.map comparison.numbering.frame
  context : right.evaluator.context = rename comparison.numbering left.evaluator.context
  handlers : right.handlers = rename comparison.numbering left.handlers
  policy : left.evaluator.policy = comparison.left.evaluator.policy
  samePolicy : right.evaluator.policy = left.evaluator.policy
  running : right.evaluator.running = left.evaluator.running
  threshold : right.threshold = left.threshold
  since : comparison.left.events <:+ left.events
  deeds : GrownAlong (fun event ↦ (rename comparison.numbering event).blurred comparison.seen)
    (Event.blurred comparison.seen) comparison.left.deeds comparison.right.deeds left.deeds right.deeds
  requests : GrownAlong
    (fun request ↦ (rename comparison.numbering request).blurred comparison.seen)
    (Request.blurred comparison.seen) comparison.left.requests comparison.right.requests left.requests
    right.requests

/-- Local variables are in scope, or host code is blind to them. -/
def Allows (comparison : Comparison) (inScope : Bool) : Prop :=
  inScope = true ∨ comparison.blind = true

variable {comparison : Comparison} {inScope : Bool} {left right : Machine}

namespace Twins

variable (htwins : comparison.Twins inScope left right)

include htwins

/-! ### What is looked at -/

theorem mirrors : comparison.numbering.Mirrors left.memory right.memory := htwins.memory.toMirrors

theorem chain {space : Space} (hspace : space = .locals → inScope = true) :
    right.evaluator.chain space = (left.evaluator.chain space).map comparison.numbering.frame := by
  cases space with
  | locals => exact htwins.locals (hspace rfl)
  | globals => exact htwins.globals

/-- As long as the limit is not reached, the frame that is added next gets its number on both sides. -/
theorem newFrame (hlimit : left.frames.size < comparison.frameLimit) :
    right.frames.size = comparison.numbering.frame left.frames.size :=
  (htwins.newFrames 0 hlimit).symm

/-- Host code sees of both machines what it can tell apart. -/
theorem observed (hallows : comparison.Allows inScope) :
    right.observed.blurred comparison.blind = left.observed.blurred comparison.blind := by
  have hglobals : right.evaluator.globals.length = left.evaluator.globals.length := by
    rw [htwins.globals, List.length_map]
  by_cases hblind : comparison.blind = true
  · simp [Observation.blurred, Machine.observed, hblind, hglobals]
  · have hlocals := htwins.locals (hallows.resolve_right hblind)
    simp [Observation.blurred, Machine.observed, hblind, hglobals, hlocals,
      Frames.describe?_renamed htwins.frames]

/-! ### What is changed -/

/-- Both memories may go on alike. -/
theorem withMemory {memory memory' : Memory}
    (hmemory : comparison.numbering.Matches comparison.limit memory memory') :
    comparison.Twins inScope { left with memory := memory } { right with memory := memory' } :=
  { htwins with memory := hmemory }

/-- Events that are alike are noted on both sides. -/
theorem noted {event event' : Event} (hdeed : event'.isDeed = event.isDeed)
    (hevent : event'.blurred comparison.seen =
      (rename comparison.numbering event).blurred comparison.seen) :
    comparison.Twins inScope (left.noted event) (right.noted event') :=
  { htwins with
    since := htwins.since.trans (List.suffix_cons event left.events)
    deeds := by
      rw [Machine.deeds_noted, Machine.deeds_noted, hdeed]
      split
      · exact htwins.deeds.cons hevent
      · exact htwins.deeds }

/-- What is no deed may be noted differently. -/
theorem passed {event event' : Event} (hevent : event.isDeed = false)
    (hevent' : event'.isDeed = false) :
    comparison.Twins inScope (left.noted event) (right.noted event') :=
  { htwins with
    since := htwins.since.trans (List.suffix_cons event left.events)
    deeds := by
      rw [Machine.deeds_noted, Machine.deeds_noted, hevent, hevent']
      exact htwins.deeds }

/-- And it may be noted on one side only. -/
theorem passed_right {event : Event} (hevent : event.isDeed = false) :
    comparison.Twins inScope left (right.noted event) :=
  { htwins with
    deeds := by
      rw [Machine.deeds_noted, hevent]
      exact htwins.deeds }

/-- The nodes evaluated last need not be the same. -/
theorem moved (tree tree' : Tree) :
    comparison.Twins inScope
      { left with evaluator := { left.evaluator with current := some tree } }
      { right with evaluator := { right.evaluator with current := some tree' } } :=
  { htwins with }

theorem moved_right (tree : Tree) :
    comparison.Twins inScope left
      { right with evaluator := { right.evaluator with current := some tree } } :=
  { htwins with }

/-- Nor need the log be. -/
theorem logged (severity : Log.Severity) (source : Log.Source) (message message' : String) :
    comparison.Twins inScope (left.logged severity source message)
      (right.logged severity source message') := by
  have hlogged (machine : Machine) (message : String) : machine.logged severity source message =
      { machine with records := (machine.logged severity source message).records } := by
    unfold Machine.logged
    split <;> rfl
  rw [hlogged left, hlogged right]
  exact { htwins with }

/-- A query is kept on both sides or on neither. -/
theorem requested (receiver : Value) (member : Tree) {node node' : Tree}
    (hnode : comparison.seen node' = comparison.seen node) :
    comparison.Twins inScope (Eval.requested receiver member node left)
      (Eval.requested (rename comparison.numbering receiver) member node' right) := by
  unfold Eval.requested
  rw [htwins.samePolicy]
  split
  · refine { htwins with requests := htwins.requests.cons ?_ }
    change Request.mk (right.memory.view (rename comparison.numbering receiver)) member
      (comparison.seen node') = Request.mk (rename comparison.numbering (left.memory.view receiver))
        member (comparison.seen node)
    rw [htwins.mirrors.view, hnode]
  · exact htwins

/-- A frame is replaced by the corresponding one on the other side. -/
theorem replaced (number : Nat) (table : Table) :
    comparison.Twins inScope { left with frames := left.frames.setIfInBounds number table }
      { right with
        frames := right.frames.setIfInBounds (comparison.numbering.frame number)
          (rename comparison.numbering table) } := by
  refine { htwins with frames := ?_, bounds := ?_, newFrames := ?_ }
  · intro other
    simp only [Frames.frame_setIfInBounds, comparison.numbering.frame_injective.eq_iff,
      htwins.bounds, htwins.frames]
    split <;> rfl
  · simp only [Array.size_setIfInBounds]
    exact htwins.bounds
  · simp only [Array.size_setIfInBounds]
    exact htwins.newFrames

/-- A variable is written in the corresponding frame. -/
theorem written {name name' : Name} (hkey : name'.key = rename comparison.numbering name.key)
    (hname : name'.value = rename comparison.numbering name.value) (number : Nat) (value : Value) :
    comparison.Twins inScope { left with frames := left.frames.bind number name value }
      { right with
        frames := right.frames.bind (comparison.numbering.frame number) name'
          (rename comparison.numbering value) } := by
  unfold Frames.bind
  rw [htwins.frames, hkey, hname, ← Table.rename_insert]
  exact htwins.replaced number _

/-- A variable is taken out of the corresponding frame. -/
theorem removed (number : Nat) (key : Key) :
    comparison.Twins inScope { left with frames := left.frames.unbind number key }
      { right with
        frames := right.frames.unbind (comparison.numbering.frame number)
          (rename comparison.numbering key) } := by
  unfold Frames.unbind
  rw [htwins.frames, ← Table.rename_erase]
  exact htwins.replaced number _

/-- A frame is added on both sides. -/
theorem pushed (hlimit : left.frames.size < comparison.frameLimit) (bindings : Table) :
    comparison.Twins inScope { left with frames := left.frames.push bindings }
      { right with frames := right.frames.push (rename comparison.numbering bindings) } := by
  have hnew := htwins.newFrame hlimit
  refine { htwins with frames := ?_, bounds := ?_, newFrames := ?_ }
  · intro number
    simp only [Frames.frame_pushed, hnew, comparison.numbering.frame_injective.eq_iff, htwins.frames]
    split <;> rfl
  · intro number
    have hbounds := htwins.bounds number
    have hlast : comparison.numbering.frame number = right.frames.size ↔
        number = left.frames.size := by
      rw [hnew, comparison.numbering.frame_injective.eq_iff]
    simp only [Array.size_push]
    omega
  · intro count hcount
    simp only [Array.size_push, Nat.add_assoc] at hcount ⊢
    exact htwins.newFrames (1 + count) hcount

/-- Both evaluators get local chains, which correspond if they are to be in scope. -/
theorem withLocals {inside : Bool} {chain chain' : Chain}
    (hchain : inside = true → chain' = chain.map comparison.numbering.frame) :
    comparison.Twins inside { left with evaluator := left.evaluator.withChain .locals chain }
      { right with evaluator := right.evaluator.withChain .locals chain' } :=
  { htwins with locals := hchain }

/-- A frame is entered on both sides, and inside of it the local variables correspond. -/
theorem enter (hlimit : left.frames.size < comparison.frameLimit) (bindings : Table)
    {base base' : Option Chain}
    (hinner : right.innerChain .locals base' =
      (left.innerChain .locals base).map comparison.numbering.frame) :
    comparison.Twins true (left.enter .locals bindings base).2
      (right.enter .locals (rename comparison.numbering bindings) base').2 := by
  have henter (machine : Machine) (bindings : Table) (base : Option Chain) :
      (machine.enter .locals bindings base).2 =
        Machine.noted
          (.enter .locals (machine.evaluator.chain .locals) (machine.innerChain .locals base))
          { machine with
            frames := machine.frames.push bindings
            evaluator := machine.evaluator.withChain .locals (machine.innerChain .locals base) } := by
    cases base <;> rfl
  rw [henter left, henter right]
  exact ((htwins.pushed hlimit bindings).withLocals fun _ ↦ hinner).passed rfl rfl

/-- In a frame over a captured chain the local variables correspond, whatever they do outside. -/
theorem enter_captured (hlimit : left.frames.size < comparison.frameLimit) (bindings : Table)
    (chain : Chain) :
    comparison.Twins true (left.enter .locals bindings (some chain)).2
      (right.enter .locals (rename comparison.numbering bindings)
        (some (chain.map comparison.numbering.frame))).2 := by
  refine htwins.enter hlimit bindings ?_
  change right.frames.size :: chain.map comparison.numbering.frame =
    (left.frames.size :: chain).map comparison.numbering.frame
  rw [List.map_cons, htwins.newFrame hlimit]

end Twins

/-- In a new frame the local variables correspond if they do outside. -/
theorem Twins.enter_new (htwins : comparison.Twins true left right)
    (hlimit : left.frames.size < comparison.frameLimit) (bindings : Table) :
    comparison.Twins true (left.enter .locals bindings none).2
      (right.enter .locals (rename comparison.numbering bindings) none).2 := by
  refine htwins.enter hlimit bindings ?_
  change right.frames.size :: right.evaluator.locals =
    (left.frames.size :: left.evaluator.locals).map comparison.numbering.frame
  rw [List.map_cons, htwins.locals rfl, htwins.newFrame hlimit]

/-- And they do when the frame is left again. -/
theorem Twins.leave_new (htwins : comparison.Twins true left right) {number number' : Nat}
    (hnumber : number' = comparison.numbering.frame number) :
    comparison.Twins true (left.leave .locals ⟨number, none⟩) (right.leave .locals ⟨number', none⟩) := by
  refine htwins.withLocals fun _ ↦ ?_
  change Chain.leave ⟨number', none⟩ right.evaluator.locals =
    (Chain.leave ⟨number, none⟩ left.evaluator.locals).map comparison.numbering.frame
  rw [htwins.locals rfl, hnumber]
  cases left.evaluator.locals with
  | nil => rfl
  | cons first outer =>
    simp only [Chain.leave, List.map_cons, comparison.numbering.frame_injective.eq_iff]
    split
    · rfl
    · rw [List.map_cons]

end Comparison

end Treewalk
