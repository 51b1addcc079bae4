import Treewalk.Evaluate

/-!
Where failures of the interpreter's own come from. The interpreter is at work on tasks inside of
each other: it evaluates sites, calls values, sends members and looks up constants for nodes, and
performs host code. `Task.Starts` says which tasks another one can start, and `Task.Raises` which
failures it can raise itself.

`Leaves` follows a failure from the task that raised it out to the one that is given. Each task on
the way was started later than the one around it and ended with the failure, and from the end of one
to the end of the next frames were left and nothing else happened. Nothing changes the cause
(`Leaves.cause`). The node with which a failure is raised stays, and one that is raised without a
node is given that of the innermost sending or lookup (`Leaves.node`); so what leaves an evaluation
concerns a node (`Leaves.isSome_node`).
-/

set_option autoImplicit false
set_option relaxedAutoImplicit false

namespace Treewalk

/-! ### What host code can come to -/

namespace Action

variable {α : Type}

/-- Some course of an action goes on with another action. -/
inductive Reaches : Action α → Action α → Prop where
  | here (action : Action α) : Reaches action action
  | inspect {next : Memory → Action α} {later : Action α} (memory : Memory) :
      Reaches (next memory) later → Reaches (.inspect next) later
  | update {heap : Array Cell} {marks : Nat} {next later : Action α} :
      Reaches next later → Reaches (.update heap marks next) later
  | call {callee : Value} {arguments : List Value} {block : Option Value}
      {next : Value → Action α} {later : Action α} (result : Value) :
      Reaches (next result) later → Reaches (.call callee arguments block next) later
  | attempt {callee : Value} {arguments : List Value} {block : Option Value}
      {next : Value → Action α} {catches : Kind → Bool} {recover : Kind → Action α}
      {later : Action α} (result : Value) :
      Reaches (next result) later →
        Reaches (.attempt callee arguments block next catches recover) later
  | recover {callee : Value} {arguments : List Value} {block : Option Value}
      {next : Value → Action α} {catches : Kind → Bool} {recover : Kind → Action α}
      {later : Action α} (kind : Kind) :
      Reaches (recover kind) later →
        Reaches (.attempt callee arguments block next catches recover) later
  | parameters {index : Nat} {next : Option Value → Action α} {later : Action α}
      (names : Option Value) :
      Reaches (next names) later → Reaches (.parameters index next) later
  | observe {next : Observation → Action α} {later : Action α} (seen : Observation) :
      Reaches (next seen) later → Reaches (.observe next) later
  | reenter {next later : Action α} : Reaches next later → Reaches (.reenter next) later
  | reach {receiver : Value} {name : String} {arguments : Option (List Value)}
      {next : Option Value → Action α} {later : Action α} (answer : Option Value) :
      Reaches (next answer) later → Reaches (.reach receiver name arguments next) later

end Action

/-! ### Tasks -/

/-- What the interpreter can be at work on. -/
inductive Task where
  /-- A site is evaluated. -/
  | evaluation (site : Site)
  /-- A value is called. -/
  | call (callee : Value) (arguments : List Value) (block : Option Value)
  /-- A member is sent for a node. -/
  | sending (receiver : Value) (member : Tree) (arguments : List Value) (block : Option Value)
      (node receiverNode : Tree)
  /-- A constant is looked up for a node. -/
  | lookup (owner : Value) (name : Site) (node : Tree)
  /-- Host code is performed. -/
  | performing (action : Action Value)

/-- The failures that the evaluator raises with the node they concern. -/
inductive Failure.Marked : Failure → Prop where
  | undefinedVariable (name : String) (children : List Tree) :
      Marked ⟨.undefinedVariable Space.locals.label name,
        some (.node Construct.localRead.tag children)⟩
  | unsupportedConstruct (tag : String) (children : List Tree) :
      Marked ⟨.unsupportedConstruct tag, some (.node tag children)⟩
  | blockConflict {construct : Construct} (children : List Tree) :
      construct = .send ∨ construct = .safeSend →
        Marked ⟨.blockConflict, some (.node construct.tag children)⟩
  | unhashableKey (kind tag : String) (children : List Tree) :
      Marked ⟨.unhashableKey kind, some (.node tag children)⟩

namespace Task

/-- The run of a task on the engine of a depth. -/
def run (library : Library) (depth : Nat) : Task → Run Value
  | evaluation site => (Eval.engine library depth).evaluate site
  | call callee arguments block => (Eval.engine library depth).call callee arguments block
  | sending receiver member arguments block node receiverNode =>
    Eval.dispatch library (Eval.engine library depth) receiver member arguments block node
      receiverNode
  | lookup owner name node => Eval.resolve library (Eval.engine library depth) owner name node
  | performing action => Run.perform (Eval.engine library depth) action

/-- The node that a member is sent or a constant looked up for. -/
def node? : Task → Option Tree
  | sending _ _ _ _ node _ => some node
  | lookup _ _ node => some node
  | _ => none

/-- A failure as it comes out of a task: one that concerns no node yet is given that of the task. -/
def locate (task : Task) (failure : Failure) : Failure :=
  match task.node? with
  | some node => failure.locate node
  | none => failure

/-- The failures that a task can raise itself. -/
inductive Raises (library : Library) : Task → Failure → Prop where
  | evaluating (site : Site) {failure : Failure} :
      failure.Marked → Raises library (.evaluation site) failure
  /-- A parameter list binds nothing at a node of an unknown kind. -/
  | binding (callee : Value) (arguments : List Value) (block : Option Value) {failure : Failure} :
      failure.Marked → Raises library (.call callee arguments block) failure
  /-- A block is given a block. -/
  | blockToBlock (index : Nat) (arguments : List Value) (given : Value) :
      Raises library (.call (.closure index) arguments (some given)) ⟨.blockToBlock, none⟩
  /-- The policy refuses a member or a constant. -/
  | denied {task : Task} {node : Tree} (receiver : Value) (kind : String) (member : Tree) :
      task.node? = some node →
        Raises library task ⟨.denied receiver kind member, some node⟩
  /-- Host code fails: a receiver has no such member, an owner no such constant, or a function,
  class or method of the host fails for a reason of its own. -/
  | failing {action : Action Value} {failure : Failure} :
      action.Reaches (.fail failure) → Raises library (.performing action) failure

/-- The tasks that a task can start. A member is sent for a send or a safe send, a constant is
looked up for a constant, and the proc of a symbol sends its name for the block argument that it
was. Host code asks for calls, and for the parameter names of a block. -/
inductive Starts (library : Library) : Task → Task → Prop where
  | part (site inner : Site) : Starts library (.evaluation site) (.evaluation inner)
  | sent (site : Site) (receiver : Value) (member : Tree) (arguments : List Value)
      (block : Option Value) {construct : Construct} (children : List Tree) (receiverNode : Tree) :
      construct = .send ∨ construct = .safeSend →
        Starts library (.evaluation site) (.sending receiver member arguments block
          (.node construct.tag children) receiverNode)
  | lookedUp (site : Site) (owner : Value) (name : Site) (children : List Tree) :
      Starts library (.evaluation site) (.lookup owner name (.node Construct.constant.tag children))
  | body (index : Nat) (arguments : List Value) (site : Site) :
      Starts library (.call (.closure index) arguments none) (.evaluation site)
  | forwarded (index : Nat) (receiver : Value) (arguments : List Value) (block : Option Value)
      (name : String) (children : List Tree) :
      Starts library (.call (.closure index) (receiver :: arguments) block)
        (.sending receiver (.leaf (.text name)) arguments block
          (.node Construct.blockPass.tag children) (.leaf .null))
  | applied (callee : Value) (arguments : List Value) (block : Option Value) :
      Starts library (.call callee arguments block)
        (.performing (library.apply callee arguments block))
  | invoked (receiver : Value) (member : Tree) (arguments : List Value) (block : Option Value)
      (node receiverNode : Tree) :
      Starts library (.sending receiver member arguments block node receiverNode)
        (.performing (Eval.invoke library receiver member arguments block))
  | resolved (owner : Value) (name : Site) (node : Tree) :
      Starts library (.lookup owner name node) (.performing (library.resolve owner name))
  | called {action : Action Value} {callee : Value} {arguments : List Value}
      {block : Option Value} {next : Value → Action Value} :
      action.Reaches (.call callee arguments block next) →
        Starts library (.performing action) (.call callee arguments block)
  | attempted {action : Action Value} {callee : Value} {arguments : List Value}
      {block : Option Value} {next : Value → Action Value} {catches : Kind → Bool}
      {recover : Kind → Action Value} :
      action.Reaches (.attempt callee arguments block next catches recover) →
        Starts library (.performing action) (.call callee arguments block)
  | asked {action : Action Value} {index : Nat} {next : Option Value → Action Value}
      (site : Site) :
      action.Reaches (.parameters index next) →
        Starts library (.performing action) (.evaluation site)

end Task

/-! ### Following a failure -/

/-- Two machines between which frames are left and nothing else happens. -/
structure Machine.Unwinds (inner outer : Machine) : Prop where
  events : inner.events = outer.events
  memory : inner.memory = outer.memory
  frames : inner.frames = outer.frames

/-- A failure leaves a task that starts on a machine and ends on another. It was raised as `raised`,
and `within` is the node of the innermost sending or lookup that it was raised in, as far as there
is one in the task. -/
inductive Leaves (library : Library) :
    Task → Machine → Failure → Machine → Failure → Option Tree → Prop where
  /-- The task raised the failure itself. -/
  | raised {task : Task} {start last : Machine} {raised : Failure} (depth : Nat)
      (own : raised.isInterpreter = true) (raises : task.Raises library raised)
      (ends : task.run library depth start = (.failed (task.locate raised), last)) :
      Leaves library task start (task.locate raised) last raised task.node?
  /-- The failure has left a task that was started later and ended last. -/
  | passed {task sub : Task} {start inner outer last : Machine} {failure raised : Failure}
      {within : Option Tree} (depth : Nat) (starts : task.Starts library sub)
      (later : start.events <:+ inner.events)
      (leaves : Leaves library sub inner failure outer raised within)
      (unwinds : outer.Unwinds last)
      (ends : task.run library depth start = (.failed (task.locate failure), last)) :
      Leaves library task start (task.locate failure) last raised (within.or task.node?)

namespace Failure

@[simp] theorem cause_locate (node : Tree) (failure : Failure) :
    (failure.locate node).cause = failure.cause := by
  unfold locate
  split <;> rfl

@[simp] theorem isInterpreter_locate (node : Tree) (failure : Failure) :
    (failure.locate node).isInterpreter = failure.isInterpreter := by
  simp [isInterpreter]

theorem node_locate (node : Tree) {failure : Failure} (hown : failure.isInterpreter = true) :
    (failure.locate node).node = failure.node.or (some node) := by
  obtain ⟨cause, _ | own⟩ := failure
  · simp [locate, hown]
  · simp [locate]

/-- A failure that concerns a node keeps it. -/
theorem locate_of_isSome (node : Tree) {failure : Failure} (hnode : failure.node.isSome = true) :
    failure.locate node = failure := by
  obtain ⟨cause, _ | own⟩ := failure
  · cases hnode
  · simp [locate]

end Failure

namespace Task

@[simp] theorem cause_locate (task : Task) (failure : Failure) :
    (task.locate failure).cause = failure.cause := by
  unfold locate
  split
  · exact failure.cause_locate _
  · rfl

@[simp] theorem isInterpreter_locate (task : Task) (failure : Failure) :
    (task.locate failure).isInterpreter = failure.isInterpreter := by
  simp [Failure.isInterpreter]

theorem node_locate (task : Task) {failure : Failure} (hown : failure.isInterpreter = true) :
    (task.locate failure).node = failure.node.or task.node? := by
  unfold locate
  cases task.node? with
  | none => simp
  | some node => exact Failure.node_locate node hown

theorem locate_of_isSome (task : Task) {failure : Failure} (hnode : failure.node.isSome = true) :
    task.locate failure = failure := by
  unfold locate
  split
  · exact Failure.locate_of_isSome _ hnode
  · rfl

/-- Whether all that leaves a task concerns a node. -/
def isPlaced : Task → Bool
  | evaluation _ | sending _ _ _ _ _ _ | lookup _ _ _ => true
  | call _ _ _ | performing _ => false

end Task

/-- A node that members are sent or constants looked up for. -/
def Tree.Dispatches (node : Tree) : Prop :=
  ∃ construct children, node = .node (Construct.tag construct) children ∧
    construct ∈ [Construct.send, .safeSend, .blockPass, .constant]

theorem Task.Starts.dispatches {library : Library} {task sub : Task}
    (hstarts : task.Starts library sub) {node : Tree} (hnode : sub.node? = some node) :
    node.Dispatches := by
  cases hstarts with
  | @sent site receiver member arguments block construct children receiverNode hconstruct =>
    obtain rfl := Option.some.inj hnode
    refine ⟨construct, children, rfl, ?_⟩
    rcases hconstruct with rfl | rfl <;> simp
  | lookedUp site owner name children =>
    obtain rfl := Option.some.inj hnode
    exact ⟨.constant, children, rfl, by simp⟩
  | forwarded index receiver arguments block name children =>
    obtain rfl := Option.some.inj hnode
    exact ⟨.blockPass, children, rfl, by simp⟩
  | _ => cases hnode

namespace Leaves

variable {library : Library} {task : Task} {start last : Machine} {failure raised : Failure}
  {within : Option Tree}

/-- Nothing changes what went wrong. -/
theorem cause (hleaves : Leaves library task start failure last raised within) :
    failure.cause = raised.cause := by
  induction hleaves with
  | raised depth own raises ends => exact Task.cause_locate _ _
  | passed depth starts later leaves unwinds ends ih => exact (Task.cause_locate _ _).trans ih

theorem own (hleaves : Leaves library task start failure last raised within) :
    failure.isInterpreter = true := by
  induction hleaves with
  | raised depth own raises ends => exact (Task.isInterpreter_locate _ _).trans own
  | passed depth starts later leaves unwinds ends ih =>
    exact (Task.isInterpreter_locate _ _).trans ih

/-- A failure keeps the node it was raised with; one that was raised without a node concerns that of
the innermost sending or lookup. -/
theorem node (hleaves : Leaves library task start failure last raised within) :
    failure.node = raised.node.or within := by
  induction hleaves with
  | raised depth own raises ends => exact Task.node_locate _ own
  | passed depth starts later leaves unwinds ends ih =>
    rw [Task.node_locate _ leaves.own, ih, Option.or_assoc]

theorem dispatches (hleaves : Leaves library task start failure last raised within)
    (htask : ∀ node, task.node? = some node → node.Dispatches) {node : Tree}
    (hwithin : within = some node) : node.Dispatches := by
  induction hleaves with
  | raised depth own raises ends => exact htask node hwithin
  | passed depth starts later leaves unwinds ends ih =>
    rcases Option.or_eq_some_iff.mp hwithin with hinner | ⟨-, houter⟩
    · exact ih (fun _ ↦ starts.dispatches) hinner
    · exact htask node houter

/-- What leaves an evaluation, a sending or a lookup concerns a node. -/
theorem isSome_node (hleaves : Leaves library task start failure last raised within)
    (hplaced : task.isPlaced = true) : failure.node.isSome = true := by
  have hlocated {task : Task} {failure : Failure} (hown : failure.isInterpreter = true)
      (hsome : failure.node.isSome = true ∨ task.node?.isSome = true) :
      (task.locate failure).node.isSome = true := by
    rw [Task.node_locate _ hown, Option.isSome_or]
    simpa using hsome
  induction hleaves with
  | raised depth own raises ends =>
    refine hlocated own ?_
    cases raises with
    | evaluating site hmarked => cases hmarked <;> exact Or.inl rfl
    | denied receiver kind member hnode => exact Or.inl rfl
    | _ => cases hplaced
  | passed depth starts later leaves unwinds ends ih =>
    refine hlocated leaves.own ?_
    cases starts with
    | part | sent | lookedUp => exact Or.inl (ih rfl)
    | invoked | resolved => exact Or.inr rfl
    | _ => cases hplaced

end Leaves

end Treewalk
