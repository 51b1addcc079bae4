import Treewalk.Host.Kernel
import Treewalk.Proofs.Escape
import Treewalk.Proofs.ParameterNames
import Treewalk.Proofs.Transparency

/-!
Three views of the parameters of a block: the names that it lists, the names that its label shows, and
the names that a call binds in its new frame are the same, whatever the arguments are
(`parameter_views_agree`). While the call lasts the frame keeps these names, so that a parameter can be
read wherever the frame is on the local chain (`Machine.Amid.exists_reads`).

There is one exception. A nested parameter takes a value apart, and a progression of more integers than
can be counted cannot be taken apart (`Tree.Stalls`). A call that meets one fails before it has made a
frame. And a script that reaches for the frame can take a name out of it (`declared_parameter_unread`).
-/

set_option autoImplicit false
set_option relaxedAutoImplicit false

namespace Treewalk

/-! ### What is taken apart -/

namespace Tree

/-- The parameters that a value is taken apart for. -/
def takesApart? : Tree → Option (List Tree)
  | .node "mlhs" parameters => some parameters
  | .node "procarg0" (.node tag children :: second :: others) =>
    some (.node tag children :: second :: others)
  | _ => none

/-- Parameters with the values that they are bound to, but for rests, which are bound to new lists. -/
def paired : List Tree → List Value → List (Tree × Value)
  | [], _ => []
  | .leaf _ :: _, _ => []
  | .node tag children :: rest, values =>
    if Run.takesRest tag then paired rest []
    else (.node tag children, values.headD .nil) :: paired rest values.tail

/-- Binding a parameter to a value comes to a progression that cannot be taken apart. -/
inductive Stalls (before : Memory) : Tree → Value → Prop where
  | endless {parameter : Tree} {parameters : List Tree} {item : Value}
      (htakes : parameter.takesApart? = some parameters) (hendless : item.isEndless = true) :
      Stalls before parameter item
  | within {parameter part : Tree} {parameters : List Tree} {item value : Value}
      {items : List Value} {after : Memory} (htakes : parameter.takesApart? = some parameters)
      (hextends : before.Extends after) (hlists : before.Lists after item items)
      (hpart : (part, value) ∈ paired parameters items) (hstalls : Stalls before part value) :
      Stalls before parameter item
  | sole {only part : Tree} {item value : Value} (hpart : (part, value) ∈ paired [only] [item])
      (hstalls : Stalls before part value) : Stalls before (.node "procarg0" [only]) item

/-- Binding parameters to values comes to a progression that cannot be taken apart. -/
def StallAll (before : Memory) (parameters : List Tree) (values : List Value) : Prop :=
  ∃ pair ∈ paired parameters values, Stalls before pair.1 pair.2

/-- A rest does not stall. -/
theorem not_stalls_rest {before : Memory} {tag : String} {children : List Tree} {item : Value}
    (hrest : Run.takesRest tag = true) : ¬ Stalls before (.node tag children) item := by
  intro hstalls
  have hnone : (Tree.node tag children).takesApart? = none := by
    unfold takesApart?
    split
    · next heq =>
      obtain ⟨rfl, -⟩ := Tree.node.inj heq
      cases hrest
    · next heq =>
      obtain ⟨rfl, -⟩ := Tree.node.inj heq
      cases hrest
    · rfl
  cases hstalls with
  | endless htakes | within htakes => cases hnone.symm.trans htakes
  | sole => cases hrest

end Tree

/-! ### Names that are bound -/

namespace Run

/-- What binding parameters may come to: the names are bound beside those that were, and nothing but
memory has changed, which has grown; or it stalls, and again nothing but memory has changed. -/
inductive BindsAt (names : List String) (stalls : Prop) (table : Table) (machine : Machine) :
    Outcome Table × Machine → Prop where
  | bound {bindings : Table} {memory : Memory} (hextends : machine.memory.Extends memory)
      (hbinds : ∀ key, bindings.has key = true ↔
        table.has key = true ∨ ∃ name ∈ names, key = [.text name]) :
      BindsAt names stalls table machine (.value bindings, { machine with memory := memory })
  | stalled {memory : Memory} (hextends : machine.memory.Extends memory) (hstalls : stalls) :
      BindsAt names stalls table machine (.failed .tooMany, { machine with memory := memory })

/-- Binding a tree to any value binds these names. -/
def Binds (parameter : Tree) (names : List String) : Prop :=
  ∀ (before : Memory) (mark : Mark) (item : Value) (table : Table) (machine : Machine),
    before.Extends machine.memory →
      BindsAt names (parameter.Stalls before item) table machine
        (bindParameter mark parameter item table machine)

/-- Binding trees to any values binds these names. -/
def BindAll (parameters : List Tree) (names : List String) : Prop :=
  ∀ (before : Memory) (mark : Mark) (place : Nat) (values : List Value) (table : Table)
    (machine : Machine), before.Extends machine.memory →
      BindsAt names (Tree.StallAll before parameters values) table machine
        (bindParameters mark place parameters values table machine)

variable {names front back : List String} {stalls wider later : Prop} {table : Table}
  {machine : Machine}

namespace BindsAt

theorem mono {result : Outcome Table × Machine} (hresult : BindsAt names stalls table machine result)
    (hstalls : stalls → wider) : BindsAt names wider table machine result := by
  cases hresult with
  | bound hextends hbinds => exact .bound hextends hbinds
  | stalled hextends hstalled => exact .stalled hextends (hstalls hstalled)

/-- Names one after another. -/
theorem bind {run : Run Table} {next : Table → Run Table}
    (hrun : BindsAt front stalls table machine (run machine))
    (hnext : ∀ bindings memory, machine.memory.Extends memory →
      BindsAt back stalls bindings { machine with memory := memory }
        (next bindings { machine with memory := memory })) :
    BindsAt (front ++ back) stalls table machine ((run >>= next) machine) := by
  rw [bind_apply]
  generalize run machine = result at hrun ⊢
  cases hrun with
  | stalled hextends hstalls => exact .stalled hextends hstalls
  | @bound bindings memory hextends hbinds =>
    have hmore := hnext bindings memory hextends
    dsimp only
    generalize next bindings { machine with memory := memory } = result at hmore ⊢
    cases hmore with
    | stalled hgrown hstalls => exact .stalled (hextends.trans hgrown) hstalls
    | bound hgrown hadds =>
      refine .bound (hextends.trans hgrown) fun key ↦ (hadds key).trans ?_
      rw [hbinds key, or_assoc]
      simp only [List.mem_append, or_and_right, exists_or]

/-- What changes only memory may come before. -/
theorem after_compute {α : Type} {computation : Compute α} {next : α → Run Table} {result : α}
    {memory : Memory} (hcomputes : computation.run.run machine.memory = (.ok result, memory))
    (hextends : machine.memory.Extends memory)
    (hnext : BindsAt names stalls table { machine with memory := memory }
      (next result { machine with memory := memory })) :
    BindsAt names stalls table machine ((compute computation >>= next) machine) := by
  have hrun : compute computation machine = (.value result, { machine with memory := memory }) := by
    rw [compute_apply, hcomputes]
  rw [bind_of_value hrun]
  generalize next result { machine with memory := memory } = result at hnext ⊢
  cases hnext with
  | bound hgrown hbinds => exact .bound (hextends.trans hgrown) hbinds
  | stalled hgrown hstalls => exact .stalled (hextends.trans hgrown) hstalls

/-- One name is bound. -/
theorem insert (name : String) (own item : Value) :
    BindsAt [name] stalls table machine (value (table.insert [.text name] own item) machine) := by
  refine .bound (.refl _) fun key ↦ ?_
  unfold Table.has
  rw [Table.find?_insert]
  by_cases hkey : [Key.Part.text name] = key
  · simp [hkey]
  · simp [hkey, Ne.symm hkey]

/-- No name is bound. -/
theorem none : BindsAt [] stalls table machine (value table machine) :=
  .bound (.refl _) fun key ↦ by simp

end BindsAt

theorem bindAll_nil : BindAll [] [] := by
  intro before mark place values table machine hbefore
  rw [bindParameters]
  exact .none

/-- One parameter more binds its names before those of the others. -/
theorem bindAll_cons {tag : String} {children others : List Tree}
    (hfirst : Binds (.node tag children) front) (hrest : BindAll others back) :
    BindAll (.node tag children :: others) (front ++ back) := by
  intro before mark place values table machine hbefore
  rw [bindParameters]
  by_cases htakes : takesRest tag = true
  · rw [if_pos htakes]
    have hpaired : Tree.paired (.node tag children :: others) values = Tree.paired others [] := by
      rw [Tree.paired, if_pos htakes]
    refine .after_compute rfl (.allocate _ _) ?_
    have hgrown := hbefore.trans (.allocate machine.memory (.list values))
    refine .bind ((hfirst before _ _ _ _ hgrown).mono fun hstalls ↦
      absurd hstalls (Tree.not_stalls_rest htakes)) fun bindings memory hextends ↦ ?_
    have hlater : before.Extends memory := hgrown.trans hextends
    refine (hrest before _ _ _ _ _ hlater).mono fun hstalls ↦ ?_
    unfold Tree.StallAll at hstalls ⊢
    rwa [hpaired]
  · rw [if_neg htakes]
    have hpaired : Tree.paired (.node tag children :: others) values =
        (.node tag children, values.headD .nil) :: Tree.paired others values.tail := by
      rw [Tree.paired, if_neg htakes]
    refine .bind ((hfirst before _ _ _ _ hbefore).mono fun hstalls ↦ ?_) fun bindings memory hextends ↦ ?_
    · exact ⟨_, hpaired ▸ List.mem_cons_self, hstalls⟩
    · refine (hrest before _ _ _ _ _ (hbefore.trans hextends)).mono fun hstalls ↦ ?_
      obtain ⟨pair, hpair, hstalls⟩ := hstalls
      exact ⟨pair, hpaired ▸ List.mem_cons_of_mem _ hpair, hstalls⟩

/-- What a value is taken apart for is bound to its items. -/
theorem bindsAt_toSequence {parameter : Tree} {parameters : List Tree} (mark : Mark)
    (htakes : parameter.takesApart? = some parameters) (hall : BindAll parameters names)
    {before : Memory} (hbefore : before.Extends machine.memory) (item : Value) :
    BindsAt names (parameter.Stalls before item) table machine
      ((compute item.toSequence >>= fun items ↦ bindParameters mark 0 parameters items table)
        machine) := by
  rcases item.toSequence_cases hbefore with ⟨items, changed, hrun, hextends, hlists⟩ |
    ⟨changed, hrun, hextends, hendless⟩
  · refine .after_compute hrun hextends ?_
    refine (hall before mark 0 items table _ (hbefore.trans hextends)).mono ?_
    rintro ⟨⟨part, value⟩, hpart, hstalls⟩
    exact .within htakes (hbefore.trans hextends) (hlists changed (.refl changed)) hpart hstalls
  · rw [bind_apply, compute_apply, hrun]
    exact .stalled hextends (.endless htakes hendless)

end Run

namespace Parameter

open Run

mutual

/-- A pattern binds its names. -/
theorem binds (parameter : Parameter) : Binds parameter.asParameter parameter.names := by
  intro before mark item table machine hbefore
  match parameter with
  | single name =>
    rw [asParameter, bindParameter]
    exact .insert name _ item
  | rest none =>
    rw [asParameter, bindParameter]
    exact .none
  | rest (some name) =>
    rw [asParameter, bindParameter]
    exact .insert name _ item
  | nested parameters =>
    rw [asParameter, bindParameter.eq_def]
    exact bindsAt_toSequence mark rfl (bindAll parameters) hbefore item

theorem bindAll (parameters : List Parameter) :
    BindAll (asParameters parameters) (allNames parameters) := by
  match parameters with
  | [] =>
    rw [asParameters]
    exact bindAll_nil
  | parameter :: others =>
    have hfirst := binds parameter
    have hrest := bindAll others
    rw [asParameters, allNames]
    match parameter with
    | single _ | rest none | rest (some _) | nested _ =>
      rw [asParameter] at hfirst ⊢
      exact bindAll_cons hfirst hrest

end

end Parameter

namespace BlockParameter

open Run

theorem exists_asTree_eq_node (parameter : BlockParameter) :
    ∃ tag children, parameter.asTree = .node tag children := by
  have hnode := parameter.isNode_asTree
  cases htree : parameter.asTree with
  | leaf scalar =>
    rw [htree] at hnode
    cases hnode
  | node tag children => exact ⟨tag, children, rfl⟩

/-- Parameters that are the only one together are bound to a value, or, if they are several, to what it
is taken apart into. -/
theorem bindParameter_grouped (first : BlockParameter) (others : List BlockParameter) (mark : Mark)
    (item : Value) (table : Table) :
    bindParameter mark (grouped first others).asTree item table =
      if others.isEmpty then bindParameters mark 0 [first.asTree] [item] table
      else compute item.toSequence >>= fun items ↦
        bindParameters mark 0 (first.asTree :: asTrees others) items table := by
  rw [asTree, bindParameter.eq_def]
  refine (if_pos first.isNode_asTree).trans ?_
  cases others with
  | nil =>
    rw [asTrees]
    rfl
  | cons second more =>
    rw [asTrees]
    rfl

mutual

/-- A parameter binds its names. -/
theorem binds (parameter : BlockParameter) : Binds parameter.asTree parameter.names := by
  intro before mark item table machine hbefore
  match parameter with
  | pattern parameter =>
    rw [asTree, names]
    exact parameter.binds before mark item table machine hbefore
  | sole name =>
    rw [asTree, names, bindParameter]
    exact .insert name _ item
  | grouped first others =>
    have hall := bindAll (first :: others)
    rw [asTrees, allNames] at hall
    rw [bindParameter_grouped, names]
    match others with
    | [] =>
      rw [asTrees] at hall
      refine (hall before mark 0 [item] table machine hbefore).mono ?_
      rintro ⟨⟨part, value⟩, hpart, hstalls⟩
      rw [asTree, asTrees]
      exact .sole hpart hstalls
    | second :: more =>
      refine bindsAt_toSequence mark ?_ hall hbefore item
      obtain ⟨tag, children, hfirst⟩ := first.exists_asTree_eq_node
      rw [asTree, asTrees, hfirst, Tree.takesApart?]

theorem bindAll (parameters : List BlockParameter) :
    BindAll (asTrees parameters) (allNames parameters) := by
  match parameters with
  | [] =>
    rw [asTrees]
    exact bindAll_nil
  | parameter :: others =>
    have hfirst := binds parameter
    obtain ⟨tag, children, htree⟩ := parameter.exists_asTree_eq_node
    rw [asTrees, allNames]
    rw [htree] at hfirst ⊢
    exact bindAll_cons hfirst (bindAll others)

end

end BlockParameter

/-! ### While a call lasts -/

/-- A machine in the middle of what goes on from another one, perhaps inside further local frames. None
of it reaches for anything of the interpreter itself: a frame that is reached can lose its names. -/
inductive Machine.Amid (library : Library) (start : Machine) : Machine → Prop where
  | start : Amid library start start
  | evolved {before after : Machine} {outcome : Outcome Unit} (hamid : Amid library start before)
      (hevolves : Evolves library before outcome after) (hunreached : before.Unreached after) :
      Amid library start after
  | entered {machine : Machine} (hamid : Amid library start machine) (bindings : Table)
      (base : Option Chain)
      (captured : ∀ chain, base = some chain → ∃ index parameters body,
        machine.memory.closure? index = some (.block parameters body chain)) :
      Amid library start (machine.enter .locals bindings base).2

/-- A table has a key exactly if it binds a name with that key. -/
theorem Table.has_iff_binders {table : Table} {key : Key} :
    table.has key = true ↔ ∃ name, (key, name) ∈ table.binders := by
  induction table with
  | nil => simp [has, find?, binders]
  | cons entry rest ih =>
    have hcons : Table.binders (entry :: rest) = (entry.key, entry.name) :: Table.binders rest := rfl
    by_cases hkey : entry.key = key
    · simp [has, find?, hcons, hkey]
    · rw [has, find?, if_neg hkey, ← has, ih, hcons]
      simp [Ne.symm hkey]

namespace Machine.Amid

variable {library : Library} {start machine : Machine} {number : Nat}

/-- The frames at the start are there later with all their names. -/
theorem keeps (hamid : start.Amid library machine) (hnumber : number < start.frames.size) :
    number < machine.frames.size ∧ ∀ key, (start.frames.frame number).has key = true →
      (machine.frames.frame number).has key = true := by
  induction hamid with
  | start => exact ⟨hnumber, fun _ hhas ↦ hhas⟩
  | evolved hamid hevolves hunreached ih =>
    have hgrows := hevolves.grows hunreached
    obtain ⟨added, hadded, -⟩ := hgrows.names number ih.1
    refine ⟨Nat.lt_of_lt_of_le ih.1 hgrows.size, fun key hhas ↦ ?_⟩
    obtain ⟨name, hname⟩ := Table.has_iff_binders.mp (ih.2 key hhas)
    exact Table.has_iff_binders.mpr ⟨name, hadded ▸ List.mem_append_left added hname⟩
  | entered hamid bindings base captured ih =>
    rw [Machine.frames_enter, Frames.frame_push ih.1, Array.size_push]
    exact ⟨Nat.lt_succ_of_lt ih.1, ih.2⟩

end Machine.Amid

/-- What a frame on the chain has is found. -/
theorem Frames.exists_find?_of_has {frames : Frames} {key : Key} {chain : Chain} {number : Nat}
    (hnumber : number ∈ chain) (hhas : (frames.frame number).has key = true) :
    ∃ item, frames.find? key chain = some item := by
  induction chain with
  | nil => cases hnumber
  | cons first rest ih =>
    rw [find?]
    cases hfound : (frames.frame first).find? key with
    | some item => exact ⟨item, rfl⟩
    | none =>
      rcases List.mem_cons.mp hnumber with rfl | hrest
      · rw [Table.has, hfound] at hhas
        cases hhas
      · exact ih hrest

/-- A frame that has a name is there. -/
theorem Frames.lt_size_of_has {frames : Frames} {number : Nat} {key : Key}
    (hhas : (frames.frame number).has key = true) : number < frames.size := by
  by_contra hsize
  unfold frame at hhas
  rw [Array.getD_eq_getD_getElem?, Array.getElem?_eq_none (Nat.le_of_not_lt hsize)] at hhas
  cases hhas

/-- Where a frame is on the local chain, in the middle of what goes on from a machine on which it has a
name, that name can be read. -/
theorem Machine.Amid.exists_reads {library : Library} {start machine : Machine} {number : Nat}
    {name : String} (hamid : start.Amid library machine) (hnumber : number < start.frames.size)
    (hhas : (start.frames.frame number).has [.text name] = true)
    (hchain : number ∈ machine.evaluator.locals) : ∃ item, Eval.Reads library machine name item := by
  obtain ⟨item, hfound⟩ := Frames.exists_find?_of_has hchain ((hamid.keeps hnumber).2 _ hhas)
  exact ⟨item, Eval.reads_of_find? library hfound⟩

/-! ### Calls -/

/-- A block with parameters lists names that flatten to theirs, and its label shows these names if each
of them is a word. Called with any arguments it evaluates its body in a new frame with just these
names, which can be read wherever that frame is on the local chain as long as the call lasts and
nothing of the interpreter itself is reached for; or the call meets a progression that cannot be taken
apart, and fails before it has made a frame. -/
theorem parameter_views_agree (library : Library) (parameters : List BlockParameter) (mark : Mark)
    (body : Site) (chain : Chain) (index : Nat) {machine : Machine}
    (hclosure : machine.memory.closure? index = some (.block
      ⟨.node "args" (BlockParameter.asTrees parameters), mark⟩ body chain)) :
    let names := BlockParameter.allNames parameters
    (∃ least, ∀ depth, least ≤ depth → ∃ list after,
      Run.parameterNames (Eval.engine library depth) index machine = (.value (some list), after) ∧
        list.Flattens after.memory.heap names) ∧
    ((∀ name ∈ names, Label.IsName name) → ∃ label,
      (machine.memory.view (.closure index)).inspect = .ok label ∧ Label.names label = names) ∧
    ∀ depth arguments,
      let called := (Eval.engine library (depth + 1)).call (.closure index) arguments none machine
      (∃ inside : Machine,
        called.1 = ((Eval.engine library depth).evaluate body inside).1 ∧
        inside.evaluator.locals = machine.frames.size :: chain ∧
        (∀ key, (inside.frames.frame machine.frames.size).has key = true ↔
          ∃ name ∈ names, key = [.text name]) ∧
        ∀ later, inside.Amid library later → machine.frames.size ∈ later.evaluator.locals →
          ∀ name ∈ names, ∃ item, Eval.Reads library later name item) ∨
      called.1 = .failed .tooMany ∧ called.2.frames = machine.frames ∧
        Tree.StallAll machine.memory (BlockParameter.asTrees parameters) arguments := by
  intro names
  refine ⟨?_, fun hnames ↦ ?_, fun depth arguments ↦ ?_⟩
  · obtain ⟨least, hleast⟩ := Eval.run_parameterNames library parameters
    exact ⟨least, fun depth hdepth ↦ hleast depth hdepth mark body chain index machine hclosure⟩
  · obtain ⟨label, hlabel, hread⟩ := BlockParameter.names_label "args" parameters hnames
    refine ⟨label, ?_, hread⟩
    rw [← hlabel]
    simp only [Memory.view, Value.toDatum, Memory.closureDatum, hclosure, Datum.inspect,
      Datum.literal]
  · intro called
    let site : Site := ⟨.node "args" (BlockParameter.asTrees parameters), mark⟩
    have hbinds : Run.BindsAt names _ [] machine (Eval.bindArguments site arguments machine) :=
      BlockParameter.bindAll parameters machine.memory mark 0 arguments [] machine (.refl _)
    have hcalled : called = _ := Eval.call_block arguments hclosure
    rw [hcalled]
    clear_value called
    generalize hbound : Eval.bindArguments site arguments machine = result at hbinds
    cases hbinds with
    | bound hextends hbinds =>
      obtain ⟨inside, hcall, hchain, hframe, -⟩ := Eval.callBlock_of_bound hbound
      have hnames (key : Key) : (inside.frames.frame machine.frames.size).has key = true ↔
          ∃ name ∈ names, key = [.text name] := by
        rw [hframe, hbinds key]
        exact or_iff_right Bool.false_ne_true
      refine Or.inl ⟨inside, hcall, hchain, hnames, fun later hamid hlater name hname ↦ ?_⟩
      have hhas := (hnames [.text name]).mpr ⟨name, hname, rfl⟩
      exact hamid.exists_reads (Frames.lt_size_of_has hhas) hhas hlater
    | stalled hextends hstalls =>
      rw [Eval.callBlock, Run.bind_of_failed hbound]
      exact Or.inr ⟨rfl, rfl, hstalls⟩

/-- A block with a nested parameter is called without arguments: the rest in there can be read all the
same. -/
theorem rest_read_without_arguments :
    let parameters : List BlockParameter :=
      [.pattern (.single "a"), .pattern (.nested [.single "b", .rest (some "c")])]
    let block : Closure :=
      .block ⟨.node "args" (BlockParameter.asTrees parameters), .common⟩ .absent []
    let machine : Machine := { memory := { closures := #[block] } }
    ∃ inside : Machine, inside.evaluator.locals = [machine.frames.size] ∧
      (∀ key, (inside.frames.frame machine.frames.size).has key = true ↔
        ∃ name ∈ ["a", "b", "c"], key = [.text name]) ∧
      ∃ item, Eval.Reads {} inside "c" item := by
  intro parameters block machine
  have hdone : ((Eval.engine {} 2).call (.closure 0) [] none machine).1.isValue = true := by
    decide +kernel
  have hclosure : machine.memory.closure? 0 = some block := rfl
  obtain ⟨-, -, hcalls⟩ := parameter_views_agree {} parameters .common .absent [] 0 hclosure
  rcases hcalls 1 [] with ⟨inside, -, hchain, hnames, hreads⟩ | ⟨hfailed, -⟩
  · have hmem : machine.frames.size ∈ inside.evaluator.locals := hchain ▸ List.mem_cons_self
    exact ⟨inside, hchain, hnames, hreads inside .start hmem "c" (by decide)⟩
  · rw [hfailed] at hdone
    cases hdone

/-- A block that reads its nested parameter is called with a progression of too many integers: the call
fails. So does that of a block which, before it reads its parameter, reaches for the frame that it is
called in and takes the name out of it. -/
theorem declared_parameter_unread :
    let start : Machine := { memory := { heap := #[Host.kernelCell] } }
    let read : Tree := .node "lvar" [.leaf (.text "a")]
    let failure? (parameter : Parameter) (body : Tree) (last : Int) : Option Kind :=
      let parameters := .node "args" (BlockParameter.asTrees [.pattern parameter])
      let block : Tree := .node "block" [Tree.sent (.leaf .null) "proc" [], parameters, body]
      let call := Tree.sent block "call" [.node "lvar" [.leaf (.text "r")]]
      let locals := Table.ofNames [("r", .progression 0 last 1 .common)]
      (Session.run Host.kernelLibrary { context := .cell 0, locals := locals } ⟨call, .common⟩
        start).1.failure?.map fun failure ↦ failure.cause.kind
    let frame := Tree.sent (Tree.sent Tree.idleBlock "frames" []) "[]" [.node "int" [.leaf (.int 1)]]
    let popped : Tree :=
      .node "begin" [Tree.sent frame "pop" [.node "str" [.leaf (.text "a")]], read]
    failure? (.nested [.single "a"]) read 2 = none ∧
      failure? (.nested [.single "a"]) read (Int.pow 2 63) = some .overflow ∧
      failure? (.single "a") popped 2 = some .undefinedVariable := by
  decide +kernel

end Treewalk
