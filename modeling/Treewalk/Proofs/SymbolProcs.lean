import Treewalk.Proofs.Parameters
import Treewalk.Proofs.Spreading

/-!
Procs of symbols. The proc of a symbol sends the name of the symbol to its first argument, with the
other arguments. A block can say the same: it takes one argument and a list of the others, and sends the
name to the first one with the others spread. On the way to its one dispatch the block makes a list and
enters a frame, and reads both parameters (`Eval.call_forwarding`); from there on the two are compared
under the numbering that leaves out that list and that frame. The local variables differ meanwhile, and
so this is about host code that is blind to them.
-/

set_option autoImplicit false
set_option relaxedAutoImplicit false

namespace Treewalk

/-! ### Blocks that forward their arguments -/

/-- The parameters of a block that takes one argument and a list of the others. -/
def Tree.forwardedParameters (first others : String) : Tree :=
  .node "args" [.node "arg" [.leaf (.text first)], .node "restarg" [.leaf (.text others)]]

/-- A local variable. -/
def Tree.variable (name : String) : Tree := .node "lvar" [.leaf (.text name)]

/-- The body of a block that sends a name to one variable, with the items of another one as arguments. -/
def Tree.forwarding (first others name : String) : Tree :=
  .node "send" [.variable first, .leaf (.text name), .node "splat" [.variable others]]

/-- The variables of a forwarding block. -/
def Table.forwarded (first others : Site) (receiver list : Value) : Table :=
  insert others.key others.toValue list (insert first.key first.toValue receiver [])

/-- The machine on which a forwarding body has been evaluated up to its dispatch. -/
def Machine.forwarded (first others name : String) (machine : Machine) : Machine :=
  Eval.begun (.variable others) (Eval.begun (.node "splat" [.variable others])
    (Eval.begun (.variable first) (Eval.begun (.forwarding first others name) machine)))

namespace Eval

open Run

section

variable {library : Library} {machine : Machine} {first others name : String} {receiver : Value}
  {rest : List Value}

/-- A forwarding body comes to its dispatch. -/
theorem evaluate_forwarding {address : Nat}
    (hfirst : machine.frames.find? [.text first] machine.evaluator.locals = some receiver)
    (hothers : machine.frames.find? [.text others] machine.evaluator.locals = some (.cell address))
    (hlist : machine.memory.cell? (.cell address) = some (.list rest)) (depth : Nat) (mark : Mark) :
    (engine library (depth + 3)).evaluate ⟨.forwarding first others name, mark⟩ machine =
      dispatch library (engine library (depth + 2)) receiver (.leaf (.text name)) rest none
        (.forwarding first others name) (.variable first) (machine.forwarded first others name) := by
  let body : Tree := .forwarding first others name
  let spread : Site := ⟨.node "splat" [.variable others], mark.child 2⟩
  let started := begun (.variable first) (begun body machine)
  let ready := machine.forwarded first others name
  have hbody : (engine library (depth + 3)).evaluate ⟨body, mark⟩ machine =
      ((engine library (depth + 2)).evaluate ⟨.variable first, mark.child 0⟩ >>= fun receiver ↦
        evaluateList (engine library (depth + 2)) [spread] >>= fun arguments ↦
          dispatch library (engine library (depth + 2)) receiver (.leaf (.text name)) arguments none
            body (.variable first)) (begun body machine) := rfl
  have hreceiver : (engine library (depth + 2)).evaluate ⟨.variable first, mark.child 0⟩
      (begun body machine) = (.value receiver, started) :=
    have hfound : (begun body machine).frames.find? [.text first] (begun body machine).evaluator.locals =
        some receiver := hfirst
    evaluate_variable library hfound (depth + 1) (mark.child 0)
  have hvariable : (engine library (depth + 1)).evaluate ⟨.variable others, (mark.child 2).child 0⟩
      (begun spread.tree started) = (.value (.cell address), ready) :=
    have hfound : (begun spread.tree started).frames.find? [.text others]
        (begun spread.tree started).evaluator.locals = some (.cell address) := hothers
    evaluate_variable library hfound depth ((mark.child 2).child 0)
  have hspread : (engine library (depth + 2)).evaluate spread started =
      (.value (.cell address), ready) :=
    hvariable
  have hready : ready.memory.cell? (.cell address) = some (.list rest) := hlist
  have hitems : compute (Value.cell address).spread ready = (.value rest, ready) := by
    rw [compute_apply, Value.run_spread_of_list hready]
  have harguments : evaluateList (engine library (depth + 2)) [spread] started =
      (.value rest, ready) := by
    have hlast := bind_of_value hitems fun items ↦ value (items ++ [])
    rw [List.append_nil] at hlast
    exact (bind_of_value hspread _).trans hlast
  exact hbody.trans ((bind_of_value hreceiver _).trans (bind_of_value harguments _))

/-- The machine inside of a forwarding block, right before the dispatch. -/
def inForwarding (first others name : String) (mark : Mark) (chain : Chain) (receiver : Value)
    (rest : List Value) (machine : Machine) : Machine :=
  Machine.forwarded first others name ((machine.withList rest).enter .locals
    (.forwarded ⟨.leaf (.text first), (mark.child 0).child 0⟩
      ⟨.leaf (.text others), (mark.child 1).child 0⟩ receiver (.cell machine.memory.heap.size))
    (some chain)).2

/-- A forwarding block makes a list of its arguments but the first one and dispatches in a frame of its
own. -/
theorem call_forwarding {index : Nat} {mark mark' : Mark} {chain : Chain}
    (hblock : machine.memory.closure? index = some (.block ⟨.forwardedParameters first others, mark⟩
      ⟨.forwarding first others name, mark'⟩ chain))
    (hnames : first ≠ others) (depth : Nat) :
    (engine library (depth + 4)).call (.closure index) (receiver :: rest) none machine =
      let ended := dispatch library (engine library (depth + 2)) receiver (.leaf (.text name)) rest
        none (.forwarding first others name) (.variable first)
        (inForwarding first others name mark chain receiver rest machine)
      (ended.1, ended.2.leave .locals ⟨machine.frames.size, some machine.evaluator.locals⟩) := by
  let table : Table := .forwarded ⟨.leaf (.text first), (mark.child 0).child 0⟩
    ⟨.leaf (.text others), (mark.child 1).child 0⟩ receiver (.cell machine.memory.heap.size)
  have hbound : bindArguments ⟨.forwardedParameters first others, mark⟩ (receiver :: rest) machine =
      (.value table, machine.withList rest) := rfl
  have hother : table.find? [.text others] = some (.cell machine.memory.heap.size) := by
    change (Table.insert _ _ _ _).find? _ = _
    rw [Table.find?_insert]
    exact if_pos rfl
  have hfirst : table.find? [.text first] = some receiver := by
    change (Table.insert _ _ _ _).find? _ = _
    rw [Table.find?_insert, if_neg (by simpa [Site.key, Tree.key, Scalar.key] using hnames.symm)]
    exact if_pos rfl
  -- The bindings are those of the innermost frame.
  have hfound {name : String} {item : Value} (hitem : table.find? [.text name] = some item) :
      ((machine.withList rest).enter .locals table (some chain)).2.frames.find? [.text name]
        ((machine.withList rest).enter .locals table (some chain)).2.evaluator.locals =
          some item := by
    change Frames.find? (machine.frames.push table) _ (machine.frames.size :: chain) = _
    rw [Frames.find?, Frames.frame_push_self, hitem]
  rw [call_block _ hblock, callBlock, bind_of_value hbound, inFrame_apply,
    evaluate_forwarding (hfound hfirst) (hfound hother) Array.getElem?_push_size]
  rfl

end

/-- The proc of a symbol dispatches at once. -/
theorem call_symbolProc {library : Library} {machine : Machine} {index : Nat} {name : String}
    {node : Tree} (hproc : machine.memory.closure? index = some (.symbolProc name node))
    (receiver : Value) (rest : List Value) (depth : Nat) :
    (engine library (depth + 1)).call (.closure index) (receiver :: rest) none machine =
      dispatch library (engine library depth) receiver (.leaf (.text name)) rest none node
        (.leaf .null) machine := by
  change callValue library (engine library depth) (.closure index) (receiver :: rest) none machine = _
  unfold callValue
  dsimp only
  rw [look_bind_apply, hproc]

end Eval

/-! ### One frame more -/

/-- The numbering that leaves out a cell and a frame. -/
def Numbering.skipBoth (cell frame : Nat) : Numbering where
  cell := skip cell
  frame := skip frame
  cell_strictMono := skip_strictMono cell
  frame_injective := (skip_strictMono frame).injective

theorem Numbering.keeps_skipBoth (machine : Machine) :
    (skipBoth machine.memory.heap.size machine.frames.size).Keeps machine :=
  ⟨fun _ haddress ↦ skip_of_lt haddress, fun _ hnumber ↦ skip_of_lt hnumber⟩

/-- Values that lead to nothing but what a machine has. -/
def Machine.Has (machine : Machine) (values : List Value) : Prop :=
  ∀ numbering : Numbering, numbering.Keeps machine → rename numbering values = values

namespace Comparison

section

variable {start left right : Machine} {blind inScope : Bool} {seen : Tree → Tree} {early late : Prop}
  {numbering : Numbering} {limit : Nat}

/-- The number that a frame takes up is left out on the side that does not enter it. Inside of the frame
local variables are out of scope. -/
theorem Twins.enter_right
    (htwins : (ofStart start blind seen early late numbering limit left.frames.size).Twins inScope left
      right)
    (hskips : numbering.frame = Numbering.skip left.frames.size)
    (hsize : right.frames.size = left.frames.size) (bindings : Table) (base : Option Chain)
    (frameLimit : Nat) :
    (ofStart start blind seen early late numbering limit frameLimit).Twins false left
      (right.enter .locals bindings base).2 := by
  have hframes (number : Nat) : Frames.frame (right.frames.push bindings) (numbering.frame number) =
      rename numbering (left.frames.frame number) := by
    have hframe : right.frames.frame (numbering.frame number) =
        rename numbering (left.frames.frame number) :=
      htwins.frames number
    rw [Frames.frame_pushed, if_neg, hframe]
    rw [hskips, Numbering.skip]
    split <;> omega
  have hpushed : (ofStart start blind seen early late numbering limit frameLimit).Twins false left
      { right with
        frames := right.frames.push bindings
        evaluator := right.evaluator.withChain .locals (right.innerChain .locals base) } :=
    { htwins with
      frames := hframes
      bounds := fun number ↦ by
        change numbering.frame number < _ ↔ _
        rw [hskips, Numbering.skip, Array.size_push]
        split <;> omega
      newFrames := fun count _ ↦ by
        change numbering.frame (left.frames.size + count) = _
        rw [hskips, Numbering.skip_of_le (Nat.le_add_right _ _), Array.size_push]
        omega
      locals := nofun }
  cases base with
  | none => exact hpushed.passed_right rfl
  | some chain => exact hpushed.passed_right rfl

end

variable {comparison : Comparison} {inScope : Bool} {left right : Machine}

/-- The evaluation of a tree may have begun on one side only. -/
theorem Twins.begun_right (htwins : comparison.Twins inScope left right) (tree : Tree) :
    comparison.Twins inScope left (Eval.begun tree right) :=
  (htwins.passed_right rfl).moved_right tree

/-- When the frame is left again, local variables are back in scope. -/
theorem Meets.leave_right {α : Type} [Renamable α] {first second : Outcome α × Machine}
    (hmeets : comparison.Meets false first second) (number : Nat) {chain : Chain}
    (hchain : chain = first.2.evaluator.locals.map comparison.numbering.frame) :
    comparison.Meets true first (second.1, second.2.leave .locals ⟨number, some chain⟩) := by
  cases hmeets with
  | twins ends twins => exact .twins ends { twins with locals := fun _ ↦ hchain }
  | gone gone policy => exact .gone gone policy
  | early early exhausted => exact .early early exhausted
  | late late exhausted => exact .late late exhausted

/-- Where every block whose parameters were evaluated has proper ones, there is no way out but to have too
many cells or frames. -/
theorem not_gone_of_proper {machine : Machine}
    (hproper : ∀ closure ∈ machine.memory.closures.toList,
      closure.IsListed comparison.left machine → closure.isProper = true)
    (hcells : machine.memory.heap.size ≤ comparison.limit)
    (hframes : machine.frames.size ≤ comparison.frameLimit) : ¬ comparison.Gone machine := by
  intro hgone
  cases hgone with
  | cells exceeds => omega
  | frames exceeds => omega
  | parameters blind found improper listed =>
    rw [hproper _ found listed] at improper
    cases improper

end Comparison

namespace Eval

open Run

section

variable {library : Library} {start : Machine} {seen : Tree → Tree} {early late : Prop}
  {depth depth' : Nat} {first others name : String} {receiver : Value} {rest : List Value}
  (hstart : start.Indifferent library true seen)

include hstart

/-- Inside of a forwarding block everything is as it was outside, except for one list and one frame. -/
theorem twins_inForwarding (mark : Mark) (chain : Chain) (limit frameLimit : Nat) :
    (Comparison.ofStart start true seen early late
      (.skipBoth start.memory.heap.size start.frames.size) limit frameLimit).Twins false start
      (inForwarding first others name mark chain receiver rest start) := by
  have htwins : (Comparison.ofStart start true seen early late
      (.skipBoth start.memory.heap.size start.frames.size) start.memory.heap.size
      start.frames.size).Twins true start start :=
    hstart.closed.twins (Numbering.keeps_skipBoth start)
      (fun _ hle hless ↦ absurd hless (Nat.not_lt.mpr hle)) fun _ hle hless ↦
        absurd hless (Nat.not_lt.mpr hle)
  have hentered := (htwins.withList rfl rfl rest limit).enter_right rfl rfl
    (.forwarded ⟨.leaf (.text first), (mark.child 0).child 0⟩
      ⟨.leaf (.text others), (mark.child 1).child 0⟩ receiver (.cell start.memory.heap.size))
    (some chain) frameLimit
  exact (((hentered.begun_right _).begun_right _).begun_right _).begun_right _

/-- The dispatch of a proc and that of a forwarding block come to the same. -/
theorem sameFrom_dispatch (hearly : early ∨ depth' ≤ depth) (hlate : late ∨ depth ≤ depth')
    {node : Tree} (hnode : seen (.forwarding first others name) = seen node) (mark : Mark)
    (chain : Chain) (hvalues : start.Has (receiver :: rest)) :
    let proc := dispatch library (engine library depth) receiver (.leaf (.text name)) rest none node
      (.leaf .null) start
    let block := dispatch library (engine library depth') receiver (.leaf (.text name)) rest none
      (.forwarding first others name) (.variable first)
      (inForwarding first others name mark chain receiver rest start)
    (∀ closure ∈ proc.2.memory.closures.toList,
      closure.IsListed start proc.2 → closure.isProper = true) →
      (early → proc.1 ≠ .exhausted) → (late → block.1 ≠ .exhausted) →
        start.SameFrom true seen proc
          (block.1, block.2.leave .locals ⟨start.frames.size, some start.evaluator.locals⟩) := by
  intro proc block hproper hended hended'
  have hkeeps := Numbering.keeps_skipBoth start
  obtain ⟨hreceiver, hrest⟩ := List.cons.inj (hvalues _ hkeeps)
  let comparison : Comparison := .ofStart start true seen early late
    (.skipBoth start.memory.heap.size start.frames.size) proc.2.memory.heap.size proc.2.frames.size
  have hground : AlikeGround comparison library (engine library depth) (engine library depth') :=
    hstart.ground hkeeps hearly hlate
  have halike : Run.AlikeFor comparison false
      (dispatch library (engine library depth) receiver (.leaf (.text name)) rest none node
        (.leaf .null))
      (dispatch library (engine library depth') (rename comparison.numbering receiver)
        (.leaf (.text name)) (rename comparison.numbering rest) none (.forwarding first others name)
        (.variable first)) :=
    alike_dispatch hground (Or.inr rfl) receiver (.leaf (.text name)) rest none hnode _ _
  have hmeets : comparison.Meets false proc block := by
    have hended := halike.meets start (inForwarding first others name mark chain receiver rest start)
      (twins_inForwarding hstart mark chain _ _)
    rwa [show rename comparison.numbering receiver = receiver from hreceiver,
      show rename comparison.numbering rest = rest from hrest] at hended
  -- A dispatch leaves the local variables where they were.
  have hlocals : proc.2.evaluator.locals = start.evaluator.locals :=
    (evolving_dispatch (evolving_engine library depth) receiver (.leaf (.text name)) rest none node
      (.leaf .null) start).continues.chains .locals
  have hcaller : start.evaluator.locals =
      proc.2.evaluator.locals.map comparison.numbering.frame := by
    rw [hlocals]
    exact (hstart.closed _ hkeeps).locals.symm
  obtain ⟨hends, htwins⟩ := (hmeets.leave_right start.frames.size hcaller).resolve
    (Comparison.not_gone_of_proper hproper (Nat.le_refl _) (Nat.le_refl _)) hended hended'
  exact ⟨comparison, rfl, rfl, rfl, hkeeps, hends, htwins⟩

end

end Eval

end Treewalk
