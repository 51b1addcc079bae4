import Treewalk.Proofs.ParameterLabels
import Treewalk.Proofs.Sequences
import Treewalk.Proofs.TableNames

/-!
The names that a block says it has. A parameter list is evaluated to a list of names, in which what is
nested is a list of its own and a rest without a name is nil. Flattened (`Value.Flattens`), this list
names the parameters in order (`BlockParameter.run_parameterNames`).
-/

set_option autoImplicit false
set_option relaxedAutoImplicit false

namespace Treewalk

/-! ### Flattened lists of names -/

namespace Value

mutual

/-- The names that a value flattens to: none for nil, one for a text, and for a list those that its
items flatten to. -/
inductive Flattens (heap : Array Cell) : Value → List String → Prop where
  | absent : Flattens heap .nil []
  | name (name : String) (mark : Mark) : Flattens heap (.text name mark) [name]
  | list {value : Value} {items : List Value} {names : List String}
      (hlist : value.list? heap = some items) (hitems : FlattenAll heap items names) :
      Flattens heap value names

/-- The names that values flatten to one after another. -/
inductive FlattenAll (heap : Array Cell) : List Value → List String → Prop where
  | nil : FlattenAll heap [] []
  | cons {item : Value} {rest : List Value} {front back : List String}
      (hfirst : Flattens heap item front) (hrest : FlattenAll heap rest back) :
      FlattenAll heap (item :: rest) (front ++ back)

end

variable {before after : Memory}

/-- A list that is there stays what it is when memory grows. -/
theorem list?_of_extends (hextends : before.Extends after) {value : Value} {items : List Value}
    (hlist : value.list? before.heap = some items) : value.list? after.heap = some items := by
  obtain ⟨address, rfl, hcell⟩ := exists_cell_of_list? hlist
  have hsame : after.cell? (.cell address) = some (.list items) := hextends.cell? hcell
  unfold Memory.cell? at hsame
  unfold list?
  dsimp only at hsame ⊢
  rw [hsame]

mutual

theorem Flattens.mono (hextends : before.Extends after) {value : Value} {names : List String}
    (hflattens : value.Flattens before.heap names) : value.Flattens after.heap names := by
  match hflattens with
  | .absent => exact .absent
  | .name name mark => exact .name name mark
  | .list hlist hitems => exact .list (list?_of_extends hextends hlist) (hitems.mono hextends)

theorem FlattenAll.mono (hextends : before.Extends after) {values : List Value}
    {names : List String} (hflatten : FlattenAll before.heap values names) :
    FlattenAll after.heap values names := by
  match hflatten with
  | .nil => exact .nil
  | .cons hfirst hrest => exact .cons (hfirst.mono hextends) (hrest.mono hextends)

end

/-- A text as a value is a name. -/
theorem flattens_toValue (heap : Array Cell) (name : String) (mark : Mark) :
    Flattens heap (Site.toValue ⟨.leaf (.text name), mark⟩) [name] := by
  change Flattens heap (markedText name mark) [name]
  unfold markedText
  split <;> exact .name name _

/-- One value flattens to what it does alone. -/
theorem FlattenAll.single {heap : Array Cell} {value : Value} {names : List String}
    (hflatten : FlattenAll heap [value] names) : value.Flattens heap names := by
  cases hflatten with
  | cons hfirst hrest =>
    cases hrest with
    | nil => rwa [List.append_nil]

end Value

/-! ### Names of patterns -/

namespace Run

/-- A run that only adds to memory and ends with a value that flattens to names. -/
def Names (run : Run Value) (names : List String) : Prop :=
  ∀ machine, ∃ value after, run machine = (.value value, after) ∧
    machine.memory.Extends after.memory ∧ value.Flattens after.memory.heap names

/-- A run that only adds to memory and ends with values that flatten to names. -/
def NamesAll (run : Run (List Value)) (names : List String) : Prop :=
  ∀ machine, ∃ values after, run machine = (.value values, after) ∧
    machine.memory.Extends after.memory ∧ Value.FlattenAll after.memory.heap values names

variable {names front back : List String}

theorem names_absent : (value Value.nil).Names [] :=
  fun machine ↦ ⟨.nil, machine, rfl, .refl _, .absent⟩

theorem names_toValue (name : String) (mark : Mark) :
    (value (Site.toValue ⟨.leaf (.text name), mark⟩)).Names [name] :=
  fun machine ↦ ⟨_, machine, rfl, .refl _, Value.flattens_toValue _ name mark⟩

theorem namesAll_nil : (value ([] : List Value)).NamesAll [] :=
  fun machine ↦ ⟨[], machine, rfl, .refl _, .nil⟩

/-- Names one after another. -/
theorem namesAll_cons {first : Run Value} {rest : Run (List Value)} (hfirst : first.Names front)
    (hrest : rest.NamesAll back) :
    (first >>= fun item ↦ rest >>= fun others ↦ value (item :: others)).NamesAll (front ++ back) := by
  intro machine
  obtain ⟨item, between, hitem, hgrown, hnames⟩ := hfirst machine
  obtain ⟨others, after, hothers, hmore, hall⟩ := hrest between
  refine ⟨item :: others, after, ?_, hgrown.trans hmore, .cons (hnames.mono hmore) hall⟩
  rw [bind_of_value hitem, bind_of_value hothers]
  rfl

/-- A new list of values flattens to what they do. -/
theorem names_newList {run : Run (List Value)} (hrun : run.NamesAll names) :
    (run >>= newList).Names names := by
  intro machine
  obtain ⟨values, after, hvalues, hgrown, hnames⟩ := hrun machine
  refine ⟨(after.memory.allocate (.list values)).1,
    { after with memory := (after.memory.allocate (.list values)).2 }, ?_, ?_, ?_⟩
  · rw [bind_of_value hvalues]
    rfl
  · exact hgrown.trans (.allocate _ _)
  · refine .list ?_ (hnames.mono (.allocate _ (.list values)))
    simp [Value.list?, Memory.allocate]

end Run

namespace Parameter

open Run

mutual

/-- The names that targets are asked for are those of the pattern. -/
theorem names_targetName (parameter : Parameter) (mark : Mark) :
    (targetName mark parameter.asParameter).Names parameter.names := by
  match parameter with
  | single name =>
    rw [asParameter, targetName]
    exact names_toValue name _
  | rest none =>
    rw [asParameter, targetName]
    exact names_absent
  | rest (some name) =>
    rw [asParameter, targetName]
    exact names_toValue name _
  | nested parameters =>
    rw [asParameter, targetName.eq_def]
    exact names_newList (namesAll_targetNames parameters mark 0)

theorem namesAll_targetNames (parameters : List Parameter) (mark : Mark) (place : Nat) :
    (targetNames mark place (asParameters parameters)).NamesAll (allNames parameters) := by
  match parameters with
  | [] =>
    rw [asParameters, targetNames]
    exact namesAll_nil
  | parameter :: others =>
    rw [asParameters, targetNames]
    exact namesAll_cons (names_targetName parameter _) (namesAll_targetNames others mark _)

end

end Parameter

namespace Eval

open Run

variable {library : Library} {depth : Nat}

/-- The beginning of an evaluation does not touch memory. -/
theorem names_evaluate {tag : String} {children : List Tree} {mark : Mark} {run : Run Value}
    {names : List String}
    (hstep : ∀ machine, (engine library (depth + 1)).evaluate ⟨.node tag children, mark⟩ machine =
      run (begun (.node tag children) machine)) (hrun : run.Names names) :
    ((engine library (depth + 1)).evaluate ⟨.node tag children, mark⟩).Names names := by
  intro machine
  rw [hstep]
  exact hrun (begun (.node tag children) machine)

/-- A pattern is evaluated to its names. -/
theorem names_parameter (parameter : Parameter) (mark : Mark) :
    ((engine library (depth + 1)).evaluate ⟨parameter.asParameter, mark⟩).Names parameter.names := by
  match parameter with
  | .single name =>
    rw [Parameter.asParameter]
    exact names_evaluate (fun _ ↦ rfl) (names_toValue name (mark.child 0))
  | .rest none =>
    rw [Parameter.asParameter]
    exact names_evaluate (fun _ ↦ rfl) names_absent
  | .rest (some name) =>
    rw [Parameter.asParameter]
    exact names_evaluate (fun _ ↦ rfl) (names_toValue name (mark.child 0))
  | .nested parameters =>
    rw [Parameter.asParameter]
    refine names_evaluate (fun machine ↦ ?_)
      (names_newList (Parameter.namesAll_targetNames parameters mark 0))
    have htrees : (Site.childrenOf mark (Parameter.asParameters parameters)).map Site.tree =
        Parameter.asParameters parameters := Site.map_tree_childrenFrom mark 0 _
    have hstep : (engine library (depth + 1)).evaluate
        ⟨.node "mlhs" (Parameter.asParameters parameters), mark⟩ machine =
          (targetNames mark 0
            ((Site.childrenOf mark (Parameter.asParameters parameters)).map Site.tree) >>= newList)
            (begun (.node "mlhs" (Parameter.asParameters parameters)) machine) := rfl
    rw [hstep, htrees]

/-- One of several values is that value, and all of them together are a list. -/
def together : List Value → Run Value
  | [only] => value only
  | several => newList several

theorem names_together {run : Run (List Value)} {names : List String} (hrun : run.NamesAll names) :
    (run >>= together).Names names := by
  intro machine
  obtain ⟨values, after, hvalues, hgrown, hnames⟩ := hrun machine
  obtain ⟨list, last, hlist, hmore⟩ := names_newList hrun machine
  rw [bind_of_value hvalues] at hlist ⊢
  unfold together
  split
  · next only => exact ⟨only, after, rfl, hgrown, hnames.single⟩
  · exact ⟨list, last, hlist, hmore⟩

mutual

/-- A parameter is evaluated to its names, from some depth on. -/
theorem names_blockParameter (library : Library) (parameter : BlockParameter) :
    ∃ least, ∀ depth, least ≤ depth → ∀ mark,
      ((engine library depth).evaluate ⟨parameter.asTree, mark⟩).Names parameter.names := by
  match parameter with
  | .pattern parameter =>
    refine ⟨1, fun depth hdepth mark ↦ ?_⟩
    obtain ⟨depth, rfl⟩ := Nat.exists_eq_add_of_le' hdepth
    rw [BlockParameter.asTree, BlockParameter.names]
    exact names_parameter parameter mark
  | .sole name =>
    refine ⟨1, fun depth hdepth mark ↦ ?_⟩
    obtain ⟨depth, rfl⟩ := Nat.exists_eq_add_of_le' hdepth
    rw [BlockParameter.asTree, BlockParameter.names]
    exact names_evaluate (fun _ ↦ rfl) (names_toValue name (mark.child 0))
  | .grouped first others =>
    obtain ⟨least, hall⟩ := namesAll_blockParameters library (first :: others)
    refine ⟨least + 1, fun depth hdepth mark ↦ ?_⟩
    obtain ⟨depth, rfl⟩ := Nat.exists_eq_add_of_le' (Nat.le_of_add_left_le hdepth)
    rw [BlockParameter.asTree, BlockParameter.names]
    refine names_evaluate (fun machine ↦ ?_) (names_together (hall depth (by omega) mark 0))
    have hstep : soleParameter (engine library depth)
        (Site.childrenOf mark (first.asTree :: BlockParameter.asTrees others)) =
          evaluateAll (engine library depth)
            (Site.childrenFrom mark 0 (BlockParameter.asTrees (first :: others))) >>= together := by
      rw [BlockParameter.asTrees]
      exact if_pos first.isNode_asTree
    rw [← hstep]
    rfl

theorem namesAll_blockParameters (library : Library) (parameters : List BlockParameter) :
    ∃ least, ∀ depth, least ≤ depth → ∀ mark place,
      (evaluateAll (engine library depth)
        (Site.childrenFrom mark place (BlockParameter.asTrees parameters))).NamesAll
          (BlockParameter.allNames parameters) := by
  match parameters with
  | [] =>
    refine ⟨0, fun depth _ mark place ↦ ?_⟩
    rw [BlockParameter.asTrees, BlockParameter.allNames]
    exact namesAll_nil
  | parameter :: others =>
    obtain ⟨least, hfirst⟩ := names_blockParameter library parameter
    obtain ⟨more, hrest⟩ := namesAll_blockParameters library others
    refine ⟨max least more, fun depth hdepth mark place ↦ ?_⟩
    rw [BlockParameter.asTrees, BlockParameter.allNames]
    obtain ⟨hleast, hmore⟩ := Nat.max_le.mp hdepth
    exact namesAll_cons (hfirst depth hleast _) (hrest depth hmore _ _)

end

/-- A block lists names that flatten to those of its parameters, from some depth on. -/
theorem run_parameterNames (library : Library) (parameters : List BlockParameter) :
    ∃ least, ∀ depth, least ≤ depth → ∀ (mark : Mark) (body : Site) (chain : Chain) (index : Nat)
      (machine : Machine),
      machine.memory.closure? index = some (.block
        ⟨.node "args" (BlockParameter.asTrees parameters), mark⟩ body chain) →
      ∃ list after, Run.parameterNames (engine library depth) index machine =
          (.value (some list), after) ∧
        list.Flattens after.memory.heap (BlockParameter.allNames parameters) := by
  obtain ⟨least, hall⟩ := namesAll_blockParameters library parameters
  refine ⟨least + 1, fun depth hdepth mark body chain index machine hclosure ↦ ?_⟩
  obtain ⟨depth, rfl⟩ := Nat.exists_eq_add_of_le' (Nat.le_of_add_left_le hdepth)
  have hnames : ((engine library (depth + 1)).evaluate
      ⟨.node "args" (BlockParameter.asTrees parameters), mark⟩).Names
        (BlockParameter.allNames parameters) :=
    names_evaluate (fun _ ↦ rfl) (names_newList (hall depth (by omega) mark 0))
  obtain ⟨list, after, hlist, -, hflattens⟩ := hnames machine
  refine ⟨list, after, ?_, hflattens⟩
  have hanswer : (some <$> (engine library (depth + 1)).evaluate
      ⟨.node "args" (BlockParameter.asTrees parameters), mark⟩) machine = (.value (some list), after) :=
    bind_of_value hlist _
  unfold Run.parameterNames
  rw [look_bind_apply, hclosure]
  change rescue _ _ machine = _
  rw [rescue, hanswer]

end Eval

end Treewalk
