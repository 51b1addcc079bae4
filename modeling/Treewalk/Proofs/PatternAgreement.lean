import Treewalk.Proofs.ParameterViews

/-!
Assigning a list to a pattern and calling a block with the same pattern for its parameters. Unless a
nested pattern meets a progression of too many integers, the two bind the same names to the same values
(`destructuring_binds_as_parameters`). Where one does, both fail, and there they differ: the call has
bound nothing, and the names before that pattern are assigned (`endless_item_assigned_before`).
-/

set_option autoImplicit false
set_option relaxedAutoImplicit false

namespace Treewalk

/-- Assigning a list to a pattern and calling a block with the same pattern as its parameters on the
items of the list bind the same names to the same values. The names that the block binds in its
frame are those of the pattern; each of them is read with the same value inside of the block and
after the assignment, and no other name has been assigned. The only exception is a pattern that comes
to a progression which cannot be taken apart: the call fails for that before it has made a frame, and
so does the assignment, which has written no other names than those of the pattern. -/
theorem destructuring_binds_as_parameters (library : Library) (depth : Nat)
    (pattern : List Parameter) (values : List Value) (source : Tree) (mark : Mark)
    {machine ready calling : Machine} {item : Value} (hsession : machine.InSession library)
    (hsource : (Eval.engine library depth).evaluate ⟨source, mark.child 1⟩
      (Eval.begun (.node "masgn" [.node "mlhs" (Parameter.asTargets pattern), source]) machine) =
        (.value item, ready))
    (hitem : ready.memory.cell? item = some (.list values))
    {index : Nat} {parameters body : Site} {chain : Chain}
    (hmemory : calling.memory = ready.memory)
    (hblock : calling.memory.closure? index = some (.block parameters body chain))
    (hparameters : parameters.tree = .node "args" (Parameter.asParameters pattern)) :
    let assigned := (Eval.engine library (depth + 1)).evaluate
      ⟨.node "masgn" [.node "mlhs" (Parameter.asTargets pattern), source], mark⟩ machine
    let called := (Eval.engine library (depth + 1)).call (.closure index) values none calling
    (∃ inside : Machine,
      assigned.1 = .value item ∧
      called.1 = ((Eval.engine library depth).evaluate body inside).1 ∧
      inside.evaluator.locals = calling.frames.size :: chain ∧
      inside.memory = assigned.2.memory ∧
      (∀ key, (inside.frames.frame calling.frames.size).has key = true ↔
        ∃ name ∈ Parameter.allNames pattern, key = [.text name]) ∧
      (∀ name ∈ Parameter.allNames pattern, ∃ bound,
        (inside.frames.frame calling.frames.size).find? [.text name] = some bound ∧
          Eval.Reads library inside name bound ∧ Eval.Reads library assigned.2 name bound) ∧
      ready.Spares (Parameter.allNames pattern) assigned.2) ∨
    assigned.1 = .failed .tooMany ∧ called.1 = .failed .tooMany ∧
      Tree.StallAll calling.memory (Parameter.asParameters pattern) values ∧
      called.2.frames = calling.frames ∧ ready.Spares (Parameter.allNames pattern) assigned.2 := by
  have hready : ready.Grounded :=
    ((Eval.inSession_begun hsession _).evaluated hsource).grounded
  have hagree := Parameter.agree_all hready pattern (.first hmemory) parameters.mark (mark.child 0)
    0 0 values
  have hbinding : Eval.bindArguments parameters values =
      Run.bindParameters parameters.mark 0 (Parameter.asParameters pattern) values [] := by
    unfold Eval.bindArguments
    rw [hparameters]
  rw [List.nil_append, ← hbinding] at hagree
  intro assigned called
  have hassigned : assigned = _ := Eval.evaluate_destructure hsource hitem
  have hcalled : called = _ := Eval.call_block values hblock
  rw [hassigned, hcalled]
  clear_value assigned called
  generalize hbound : Eval.bindArguments parameters values calling = binding at hagree
  generalize hwritten : Run.assignAll (mark.child 0) 0 (Parameter.asTargets pattern) values ready =
    assigning at hagree
  cases hagree with
  | @failed bound written hspares =>
    have hstalls := Parameter.bindAll pattern calling.memory parameters.mark 0 values [] calling
      (.refl _)
    rw [← hbinding, hbound] at hstalls
    cases hstalls with
    | stalled hextends hstalls =>
      rw [Eval.callBlock, Run.bind_of_failed hwritten, Run.bind_of_failed hbound]
      exact Or.inr ⟨rfl, rfl, hstalls, rfl, hspares⟩
  | @done table bound written hmirrors =>
    obtain ⟨inside, hcall, hchain, hframe, hinside⟩ := Eval.callBlock_of_bound hbound
    rw [Run.bind_of_value hwritten]
    refine Or.inl ⟨inside, rfl, hcall, hchain, ?_, ?_, ?_, hmirrors.spares⟩
    · exact hinside.trans hmirrors.memory.symm
    · rw [hframe]
      exact hmirrors.binds
    · intro name hname
      obtain ⟨item, hitem, hfound⟩ := hmirrors.find?_of_mem hname
      refine ⟨item, ?_, Eval.reads_of_find? library ?_, Eval.reads_of_find? library hfound⟩
      · rw [hframe, hitem]
      · rw [hchain, Frames.find?, hframe, hitem]

/-- In a session with a block of two parameters, the second of them nested, a list of a number and a
list is assigned to the same pattern: inside of the block and after the assignment the nested name
is read with the same value. -/
theorem nested_name_bound_alike :
    let pattern : List Parameter := [.single "a", .nested [.single "b", .rest (some "c")]]
    let number (i : Int) : Tree := .node "int" [.leaf (.int i)]
    let source : Tree := .node "array" [number 1, .node "array" [number 2, number 3]]
    let block : Closure :=
      .block ⟨.node "args" (Parameter.asParameters pattern), .common⟩ .absent [1]
    let seat := Session.seat {} {}
    let machine := { seat with memory := (seat.memory.close block).2 }
    let assigned := (Eval.engine {} 4).evaluate
      ⟨.node "masgn" [.node "mlhs" (Parameter.asTargets pattern), source], .common⟩ machine
    ∃ (inside : Machine) (bound : Value), inside.evaluator.locals = [2, 1] ∧
      (inside.frames.frame 2).find? [.text "b"] = some bound ∧
      Eval.Reads {} inside "b" bound ∧ Eval.Reads {} assigned.2 "b" bound := by
  intro pattern number source block seat machine assigned
  have hsession : machine.InSession {} :=
    .evolved (.seated {} ⟨rfl, rfl, rfl, rfl⟩ .start) (.closed block seat fun _ _ _ heq ↦ by
      obtain ⟨-, -, rfl⟩ := Closure.block.inj heq
      rfl)
  have hsource : ∃ item ready, (Eval.engine {} 3).evaluate ⟨source, .common⟩
      (Eval.begun (.node "masgn" [.node "mlhs" (Parameter.asTargets pattern), source]) machine) =
        (.value item, ready) ∧ ready.memory.cell? item = some (.list [.ofInt 1, .cell 0]) ∧
      ready.memory.closure? 0 = some block ∧ ready.frames.size = 2 := ⟨_, _, rfl, rfl, rfl, rfl⟩
  obtain ⟨item, ready, hready, hitem, hblock, hsize⟩ := hsource
  have hdone : assigned.1.isValue = true := by decide +kernel
  have hagree := destructuring_binds_as_parameters {} 3 pattern [.ofInt 1, .cell 0] source .common
    hsession hready hitem rfl hblock rfl
  rcases hagree with ⟨inside, -, -, hchain, -, -, hreads, -⟩ | ⟨hfailed, -⟩
  · obtain ⟨bound, hbound, hinside, hassigned⟩ := hreads "b" (by decide)
    rw [hsize] at hchain hbound
    exact ⟨inside, bound, hchain, hbound, hinside, hassigned⟩
  · have hnone : assigned.1.isValue = false := congrArg Outcome.isValue hfailed
    rw [hnone] at hdone
    cases hdone

/-- A pattern of a name and a nested name takes a number and a progression of too many integers. The
block has bound nothing when the call fails, but the assignment has given the first name its value. -/
theorem endless_item_assigned_before :
    let start : Machine := { memory := { heap := #[Host.kernelCell] } }
    let session : Session :=
      { context := .cell 0
        locals := Table.ofNames [("a", .ofInt 0), ("r", .progression 0 (Int.pow 2 63) 1 .common)] }
    let pattern : List Parameter := [.single "a", .nested [.single "b"]]
    let source : Tree :=
      .node "array" [.node "int" [.leaf (.int 1)], .node "lvar" [.leaf (.text "r")]]
    let proc : Tree := .node "send" [.leaf .null, .leaf (.text "proc")]
    let block : Tree := .node "block" [proc, .node "args" (Parameter.asParameters pattern), .leaf .null]
    let called : Tree := .node "send" [block, .leaf (.text "call"), .node "splat" [source]]
    let assigned : Tree := .node "masgn" [.node "mlhs" (Parameter.asTargets pattern), source]
    let rescued (tree : Tree) : Tree :=
      .node "rescue" [tree, .node "resbody" [.leaf .null, .leaf .null, .leaf .null], .leaf .null]
    let readAfter (tree : Tree) : Option Int :=
      match (Session.run Host.kernelLibrary session
        ⟨.node "begin" [rescued tree, .node "lvar" [.leaf (.text "a")]], .common⟩ start).1 with
      | .value item => item.integer?
      | _ => none
    readAfter called = some 0 ∧ readAfter assigned = some 1 := by
  decide +kernel

end Treewalk
