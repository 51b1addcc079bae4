import Treewalk.Proofs.GatheredTable
import Treewalk.Proofs.TableNames

/-!
What a table literal means. Its pairs are evaluated from left to right, the name and then the value of
each, on the machine that the pair before has left (`Eval.CollectsPairs`). A name is frozen once the
value of its pair is there, in the heap as it is then, so that a value may still change a list that is
a name. The literal ends with a new table that has gathered all pairs, or at a pair
(`Eval.EndsAtPair`): the first whose frozen name cannot be a key, evaluated by then with its value, the
first whose name or value ends without one, or the first with a list in its name that contains itself.
Nothing behind that pair is evaluated.

What is said of the table rests on the equality of names and not on their keys, and so it leaves out
names that hold a not-a-number.
-/

set_option autoImplicit false
set_option relaxedAutoImplicit false

namespace Treewalk

/-- A computation that ends with a result changes memory, and nothing else of the machine. -/
theorem Run.compute_of_ok {α : Type} {computation : Compute α} {machine : Machine} {result : α}
    {memory : Memory} (hresult : computation.run.run machine.memory = (.ok result, memory)) :
    Run.compute computation machine = (.value result, { machine with memory := memory }) := by
  rw [Run.compute_apply, hresult]

namespace Eval

/-! ### Pairs -/

/-- A pair of trees as a node. -/
def pairNode (pair : Tree × Tree) : Tree := .node "pair" [pair.1, pair.2]

section

variable (engine : Engine)

/-- The name and the value of a marked pair are evaluated one after the other, each once. -/
def EvaluatesPair (mark : Mark) (pair : Tree × Tree) (machine : Machine) (name stored : Value)
    (ready : Machine) : Prop :=
  ∃ named, engine.evaluate ⟨pair.1, mark.child 0⟩ (begun (pairNode pair) machine) =
      (.value name, named) ∧
    engine.evaluate ⟨pair.2, mark.child 1⟩ named = (.value stored, ready)

/-- The name or the value of a marked pair ends without a value; a value is not evaluated after a name
that does. -/
def StopsAtPair (mark : Mark) (pair : Tree × Tree) (machine : Machine) (outcome : Outcome Value)
    (after : Machine) : Prop :=
  outcome.isValue = false ∧
    (engine.evaluate ⟨pair.1, mark.child 0⟩ (begun (pairNode pair) machine) = (outcome, after) ∨
      ∃ name named, engine.evaluate ⟨pair.1, mark.child 0⟩ (begun (pairNode pair) machine) =
          (.value name, named) ∧
        engine.evaluate ⟨pair.2, mark.child 1⟩ named = (outcome, after))

/-- The pairs below a marked node, counted from a place on, are evaluated from left to right, each on
the machine that the one before has left. Once a pair is evaluated, its name is frozen as it is then;
nothing else changes but that marks are given out. -/
inductive CollectsPairs (mark : Mark) :
    Nat → Machine → List (Tree × Tree) → List Entry → Machine → Prop where
  | none (place : Nat) (machine : Machine) : CollectsPairs mark place machine [] [] machine
  | pair {place : Nat} {machine ready last : Machine} {pair : Tree × Tree}
      {rest : List (Tree × Tree)} {name plain stored : Value} {key : Key} {memory : Memory}
      {entries : List Entry}
      (hpair : EvaluatesPair engine (mark.child place) pair machine name stored ready)
      (hfreezes : name.Freezes ready.memory.heap plain)
      (hkey : plain.key? ready.memory.heap = some key) (hmints : ready.memory.Mints memory)
      (hrest : CollectsPairs mark (place + 1) { ready with memory := memory } rest entries last) :
      CollectsPairs mark place machine (pair :: rest) (⟨key, plain, stored⟩ :: entries) last

/-- A marked pair is evaluated, and its name, frozen as it is then, cannot be a key. The failure is that
of the pair. -/
def RefusesPair (mark : Mark) (pair : Tree × Tree) (machine : Machine) (outcome : Outcome Value)
    (after : Machine) : Prop :=
  ∃ name stored ready kind memory, EvaluatesPair engine mark pair machine name stored ready ∧
    (∀ plain, name.Freezes ready.memory.heap plain → plain.key? ready.memory.heap = none) ∧
    ready.memory.Mints memory ∧ outcome = .failed ⟨.unhashableKey kind, some (pairNode pair)⟩ ∧
    after = { ready with memory := memory }

/-- A marked pair is evaluated, and in its name lists lie without an end. The failure is that of a
recursion, and concerns no node. -/
def LosesPair (mark : Mark) (pair : Tree × Tree) (machine : Machine) (outcome : Outcome Value)
    (after : Machine) : Prop :=
  ∃ name stored ready memory, EvaluatesPair engine mark pair machine name stored ready ∧
    (∀ depth, ¬ name.Nests ready.memory.heap depth) ∧ ready.memory.Mints memory ∧
    outcome = .failed ⟨.plain .recursion, none⟩ ∧ after = { ready with memory := memory }

/-- The pairs below a marked node, counted from a place on, end at one of them, the ones before it
being collected. -/
def EndsAtPair (mark : Mark) (place : Nat) (machine : Machine) (pairs : List (Tree × Tree))
    (outcome : Outcome Value) (after : Machine) : Prop :=
  ∃ front pair rest entries reached, pairs = front ++ pair :: rest ∧
    CollectsPairs engine mark place machine front entries reached ∧
    (RefusesPair engine (mark.child (place + front.length)) pair reached outcome after ∨
      StopsAtPair engine (mark.child (place + front.length)) pair reached outcome after ∨
      LosesPair engine (mark.child (place + front.length)) pair reached outcome after)

end

variable {library : Library} {depth : Nat} {mark : Mark} {pair : Tree × Tree}
  {machine ready after : Machine} {name stored : Value} {outcome : Outcome Value}

theorem evaluate_pair (mark : Mark) (pair : Tree × Tree) (machine : Machine) :
    (engine library (depth + 1)).evaluate ⟨pairNode pair, mark⟩ machine =
      ((engine library depth).evaluate ⟨pair.1, mark.child 0⟩ >>= fun name ↦
        (engine library depth).evaluate ⟨pair.2, mark.child 1⟩ >>= fun stored ↦
          Run.compute (Compute.newTuple [name, stored])) (begun (pairNode pair) machine) := rfl

theorem run_pair_tuple (first second : Value) (mark : Mark) (memory : Memory) :
    (Value.tuple [first, second] mark).pair.run.run memory = (.ok (first, second), memory) := rfl

/-- A run that ends without a value ends so for whatever comes after it. -/
theorem bind_of_not_value {α : Type} {run : Run Value} {next : Value → Run α} {last : α → Run Value}
    (hrun : run machine = (outcome, after)) (houtcome : outcome.isValue = false) :
    ((run >>= next) >>= last) machine = (outcome, after) := by
  rw [Run.bind_apply, Run.bind_apply, hrun]
  cases outcome with
  | value result => cases houtcome
  | _ => rfl

/-- A pair is evaluated, or stops where its name or its value does. -/
theorem evaluatesPair_or_stopsAtPair (engine : Engine) (mark : Mark) (pair : Tree × Tree)
    (machine : Machine) :
    (∃ name stored ready, EvaluatesPair engine mark pair machine name stored ready) ∨
      ∃ outcome after, StopsAtPair engine mark pair machine outcome after := by
  rcases hname : engine.evaluate ⟨pair.1, mark.child 0⟩ (begun (pairNode pair) machine) with
    ⟨outcome, named⟩
  by_cases hvalue : ∃ name, outcome = .value name
  · obtain ⟨name, rfl⟩ := hvalue
    rcases hstored : engine.evaluate ⟨pair.2, mark.child 1⟩ named with ⟨outcome, ready⟩
    cases outcome with
    | value stored => exact Or.inl ⟨name, stored, ready, named, hname, hstored⟩
    | _ => exact Or.inr ⟨_, ready, rfl, Or.inr ⟨name, named, hname, hstored⟩⟩
  · cases outcome with
    | value name => exact absurd ⟨name, rfl⟩ hvalue
    | _ => exact Or.inr ⟨_, named, rfl, Or.inl hname⟩

/-- The node of a pair is evaluated to a new tuple. -/
theorem EvaluatesPair.evaluate
    (hpair : EvaluatesPair (engine library depth) mark pair machine name stored ready) :
    ∃ own memory, ready.memory.Mints memory ∧
      (engine library (depth + 1)).evaluate ⟨pairNode pair, mark⟩ machine =
        (.value (.tuple [name, stored] own), { ready with memory := memory }) := by
  obtain ⟨named, hname, hstored⟩ := hpair
  obtain ⟨own, memory, htuple, hmints⟩ := Compute.run_newTuple [name, stored] ready.memory
  refine ⟨own, memory, hmints, ?_⟩
  rw [evaluate_pair, Run.bind_of_value hname, Run.bind_of_value hstored, Run.compute_of_ok htuple]

/-- What the evaluation of pairs comes to once the first is evaluated: the pair is inserted and the
others follow, or its name is refused or has no end. -/
theorem EvaluatesPair.tableEntries
    (hpair : EvaluatesPair (engine library depth) mark pair machine name stored ready)
    (rest : List Site) (table : Table) :
    (∃ plain key memory, name.Freezes ready.memory.heap plain ∧
        plain.key? ready.memory.heap = some key ∧ ready.memory.Mints memory ∧
        Eval.tableEntries (engine library (depth + 1)) (⟨pairNode pair, mark⟩ :: rest) table machine =
          Eval.tableEntries (engine library (depth + 1)) rest (table.insert key plain stored)
            { ready with memory := memory }) ∨
      ∃ failure after, Eval.tableEntries (engine library (depth + 1)) (⟨pairNode pair, mark⟩ :: rest)
          table machine = (.failed failure, after) ∧
        (RefusesPair (engine library depth) mark pair machine (.failed failure) after ∨
          LosesPair (engine library depth) mark pair machine (.failed failure) after) := by
  obtain ⟨own, between, hmints, hevaluate⟩ := hpair.evaluate
  have hparts : Run.compute (Value.tuple [name, stored] own).pair { ready with memory := between } =
      (.value (name, stored), { ready with memory := between }) :=
    Run.compute_of_ok (run_pair_tuple name stored own between)
  rw [Eval.tableEntries, Run.bind_of_value hevaluate, Run.bind_of_value hparts]
  rcases run_entryKey name between with ⟨plain, key, memory, hkey, hmore, hfreezes, hsome⟩ |
    ⟨kind, memory, hkey, hmore, hnone⟩ | ⟨memory, hkey, hmore, hendless⟩
  · rw [hmints.heap] at hfreezes hsome
    refine Or.inl ⟨plain, key, memory, hfreezes, hsome, hmints.trans hmore, ?_⟩
    dsimp only
    rw [Run.bind_of_value (Run.compute_of_ok hkey)]
  · rw [hmints.heap] at hnone
    refine Or.inr ⟨_, _, ?_, Or.inl ⟨name, stored, ready, kind, memory, hpair, hnone,
      hmints.trans hmore, rfl, rfl⟩⟩
    dsimp only
    rw [Run.bind_of_value (Run.compute_of_ok hkey)]
    rfl
  · rw [hmints.heap] at hendless
    refine Or.inr ⟨_, _, ?_, Or.inr ⟨name, stored, ready, memory, hpair, hendless,
      hmints.trans hmore, rfl, rfl⟩⟩
    dsimp only
    rw [Run.bind_apply, Run.compute_apply, hkey]

theorem StopsAtPair.tableEntries
    (hstops : StopsAtPair (engine library depth) mark pair machine outcome after)
    (rest : List Site) (table : Table) (last : Table → Run Value) :
    (Eval.tableEntries (engine library (depth + 1)) (⟨pairNode pair, mark⟩ :: rest) table >>= last)
      machine = (outcome, after) := by
  obtain ⟨houtcome, hrun⟩ := hstops
  unfold Eval.tableEntries
  refine bind_of_not_value ?_ houtcome
  rw [evaluate_pair, Run.bind_apply]
  rcases hrun with hname | ⟨name, named, hname, hstored⟩
  · rw [hname]
    cases outcome with
    | value result => cases houtcome
    | _ => rfl
  · rw [hname]
    dsimp only
    rw [Run.bind_apply, hstored]
    cases outcome with
    | value result => cases houtcome
    | _ => rfl

/-- The pairs of a table literal are evaluated from left to right and inserted into the table, up to the
first that is refused or stops. -/
theorem run_tableEntries (mark : Mark) (pairs : List (Tree × Tree)) (place : Nat) (table : Table)
    (machine : Machine) (last : Table → Run Value) :
    (∃ entries ready, CollectsPairs (engine library depth) mark place machine pairs entries ready ∧
        (tableEntries (engine library (depth + 1))
            (Site.childrenFrom mark place (pairs.map pairNode)) table >>= last) machine =
          last (table.merge entries) ready) ∨
      ∃ outcome after, EndsAtPair (engine library depth) mark place machine pairs outcome after ∧
        (tableEntries (engine library (depth + 1))
            (Site.childrenFrom mark place (pairs.map pairNode)) table >>= last) machine =
          (outcome, after) := by
  induction pairs generalizing place table machine with
  | nil => exact Or.inl ⟨[], machine, .none place machine, rfl⟩
  | cons pair rest ih =>
    rw [List.map_cons, Site.childrenFrom]
    rcases evaluatesPair_or_stopsAtPair (engine library depth) (mark.child place) pair machine with
      ⟨name, stored, ready, hpair⟩ | ⟨outcome, after, hstops⟩
    · rcases hpair.tableEntries (Site.childrenFrom mark (place + 1) (rest.map pairNode)) table with
        ⟨plain, key, memory, hfreezes, hkey, hmints, hrun⟩ | ⟨failure, after, hrun, hends⟩
      · rw [Run.bind_apply, hrun, ← Run.bind_apply]
        rcases ih (place + 1) (table.insert key plain stored) { ready with memory := memory } with
          ⟨entries, last, hcollects, hlast⟩ |
          ⟨outcome, after, ⟨front, other, back, entries, reached, rfl, hcollects, hends⟩, hrest⟩
        · exact Or.inl ⟨_, last, .pair hpair hfreezes hkey hmints hcollects, hlast⟩
        · refine Or.inr ⟨outcome, after, ⟨pair :: front, other, back, _, reached, rfl,
            .pair hpair hfreezes hkey hmints hcollects, ?_⟩, hrest⟩
          rwa [List.length_cons, ← Nat.add_assoc, Nat.add_right_comm]
      · refine Or.inr ⟨.failed failure, after, ⟨[], pair, rest, [], machine, rfl,
          .none place machine, hends.imp_right Or.inr⟩, ?_⟩
        rw [Run.bind_apply, hrun]
    · exact Or.inr ⟨outcome, after, ⟨[], pair, rest, [], machine, rfl, .none place machine,
        Or.inr (Or.inl hstops)⟩, hstops.tableEntries _ table last⟩

/-- The name of a collected pair had its key when it was inserted. -/
theorem CollectsPairs.exists_key? {engine : Engine} {place : Nat} {pairs : List (Tree × Tree)}
    {entries : List Entry} (hcollects : CollectsPairs engine mark place machine pairs entries after) :
    ∀ entry ∈ entries, ∃ heap, entry.name.key? heap = some entry.key := by
  induction hcollects with
  | none => exact nofun
  | pair hpair hfreezes hkey hmints hrest ih => exact List.forall_mem_cons.mpr ⟨⟨_, hkey⟩, ih⟩

/-- Without a not-a-number, the keys of collected pairs tell which of their names are equal. -/
theorem CollectsPairs.keyed {engine : Engine} {place : Nat} {pairs : List (Tree × Tree)}
    {entries : List Entry} (hcollects : CollectsPairs engine mark place machine pairs entries after)
    (hnumbers : ∀ entry ∈ entries, entry.name.holdsNaN = false) : Table.Keyed entries := by
  intro entry hentry other hother
  obtain ⟨heap, hkey⟩ := hcollects.exists_key? entry hentry
  obtain ⟨later, hlater⟩ := hcollects.exists_key? other hother
  exact Value.key_eq_iff_equals hkey hlater (hnumbers entry hentry) (hnumbers other hother)

theorem evaluate_hash (pairs : List (Tree × Tree)) (mark : Mark) (machine : Machine) :
    (engine library (depth + 2)).evaluate ⟨.node "hash" (pairs.map pairNode), mark⟩ machine =
      (tableEntries (engine library (depth + 1)) (Site.childrenFrom mark 0 (pairs.map pairNode)) [] >>=
        fun table ↦ Run.compute (Compute.newTable table))
          (begun (.node "hash" (pairs.map pairNode)) machine) := rfl

end Eval

/-- A table literal evaluates its pairs from left to right, the name and then the value of each, once.
If the name of each, with lists frozen to tuples as it stands when its value is there, can be a key,
the result is a new table that has gathered them: of names that are equal the first one counts, at the
place where it came up, with the value of the last. Else the literal fails for the first pair whose name
cannot be a key, once that pair is evaluated, and no pair after it is; or it ends as the first name or
value does that ends without one; or, where lists lie in a name without an end, with a failure of
recursion that concerns no node. -/
theorem table_literal_meaning (library : Library) (depth : Nat) (pairs : List (Tree × Tree))
    (mark : Mark) (machine : Machine) :
    ∃ outcome after, (Eval.engine library (depth + 2)).evaluate
        ⟨.node "hash" (pairs.map Eval.pairNode), mark⟩ machine = (outcome, after) ∧
      ((∃ entries ready table, Eval.CollectsPairs (Eval.engine library depth) mark 0
            (Eval.begun (.node "hash" (pairs.map Eval.pairNode)) machine) pairs entries ready ∧
          outcome = .value (ready.memory.allocate (.table table [])).1 ∧
          after = { ready with memory := (ready.memory.allocate (.table table [])).2 } ∧
          ((∀ entry ∈ entries, entry.name.holdsNaN = false) → table.Gathers entries)) ∨
        Eval.EndsAtPair (Eval.engine library depth) mark 0
          (Eval.begun (.node "hash" (pairs.map Eval.pairNode)) machine) pairs outcome after) := by
  rw [Eval.evaluate_hash]
  rcases Eval.run_tableEntries mark pairs 0 []
      (Eval.begun (.node "hash" (pairs.map Eval.pairNode)) machine)
      (fun table ↦ Run.compute (Compute.newTable table)) with
    ⟨entries, ready, hcollects, hrun⟩ | ⟨outcome, after, hends, hrun⟩
  · exact ⟨_, _, hrun, Or.inl ⟨entries, ready, Table.merge [] entries, hcollects, rfl, rfl,
      fun hnumbers ↦ .merge (hcollects.keyed hnumbers)⟩⟩
  · exact ⟨outcome, after, hrun, Or.inr hends⟩

/-- A truth value is equal to a number that came before it: with the two as names, the literal ends
with a table that has gathered both pairs. -/
theorem repeated_name_gathered :
    let pairs : List (Tree × Tree) :=
      [(.node "int" [.leaf (.int 1)], .node "str" [.leaf (.text "first")]),
        (.node "true" [], .node "str" [.leaf (.text "second")])]
    ∃ entries ready table,
      Eval.CollectsPairs (Eval.engine {} 1) .common 0
        (Eval.begun (.node "hash" (pairs.map Eval.pairNode)) {}) pairs entries ready ∧
      ((Eval.engine {} 3).evaluate ⟨.node "hash" (pairs.map Eval.pairNode), .common⟩ {}).1 =
        .value (ready.memory.allocate (.table table [])).1 ∧
      (∀ entry ∈ entries, entry.name.holdsNaN = false) ∧ table.Gathers entries := by
  intro pairs
  have hvalue : ((Eval.engine {} 3).evaluate ⟨.node "hash" (pairs.map Eval.pairNode), .common⟩
      {}).1.isValue = true := by decide +kernel
  obtain ⟨outcome, after, hrun, hends⟩ := table_literal_meaning {} 1 pairs .common {}
  rw [hrun] at hvalue ⊢
  rcases hends with ⟨entries, ready, table, hcollects, rfl, rfl, hgathers⟩ |
    ⟨front, pair, rest, entries, reached, -, -, hrefuses | hstops | hloses⟩
  · have hnumbers : ∀ entry ∈ entries, entry.name.holdsNaN = false := by
      change Eval.CollectsPairs _ _ _ _ [_, _] _ _ at hcollects
      cases hcollects with
      | pair hpair hfreezes _ _ hrest =>
        cases hrest with
        | pair hother hkept _ _ hnone =>
          cases hnone
          obtain ⟨_, hname, -⟩ := hpair
          obtain ⟨_, htruth, -⟩ := hother
          obtain rfl : Value.ofInt 1 = _ := Outcome.value.inj (congrArg Prod.fst hname)
          obtain rfl : Value.bool true = _ := Outcome.value.inj (congrArg Prod.fst htruth)
          cases hfreezes with
          | list _ hlist _ => cases hlist
          | kept _ =>
            cases hkept with
            | list _ hlist _ => cases hlist
            | kept _ => exact List.forall_mem_cons.mpr ⟨rfl, List.forall_mem_singleton.mpr rfl⟩
    exact ⟨entries, ready, table, hcollects, rfl, hnumbers, hgathers hnumbers⟩
  · obtain ⟨name, stored, ready, kind, memory, -, -, -, rfl, -⟩ := hrefuses
    cases hvalue
  · cases hstops.1.symm.trans hvalue
  · obtain ⟨name, stored, ready, memory, -, -, -, rfl, -⟩ := hloses
    cases hvalue

/-- A list that contains itself as the name of a pair: the literal fails, but the failure is none of the
interpreter and concerns no node. -/
theorem endless_name_unattributed :
    let list : Tree := .node "lvar" [.leaf (.text "a")]
    let literal : Tree := .node "hash" [Eval.pairNode (list, .node "int" [.leaf (.int 1)])]
    let script : Tree := .node "begin"
      [.node "lvasgn" [.leaf (.text "a"), .node "array" []],
        .node "send" [list, .leaf (.text "append"), list], literal]
    let isLost : Outcome Value → Bool
      | .failed failure => decide (failure.cause.kind = .recursion) && failure.node.isNone
      | _ => false
    isLost (Session.run {} {} ⟨script, .common⟩ {}).1 = true := by
  decide +kernel

end Treewalk
