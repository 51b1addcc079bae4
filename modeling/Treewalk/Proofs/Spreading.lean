import Treewalk.Host.Kernel
import Treewalk.Proofs.Attribution
import Treewalk.Proofs.ClosedMachines
import Treewalk.Proofs.Sequences

/-!
Spreading a list literal. A list literal that is spread into a list or among the arguments of a send
comes to what its elements come to when they stand in its place. The one difference is a list that is
made, gone through at once and forgotten (`Eval.evaluateList_literal`): what is made after it gets
another address.

The two runs are the same up to the end of the elements. From then on they are compared under the
numbering that leaves out the one address, which is known only in the end
(`Run.sameFrom_of_keepList`). That the machine they start on is closed is what makes everything found
on the way keep its number.
-/

set_option autoImplicit false
set_option relaxedAutoImplicit false

namespace Treewalk

/-! ### One list more -/

/-- The machine with a list added that nothing leads to. -/
def Machine.withList (items : List Value) (machine : Machine) : Machine :=
  { machine with memory := (machine.memory.allocate (.list items)).2 }

/-- A list that is spread contributes its items. -/
theorem Value.run_spread_of_list {memory : Memory} {address : Nat} {items : List Value}
    (hcell : memory.cell? (.cell address) = some (.list items)) :
    (Value.cell address).spread.run.run memory = (.ok items, memory) := by
  have hsequence := run_sequence?_of_cell memory (.cell address) nofun nofun
  rw [hcell] at hsequence
  unfold spread
  dsimp only
  rw [Compute.run_bind_of_ok hsequence]
  rfl

/-- The address that a list takes up is left out on the side that does not make the list. -/
theorem Comparison.Twins.withList {start left right : Machine} {blind inScope : Bool}
    {seen : Tree → Tree} {early late : Prop} {numbering : Numbering} {frameLimit : Nat}
    (htwins : (Comparison.ofStart start blind seen early late numbering left.memory.heap.size
      frameLimit).Twins inScope left right)
    (hskips : numbering.cell = Numbering.skip left.memory.heap.size)
    (hsize : right.memory.heap.size = left.memory.heap.size) (items : List Value) (limit : Nat) :
    (Comparison.ofStart start blind seen early late numbering limit frameLimit).Twins inScope left
      (right.withList items) := by
  have hcells (address : Nat) : (right.memory.heap.push (.list items))[numbering.cell address]? =
      rename numbering left.memory.heap[address]? := by
    have hcell : right.memory.heap[numbering.cell address]? =
        rename numbering left.memory.heap[address]? :=
      htwins.memory.cells address
    rw [← hcell, hskips]
    by_cases haddress : address < left.memory.heap.size
    · rw [Numbering.skip_of_lt haddress, Array.getElem?_push_lt (by omega),
        Array.getElem?_eq_getElem (by omega)]
    · rw [Numbering.skip_of_le (Nat.le_of_not_lt haddress),
        Array.getElem?_eq_none (by simp only [Array.size_push]; omega),
        Array.getElem?_eq_none (by omega)]
  exact
    { htwins with
      memory :=
        { cells := hcells
          size := by
            simp only [Machine.withList, Memory.allocate, Array.size_push]
            omega
          closures := htwins.memory.closures
          marks := htwins.memory.marks
          next := by
            intro count _
            simp only [Machine.withList, Memory.allocate, Array.size_push]
            change numbering.cell (left.memory.heap.size + count) = _
            rw [hskips, Numbering.skip_of_le (Nat.le_add_right _ _)]
            omega } }

/-- Two runs that are given a depth, the second of which needs two levels more: whichever of them comes
to an end, the other one comes to the same. -/
def Machine.SameAtDepths (start : Machine) (seen : Tree → Tree) (first second : Nat → Run Value) :
    Prop :=
  ∀ depth,
    ((first depth start).1 ≠ .exhausted →
      start.SameFrom true seen (first depth start) (second (depth + 2) start)) ∧
    ((second (depth + 2) start).1 ≠ .exhausted →
      start.SameFrom true seen (first (depth + 2) start) (second (depth + 2) start))

namespace Run

variable {α β : Type}

/-- Adds a list that nothing leads to, if items are given. -/
def keepList : Option (List Value) → Run Unit
  | none => value ()
  | some items => change (Machine.withList items)

/-- A new list that is spread gives its items and stays behind. -/
theorem newList_bind_spread (items : List Value) (after : List Value → Run β) :
    (newList items >>= fun list ↦ compute list.spread >>= after) =
      keepList (some items) >>= fun _ ↦ after items := by
  funext machine
  have hlist : newList items machine =
      (.value (.cell machine.memory.heap.size), machine.withList items) := rfl
  have hfound : (machine.withList items).memory.cell? (.cell machine.memory.heap.size) =
      some (.list items) := Array.getElem?_push_size
  have hspread : compute (Value.cell machine.memory.heap.size).spread (machine.withList items) =
      (.value items, machine.withList items) := by
    rw [compute_apply, Value.run_spread_of_list hfound]
  rw [bind_apply, hlist]
  change (compute _ >>= after) (machine.withList items) = after items (machine.withList items)
  rw [bind_apply, hspread]

theorem exhausted_bind {run : Run α} (after : α → Run β) {machine : Machine}
    (hrun : (run machine).1 = .exhausted) : ((run >>= after) machine).1 = .exhausted := by
  rw [bind_apply]
  rcases heq : run machine with ⟨outcome, changed⟩
  rw [heq] at hrun
  subst hrun
  rfl

section

variable [Renamable α] [Renamable β] {start : Machine} {seen : Tree → Tree} {early late : Prop}
  {first second : Run α} {items : α → Option (List Value)} {after after' : α → Run β}

/-- Runs that are alike under all numberings of what they add, except that in between one of them makes
a list that nothing leads to, come to the same. -/
theorem sameFrom_of_keepList (hclosed : start.Closed)
    (hrun : ∀ numbering limit frameLimit, numbering.Keeps start →
      AlikeFor (.ofStart start false seen early late numbering limit frameLimit) true first second)
    (hafter : ∀ numbering limit frameLimit, numbering.Keeps start → ∀ result,
      AlikeFor (.ofStart start false seen early late numbering limit frameLimit) true (after result)
        (after' (rename numbering result)))
    (hitems : ∀ numbering result, items (rename numbering result) = rename numbering (items result))
    (hearly : early → ((first >>= after) start).1 ≠ .exhausted)
    (hlate : late →
      ((second >>= fun result ↦ keepList (items result) >>= fun _ ↦ after' result) start).1 ≠
        .exhausted) :
    start.SameFrom true seen ((first >>= after) start)
      ((second >>= fun result ↦ keepList (items result) >>= fun _ ↦ after' result) start) := by
  have hstart : start.Swells (first start).2 :=
    (hrun .same 0 0 Numbering.keeps_same).swells start rfl
  have hfinal : (first start).2.Swells ((first >>= after) start).2 :=
    swells_after (fun result ↦ (hafter .same 0 0 Numbering.keeps_same result).swells) hstart.policy
  have hfirst : early → (first start).1 ≠ .exhausted :=
    fun h hexhausted ↦ hearly h (exhausted_bind after hexhausted)
  have hsecond : late → (second start).1 ≠ .exhausted :=
    fun h hexhausted ↦ hlate h (exhausted_bind _ hexhausted)
  -- The runs are the same up to here, and that is seen in two ways: as if no address were left out, and
  -- as if the next one were.
  obtain ⟨hends, htwins⟩ := (hrun .same (((first >>= after) start).2.memory.heap.size + 1)
    ((first >>= after) start).2.frames.size Numbering.keeps_same).twins hclosed Numbering.keeps_same
    (fun _ _ _ ↦ rfl) (fun _ _ _ ↦ rfl) (Nat.le_succ_of_le hfinal.memory.cells) hfinal.frames hfirst
    hsecond
  have hkeeps := Numbering.keeps_skipCell hstart.memory.cells
  obtain ⟨hends', htwins'⟩ := (hrun (.skipCell (first start).2.memory.heap.size)
    (first start).2.memory.heap.size ((first >>= after) start).2.frames.size hkeeps).twins hclosed
    hkeeps (fun _ _ hless ↦ Numbering.skip_of_lt hless) (fun _ _ _ ↦ rfl) (Nat.le_refl _) hfinal.frames
    hfirst hsecond
  have hsize : (second start).2.memory.heap.size = (first start).2.memory.heap.size :=
    (htwins.memory.next 0 (Nat.lt_succ_of_le hfinal.memory.cells)).symm
  rcases hleft : first start with ⟨outcome, left⟩
  rcases hright : second start with ⟨outcome', right⟩
  rw [hleft] at hfinal hends htwins hkeeps hends' htwins' hsize
  rw [hright] at hends htwins hends' htwins' hsize
  cases hends with
  | failed same =>
    rw [bind_apply, bind_apply, hleft, hright]
    exact ⟨_, rfl, rfl, rfl, Numbering.keeps_same, .failed same, htwins⟩
  | aborted message =>
    rw [bind_apply, bind_apply, hleft, hright]
    exact ⟨_, rfl, rfl, rfl, Numbering.keeps_same, .aborted message, htwins⟩
  | exhausted =>
    rw [bind_apply, bind_apply, hleft, hright]
    exact ⟨_, rfl, rfl, rfl, Numbering.keeps_same, .exhausted, htwins⟩
  | value result =>
    have hresult := Outcome.value.inj hends'.eq_value
    rw [bind_of_value hleft] at hfinal hearly htwins htwins' ⊢
    rw [bind_of_value hright, hitems] at hlate ⊢
    cases hitem : items result with
    | none =>
      rw [hitem] at hlate
      obtain ⟨hends, htwins⟩ :=
        ((hafter .same _ _ Numbering.keeps_same result).meets left right htwins).resolve
          (Comparison.not_gone rfl (Nat.le_succ _) (Nat.le_refl _)) hearly hlate
      exact ⟨_, rfl, rfl, rfl, Numbering.keeps_same, hends, htwins⟩
    | some list =>
      rw [hitem, hresult] at hlate
      rw [hresult]
      obtain ⟨hends, htwins⟩ :=
        ((hafter _ _ _ hkeeps result).meets left _ (htwins'.withList rfl hsize _ _)).resolve
          (Comparison.not_gone rfl (Nat.le_refl _) (Nat.le_refl _)) hearly hlate
      exact ⟨_, rfl, rfl, rfl, hkeeps, hends, htwins⟩

end

end Run

namespace Eval

open Run

/-! ### Lists with a spread literal -/

theorem andThen_assoc {α β γ : Type} (run : Run α) (middle : α → Run β) (last : β → Run γ) :
    run >>= middle >>= last = run >>= fun result ↦ middle result >>= last :=
  Run.bind_assoc run middle last

theorem value_andThen {α β : Type} (result : α) (after : α → Run β) :
    value result >>= after = after result := rfl

theorem pure_andThen {α β : Type} (result : α) (after : α → Run β) :
    (pure result : Run α) >>= after = after result := rfl

theorem evaluateList_append (engine : Engine) (sites others : List Site) :
    evaluateList engine (sites ++ others) =
      evaluateList engine sites >>= fun items ↦ evaluateList engine others >>= fun rest ↦
        value (items ++ rest) := by
  induction sites with
  | nil =>
    funext machine
    change _ = (evaluateList engine others >>= value) machine
    rw [bind_apply, List.nil_append]
    rcases evaluateList engine others machine with ⟨_ | _ | _ | _, changed⟩ <;> rfl
  | cons site rest ih =>
    simp only [List.cons_append, evaluateList, ih, andThen_assoc, value_andThen, pure_andThen,
      List.append_assoc]
    rfl

/-- A list literal that is spread. -/
def literal (elements : List Tree) (mark : Mark) : Site :=
  ⟨.node "splat" [.node "array" elements], mark⟩

/-- The elements of a list literal that is spread. -/
def elementsOf (elements : List Tree) (mark : Mark) : List Site :=
  Site.childrenOf (mark.child 0) elements

/-- What is noted on the way to the elements of a list literal that is spread. -/
def approach (elements : List Tree) : Run Unit :=
  visit (.node "splat" [.node "array" elements]) >>= fun _ ↦
    moveTo (.node "splat" [.node "array" elements]) >>= fun _ ↦
      visit (.node "array" elements) >>= fun _ ↦ moveTo (.node "array" elements)

/-- A spread list literal gives its elements, evaluated two levels deeper, and leaves a list behind. -/
theorem evaluateList_literal (library : Library) (depth : Nat) (elements : List Tree) (mark : Mark)
    (sites : List Site) :
    evaluateList (engine library (depth + 2)) (literal elements mark :: sites) =
      approach elements >>= fun _ ↦
        evaluateList (engine library depth) (elementsOf elements mark) >>= fun items ↦
          keepList (some items) >>= fun _ ↦
            evaluateList (engine library (depth + 2)) sites >>= fun rest ↦ value (items ++ rest) := by
  have harrayTag : Construct.ofTag? "array" = some .array := by decide
  have hspreadTag : Construct.ofTag? "splat" = some .spread := by decide
  have harray : (engine library (depth + 1)).evaluate ⟨.node "array" elements, mark.child 0⟩ =
      visit (.node "array" elements) >>= fun _ ↦ moveTo (.node "array" elements) >>= fun _ ↦
        evaluateList (engine library depth) (elementsOf elements mark) >>= newList :=
    step_node library (engine library depth) harrayTag elements (mark.child 0)
  have hspread : (engine library (depth + 2)).evaluate (literal elements mark) =
      visit (literal elements mark).tree >>= fun _ ↦ moveTo (literal elements mark).tree >>= fun _ ↦
        (engine library (depth + 1)).evaluate ⟨.node "array" elements, mark.child 0⟩ :=
    step_node library (engine library (depth + 1)) hspreadTag [.node "array" elements] mark
  have hcontribution (item : Value) :
      contribution (literal elements mark) item = compute item.spread := rfl
  simp only [evaluateList, hspread, harray, hcontribution, andThen_assoc, approach,
    newList_bind_spread]
  rfl

/-- Evaluates the sites before the elements of a list literal and the elements. -/
def gather (outer inner : Engine) (between : Run Unit) (sites elements : List Site) :
    Run (List Value × List Value) :=
  evaluateList outer sites >>= fun before ↦ between >>= fun _ ↦
    evaluateList inner elements >>= fun items ↦ value (before, items)

/-- What is done with the items of a list, the first two parts of which are known. -/
def complete (engine : Engine) (sites : List Site) (rest : List Value → Run Value)
    (parts : List Value × List Value) : Run Value :=
  evaluateList engine sites >>= fun after ↦ rest (parts.1 ++ (parts.2 ++ after))

section

variable {library : Library} {xs zs : List Site} {elements : List Tree} {mark : Mark}

theorem evaluateList_inlined (engine : Engine) (rest : List Value → Run Value) :
    evaluateList engine (xs ++ (elementsOf elements mark ++ zs)) >>= rest =
      gather engine engine (value ()) xs (elementsOf elements mark) >>= complete engine zs rest := by
  simp only [evaluateList_append, gather, complete, andThen_assoc, value_andThen]

theorem evaluateList_spread (depth : Nat) (rest : List Value → Run Value) :
    evaluateList (engine library (depth + 2)) (xs ++ literal elements mark :: zs) >>= rest =
      gather (engine library (depth + 2)) (engine library depth) (approach elements) xs
        (elementsOf elements mark) >>= fun parts ↦ keepList (some parts.2) >>= fun _ ↦
          complete (engine library (depth + 2)) zs rest parts := by
  simp only [evaluateList_append, evaluateList_literal, gather, complete, andThen_assoc,
    value_andThen]

end

/-! ### The two sides -/

/-- The depths at which two runs are compared, of which the right one takes two levels more to reach the
elements of a literal. -/
structure Levels (early late : Prop) (left right : Nat) : Prop where
  early : early ∨ right + 2 ≤ left
  late : late ∨ left ≤ right

section

variable {library : Library} {start : Machine} {seen : Tree → Tree} {early late : Prop}
  {left right : Nat} {numbering : Numbering} {limit frameLimit : Nat}
  (hstart : start.Indifferent library false seen) (hlevels : Levels early late left right)
  (hkeeps : numbering.Keeps start)

include hstart hlevels hkeeps

theorem ground_outer :
    AlikeGround (.ofStart start false seen early late numbering limit frameLimit) library
      (engine library left) (engine library (right + 2)) :=
  hstart.ground hkeeps hlevels.early (hlevels.late.imp_right fun hless ↦ by omega)

theorem ground_inner :
    AlikeGround (.ofStart start false seen early late numbering limit frameLimit) library
      (engine library left) (engine library right) :=
  hstart.ground hkeeps (hlevels.early.imp_right fun hless ↦ by omega) hlevels.late

omit hstart hlevels hkeeps in
/-- Nothing that matters is noted on the way. -/
theorem alike_approach {comparison : Comparison} (elements : List Tree) :
    AlikeFor comparison true (value ()) (approach elements) where
  swells machine _ := .refl machine
  meets _ _ htwins :=
    .twins (.value ()) (((htwins.passed_right rfl).moved_right _).passed_right rfl |>.moved_right _)

theorem alike_gather (sites elements : List Site) (trees : List Tree) :
    AlikeFor (.ofStart start false seen early late numbering limit frameLimit) true
      (gather (engine library left) (engine library left) (value ()) sites elements)
      (gather (engine library (right + 2)) (engine library right) (approach trees) sites elements) :=
  alike_bind (alike_evaluateList (ground_outer hstart hlevels hkeeps) sites) fun before ↦
    alike_bind (alike_approach trees) fun _ ↦
      alike_bind (alike_evaluateList (ground_inner hstart hlevels hkeeps) elements) fun items ↦
        alike_value (before, items)

theorem alike_complete (sites : List Site) {rest rest' : List Value → Run Value}
    (hrest : ∀ items, AlikeFor (.ofStart start false seen early late numbering limit frameLimit) true
      (rest items) (rest' (rename numbering items))) (parts : List Value × List Value) :
    AlikeFor (.ofStart start false seen early late numbering limit frameLimit) true
      (complete (engine library left) sites rest parts)
      (complete (engine library (right + 2)) sites rest' (rename numbering parts)) := by
  refine alike_bind (alike_evaluateList (ground_outer hstart hlevels hkeeps) sites) fun after ↦ ?_
  have hitems := hrest (parts.1 ++ (parts.2 ++ after))
  rwa [rename_append, rename_append] at hitems

end

section

variable {library : Library} {start : Machine} {seen : Tree → Tree} {early late : Prop}
  {left right : Nat} (hstart : start.Indifferent library false seen)
  (hlevels : Levels early late left right) (xs zs : List Site) (elements : List Tree) (mark : Mark)

include hstart hlevels

/-- In a list, a spread literal comes to its elements. -/
theorem sameFrom_array (site site' : Site)
    (hearly : early → (node library (engine library left) .array site
      (xs ++ (elementsOf elements mark ++ zs)) start).1 ≠ .exhausted)
    (hlate : late → (node library (engine library (right + 2)) .array site'
      (xs ++ literal elements mark :: zs) start).1 ≠ .exhausted) :
    start.SameFrom true seen
      (node library (engine library left) .array site (xs ++ (elementsOf elements mark ++ zs)) start)
      (node library (engine library (right + 2)) .array site' (xs ++ literal elements mark :: zs)
        start) := by
  have hleft : node library (engine library left) .array site
      (xs ++ (elementsOf elements mark ++ zs)) = _ :=
    evaluateList_inlined (engine library left) newList
  have hright : node library (engine library (right + 2)) .array site'
      (xs ++ literal elements mark :: zs) = _ :=
    evaluateList_spread right newList
  rw [hleft] at hearly ⊢
  rw [hright] at hlate ⊢
  have hitems (numbering : Numbering) (parts : List Value × List Value) :
      some (rename numbering parts).2 = rename numbering (some parts.2) := rfl
  exact sameFrom_of_keepList hstart.closed
    (fun numbering limit frameLimit hkeeps ↦ alike_gather hstart hlevels hkeeps xs _ elements)
    (fun numbering limit frameLimit hkeeps ↦
      alike_complete hstart hlevels hkeeps zs fun items ↦ alike_newList items)
    hitems hearly hlate

end

/-! ### Sends -/

/-- What is done with the arguments of a send: the block argument is evaluated, if there is one, and the
send is dispatched. -/
def handOver (library : Library) (engine : Engine) (node receiverNode member : Tree)
    (passed : Option Site) (receiver : Value) (block : Option Value) (arguments : List Value) :
    Run Value :=
  match passed with
  | none => dispatch library engine receiver member arguments block node receiverNode
  | some site => engine.evaluate site >>= fun given ↦
      dispatch library engine receiver member arguments (asBlock given) node receiverNode

/-- Whether a send comes to an end before its arguments are evaluated: a safe one to nil does, and one
with a block and a block argument. -/
def endsEarly (safe : Bool) (passed : Option Site) (block : Option Value) (receiver : Value) : Bool :=
  safe && receiver.isNil || passed.isSome && block.isSome

/-- What comes of a send that ends before its arguments are evaluated. -/
def endEarly (safe : Bool) (node : Tree) (receiver : Value) : Run Value :=
  if safe && receiver.isNil then value .nil else refuseAt node .blockConflict

/-- Only a block argument at the end is split off. -/
theorem splitBlockPass_append {sites : List Site} {passed : Option Site}
    (hsites : ∀ site ∈ sites, site.tree.hasTag "block_pass" = false)
    (hpassed : ∀ site ∈ passed, site.tree.hasTag "block_pass" = true) :
    splitBlockPass (sites ++ passed.toList) = (sites, passed) := by
  cases passed with
  | some site =>
    have hlast : (sites ++ [site]).getLast? = some site := List.getLast?_concat
    simp [splitBlockPass, hpassed site rfl]
  | none =>
    rw [Option.toList_none, List.append_nil]
    unfold splitBlockPass
    cases hlast : sites.getLast? with
    | none => rfl
    | some last => simp [hsites last (List.mem_of_getLast? hlast)]

section

variable (library : Library) (engine : Engine) (node : Tree) {sites : List Site}
  {passed : Option Site} (block : Option Value)
  (hsites : ∀ site ∈ sites, site.tree.hasTag "block_pass" = false)
  (hpassed : ∀ site ∈ passed, site.tree.hasTag "block_pass" = true)

include hsites hpassed

theorem sendWith_eq (receiverNode member : Tree) (receiver : Value) :
    sendWith library engine node receiverNode member (sites ++ passed.toList) receiver block =
      if passed.isSome && block.isSome then refuseAt node .blockConflict
      else evaluateList engine sites >>=
        handOver library engine node receiverNode member passed receiver block := by
  unfold sendWith
  rw [splitBlockPass_append hsites hpassed]
  cases passed with
  | none =>
    rw [Option.toList_none, List.append_nil]
    rfl
  | some site => cases block <;> rfl

/-- What a send does with its receiver: it stops, or it fails, or its arguments come next. -/
theorem send_eq (safe : Bool) (receiverNode member : Site) :
    send library engine safe node (receiverNode :: member :: (sites ++ passed.toList)) block =
      subject engine receiverNode >>= fun receiver ↦
        if endsEarly safe passed block receiver then endEarly safe node receiver
        else evaluateList engine sites >>= handOver library engine node receiverNode.tree member.tree
          passed receiver block := by
  refine congrArg (subject engine receiverNode >>= ·) (funext fun receiver ↦ ?_)
  rw [sendWith_eq library engine node block hsites hpassed]
  unfold endsEarly endEarly
  by_cases hstops : (safe && receiver.isNil) = true
  · simp only [hstops, if_true, Bool.true_or]
    rfl
  · rw [Bool.not_eq_true] at hstops
    simp only [hstops, Bool.false_or, Bool.false_eq_true, if_false]

end

/-- Evaluates the receiver of a send and, unless it ends early, the first parts of its arguments. -/
def reach (engine : Engine) (receiverNode : Site) (safe : Bool) (passed : Option Site)
    (block : Option Value) (gathered : Run (List Value × List Value)) :
    Run (Value × Option (List Value × List Value)) :=
  subject engine receiverNode >>= fun receiver ↦
    if endsEarly safe passed block receiver then value (receiver, none)
    else gathered >>= fun parts ↦ value (receiver, some parts)

/-- What a send does from there. -/
def proceed (library : Library) (engine : Engine) (safe : Bool) (node receiverNode member : Tree)
    (passed : Option Site) (block : Option Value) (sites : List Site) :
    Value × Option (List Value × List Value) → Run Value
  | (receiver, none) => endEarly safe node receiver
  | (receiver, some parts) =>
    complete engine sites (handOver library engine node receiverNode member passed receiver block) parts

theorem reach_bind (engine : Engine) (receiverNode : Site) (safe : Bool) (passed : Option Site)
    (block : Option Value) (gathered : Run (List Value × List Value))
    (after : Value × Option (List Value × List Value) → Run Value) :
    reach engine receiverNode safe passed block gathered >>= after =
      subject engine receiverNode >>= fun receiver ↦
        if endsEarly safe passed block receiver then after (receiver, none)
        else gathered >>= fun parts ↦ after (receiver, some parts) := by
  rw [reach, andThen_assoc]
  refine congrArg (subject engine receiverNode >>= ·) (funext fun receiver ↦ ?_)
  split
  · rfl
  · rw [andThen_assoc]
    rfl

section

variable {library : Library} {start : Machine} {seen : Tree → Tree} {early late : Prop}
  {left right : Nat} {numbering : Numbering} {limit frameLimit : Nat}
  (hstart : start.Indifferent library false seen) (hlevels : Levels early late left right)
  (hkeeps : numbering.Keeps start)

include hstart hlevels hkeeps

theorem alike_reach (receiverNode : Site) (safe : Bool) (passed : Option Site) (block : Option Value)
    (sites elements : List Site) (trees : List Tree) :
    AlikeFor (.ofStart start false seen early late numbering limit frameLimit) true
      (reach (engine library left) receiverNode safe passed block
        (gather (engine library left) (engine library left) (value ()) sites elements))
      (reach (engine library (right + 2)) receiverNode safe passed block
        (gather (engine library (right + 2)) (engine library right) (approach trees) sites
          elements)) := by
  refine alike_bind (alike_subject (ground_outer hstart hlevels hkeeps) receiverNode) fun receiver ↦ ?_
  have hends : endsEarly safe passed block (rename numbering receiver) =
      endsEarly safe passed block receiver := by
    unfold endsEarly
    rw [Value.isNil_rename]
  change AlikeFor _ true _ (if endsEarly safe passed block (rename numbering receiver) then _ else _)
  rw [hends]
  split
  · exact alike_value (receiver, (none : Option (List Value × List Value)))
  · exact alike_bind (alike_gather hstart hlevels hkeeps sites elements trees) fun parts ↦
      alike_value (receiver, some parts)

theorem alike_handOver {node node' : Tree} (hnode : seen node' = seen node)
    (receiverNode member : Tree) (passed : Option Site) (receiver : Value) (block : Option Value)
    (arguments : List Value) :
    AlikeFor (.ofStart start false seen early late numbering limit frameLimit) true
      (handOver library (engine library left) node receiverNode member passed receiver block arguments)
      (handOver library (engine library (right + 2)) node' receiverNode member passed
        (rename numbering receiver) (rename numbering block) (rename numbering arguments)) := by
  have hground : AlikeGround (.ofStart start false seen early late numbering limit frameLimit) library
      (engine library left) (engine library (right + 2)) :=
    ground_outer hstart hlevels hkeeps
  cases passed with
  | none => exact alike_dispatch hground (Or.inl rfl) receiver member arguments block hnode _ _
  | some site =>
    refine alike_bind (hground.engines.evaluate site) fun given ↦ ?_
    rw [asBlock_rename]
    exact alike_dispatch hground (Or.inl rfl) receiver member arguments _ hnode _ _

theorem alike_proceed (safe : Bool) {node node' : Tree} (hnode : seen node' = seen node)
    (receiverNode member : Tree) (passed : Option Site) (block : Option Value) (sites : List Site)
    (found : Value × Option (List Value × List Value)) :
    AlikeFor (.ofStart start false seen early late numbering limit frameLimit) true
      (proceed library (engine library left) safe node receiverNode member passed block sites found)
      (proceed library (engine library (right + 2)) safe node' receiverNode member passed
        (rename numbering block) sites (rename numbering found)) := by
  obtain ⟨receiver, parts⟩ := found
  cases parts with
  | some parts =>
    exact alike_complete hstart hlevels hkeeps sites
      (alike_handOver hstart hlevels hkeeps hnode receiverNode member passed receiver block) parts
  | none =>
    change AlikeFor _ true (endEarly safe node receiver)
      (endEarly safe node' (rename numbering receiver))
    unfold endEarly
    rw [Value.isNil_rename]
    split
    · exact alike_value Value.nil
    · exact alike_refuseAt hnode _

end

section

variable {library : Library} {start : Machine} {seen : Tree → Tree} {early late : Prop}
  {left right : Nat} (hstart : start.Indifferent library false seen)
  (hlevels : Levels early late left right) {xs zs : List Site} {elements : List Tree} {mark : Mark}
  (hplain : ∀ site ∈ xs ++ (elementsOf elements mark ++ zs), site.tree.hasTag "block_pass" = false)
  {passed : Option Site} (hpassed : ∀ site ∈ passed, site.tree.hasTag "block_pass" = true)

include hstart hlevels hplain hpassed

/-- Among arguments, a spread literal comes to its elements. -/
theorem sameFrom_send (safe : Bool) {node node' : Tree} (hnode : seen node' = seen node)
    (receiverNode member : Site) (block : Option Nat)
    (hearly : early → (send library (engine library left) safe node (receiverNode :: member ::
      (xs ++ (elementsOf elements mark ++ zs) ++ passed.toList)) (block.map .closure) start).1 ≠
        .exhausted)
    (hlate : late → (send library (engine library (right + 2)) safe node' (receiverNode :: member ::
      (xs ++ literal elements mark :: zs ++ passed.toList)) (block.map .closure) start).1 ≠
        .exhausted) :
    start.SameFrom true seen
      (send library (engine library left) safe node (receiverNode :: member ::
        (xs ++ (elementsOf elements mark ++ zs) ++ passed.toList)) (block.map .closure) start)
      (send library (engine library (right + 2)) safe node' (receiverNode :: member ::
        (xs ++ literal elements mark :: zs ++ passed.toList)) (block.map .closure) start) := by
  have hplain' : ∀ site ∈ xs ++ literal elements mark :: zs,
      site.tree.hasTag "block_pass" = false := by
    intro site hsite
    simp only [List.mem_append, List.mem_cons] at hsite
    rcases hsite with hxs | rfl | hzs
    · exact hplain site (List.mem_append_left _ hxs)
    · rfl
    · exact hplain site (List.mem_append_right _ (List.mem_append_right _ hzs))
  have hblock (numbering : Numbering) :
      rename numbering (block.map Value.closure) = block.map Value.closure := by
    cases block <;> rfl
  generalize block.map Value.closure = block at *
  have hleft : send library (engine library left) safe node (receiverNode :: member ::
      (xs ++ (elementsOf elements mark ++ zs) ++ passed.toList)) block =
        reach (engine library left) receiverNode safe passed block
          (gather (engine library left) (engine library left) (value ()) xs
            (elementsOf elements mark)) >>=
          proceed library (engine library left) safe node receiverNode.tree member.tree passed block
            zs := by
    rw [send_eq library _ node block hplain hpassed, reach_bind]
    simp only [evaluateList_inlined]
    rfl
  have hright : send library (engine library (right + 2)) safe node' (receiverNode :: member ::
      (xs ++ literal elements mark :: zs ++ passed.toList)) block =
        reach (engine library (right + 2)) receiverNode safe passed block
          (gather (engine library (right + 2)) (engine library right) (approach elements) xs
            (elementsOf elements mark)) >>= fun found ↦ keepList (found.2.map Prod.snd) >>= fun _ ↦
          proceed library (engine library (right + 2)) safe node' receiverNode.tree member.tree passed
            block zs found := by
    rw [send_eq library _ node' block hplain' hpassed, reach_bind]
    simp only [evaluateList_spread]
    rfl
  have hitems (numbering : Numbering) (found : Value × Option (List Value × List Value)) :
      (rename numbering found).2.map Prod.snd = rename numbering (found.2.map Prod.snd) := by
    obtain ⟨receiver, _ | parts⟩ := found <;> rfl
  rw [hleft] at hearly ⊢
  rw [hright] at hlate ⊢
  refine sameFrom_of_keepList hstart.closed
    (fun numbering limit frameLimit hkeeps ↦
      alike_reach hstart hlevels hkeeps receiverNode safe passed block xs _ elements)
    (fun numbering limit frameLimit hkeeps found ↦ ?_) hitems hearly hlate
  have hproceed : AlikeFor (.ofStart start false seen early late numbering limit frameLimit) true _ _ :=
    alike_proceed hstart hlevels hkeeps safe hnode receiverNode.tree member.tree passed block zs found
  rwa [hblock] at hproceed

end

/-- Spreading a list literal is inlining it. In a list the two come to the same: the same value or
failure, the same deeds and queries in the same order, and the same memory and variables, up to the
addresses of what has been made meanwhile. So they do among the arguments of a send, with a block or a
block argument or without, up to the node of the send itself: it is for `seen` not to tell the two
nodes apart, and for the policy to go by nothing but what is seen. -/
theorem spread_literal_inlined (library : Library) (xs zs : List Site) (elements : List Tree)
    (mark : Mark)
    (hplain : ∀ site ∈ xs ++ (elementsOf elements mark ++ zs), site.tree.hasTag "block_pass" = false)
    (seen : Tree → Tree) (start : Machine) (hstart : start.Indifferent library false seen) :
    (∀ site site', start.SameAtDepths seen
      (fun depth ↦ node library (engine library depth) .array site
        (xs ++ (elementsOf elements mark ++ zs)))
      fun depth ↦ node library (engine library depth) .array site'
        (xs ++ literal elements mark :: zs)) ∧
    ∀ (safe : Bool) (node node' : Tree) (receiver member : Site) (passed : Option Site)
      (block : Option Nat), seen node' = seen node →
      (∀ site ∈ passed, site.tree.hasTag "block_pass" = true) →
      start.SameAtDepths seen
        (fun depth ↦ send library (engine library depth) safe node
          (receiver :: member :: (xs ++ (elementsOf elements mark ++ zs) ++ passed.toList))
          (block.map .closure))
        fun depth ↦ send library (engine library depth) safe node'
          (receiver :: member :: (xs ++ literal elements mark :: zs ++ passed.toList))
          (block.map .closure) := by
  have hearly (depth : Nat) : Levels True False depth depth :=
    ⟨Or.inl trivial, Or.inr (Nat.le_refl depth)⟩
  have hlate (depth : Nat) : Levels False True (depth + 2) depth :=
    ⟨Or.inr (Nat.le_refl _), Or.inl trivial⟩
  constructor
  · intro site site' depth
    constructor
    · intro hended
      exact sameFrom_array hstart (hearly depth) xs zs elements mark site site' (fun _ ↦ hended) nofun
    · intro hended
      exact sameFrom_array hstart (hlate depth) xs zs elements mark site site' nofun fun _ ↦ hended
  · intro safe node node' receiver member passed block hnode hpassed depth
    constructor
    · intro hended
      exact sameFrom_send hstart (hearly depth) hplain hpassed safe hnode receiver member block
        (fun _ ↦ hended) nofun
    · intro hended
      exact sameFrom_send hstart (hlate depth) hplain hpassed safe hnode receiver member block nofun
        fun _ ↦ hended

/-- The list of one, spread two and three is the list of one, two and three. It is made after the list
that is spread. -/
theorem spread_number_inlined :
    let number (i : Int) : Tree := .node "int" [.leaf (.int i)]
    let inlined := node Host.kernelLibrary (engine Host.kernelLibrary 1) .array default
      ([⟨number 1, .common⟩] ++ (elementsOf [number 2] .common ++ [⟨number 3, .common⟩])) {}
    let spread := node Host.kernelLibrary (engine Host.kernelLibrary 3) .array default
      ([⟨number 1, .common⟩] ++ literal [number 2] .common :: [⟨number 3, .common⟩]) {}
    Machine.SameFrom {} true id inlined spread ∧
      (inlined.1, inlined.2.memory.heap) =
        (.value (.cell 0), #[.list [.ofInt 1, .ofInt 2, .ofInt 3]]) ∧
      (spread.1, spread.2.memory.heap) =
        (.value (.cell 1), #[.list [.ofInt 2], .list [.ofInt 1, .ofInt 2, .ofInt 3]]) := by
  intro number inlined spread
  refine ⟨?_, by rfl, by rfl⟩
  exact ((spread_literal_inlined Host.kernelLibrary _ _ _ _ (by decide) id {}
    (Machine.indifferent_empty false id)).1 default default 1).1 nofun

end Eval

end Treewalk
