import Treewalk.Proofs.Growth
import Treewalk.Proofs.Realm

/-!
Elementary computations, those that evaluation itself makes. They look at memory, give out marks, put
new cells into the heap and fail for reasons of the platform: a value is of the wrong type, too large,
or changed while it was gone through. `Compute.Elementary` is the least property that such steps have
and that sequencing keeps. There is one lemma for each computation, in the order of the modules that
define them, and a property of the steps is one of all of them: elementary computations only add to
memory (`Elementary.additive`), fail for no reason of the interpreter's own (`Elementary.foreign`) and
forge no reference (`Elementary.confined`). So what they give back is new, or they were given it, or
they found it in a cell of the realm; and whatever fails for a reason of the interpreter's own fails
elsewhere: in the evaluator, which knows the node, or in a library.
-/

set_option autoImplicit false
set_option relaxedAutoImplicit false

namespace Treewalk

variable {realm : Realm}

/-- A computation that only adds to memory, however it ends. -/
def Compute.Additive {α : Type} (computation : Compute α) : Prop :=
  ∀ memory : Memory, memory.Extends (computation.run.run memory).2

/-- A computation that never fails for a reason of the interpreter's own. -/
def Compute.Foreign {α : Type} (computation : Compute α) : Prop :=
  ∀ memory cause, (computation.run.run memory).1 = .error cause → cause.kind.isInterpreter = false

/-- A computation that is put together from steps that need no host and change nothing: what they give
back and what they put into new cells is within a realm. -/
inductive Compute.Elementary (realm : Realm) : ∀ {α : Type} [Confinable α], Compute α → Prop
  | pure {α : Type} [Confinable α] {result : α} (hresult : Within realm result) :
    Elementary realm (Pure.pure result : Compute α)
  | throw {α : Type} [Confinable α] {cause : Cause} (hcause : cause.kind.isInterpreter = false) :
    Elementary realm (MonadExcept.throw cause : Compute α)
  | get : Elementary realm (MonadState.get : Compute Memory)
  | mint : Elementary realm Compute.mint
  | allocate {cell : Cell} (hcell : Within realm cell) : Elementary realm (Compute.allocate cell)
  | bind {α β : Type} [Confinable α] [Confinable β] {computation : Compute α} {after : α → Compute β}
    (hfirst : Elementary realm computation)
    (hafter : ∀ result, Within realm result → Elementary realm (after result)) :
    Elementary realm (computation >>= after)

/-! ### Iterations -/

/-- Whether what is left of an iteration is within a realm. -/
def Iteration.IsWithin (realm : Realm) : Iteration → Prop
  | known items => Within realm items
  | reading address _ | queue address _ _ | table address _ _ _ _ => realm.cell address
  | characters _ | steps _ _ _ => True

instance : Confinable Iteration where
  Within := Iteration.IsWithin
  within_of_whole whole iteration := by
    cases iteration with
    | known items => exact within_of_whole whole items
    | reading address _ | queue address _ _ | table address _ _ _ _ => exact whole.cell address
    | characters _ | steps _ _ _ => exact trivial

namespace Iteration

theorem within_step? {items : List Value} (hitems : Within realm items) (place : Nat)
    {after : Iteration} (hafter : Within realm after) :
    Within realm (step? items place after) := by
  intro found hfound
  obtain ⟨item, hitem, rfl⟩ := Option.map_eq_some_iff.mp hfound
  exact ⟨hitems item (List.mem_of_getElem? hitem), hafter⟩

theorem within_ofCell? {address : Nat} (haddress : realm.cell address) (cell : Cell) :
    Within realm (Iteration.ofCell? address cell) := by
  cases cell with
  | object => exact within_none
  | _ => exact within_some.mpr haddress

end Iteration

namespace Compute

variable {α β : Type} [Confinable α] [Confinable β]

omit [Confinable α] [Confinable β] in
/-- Two computations one after the other: what fails is one of them. -/
theorem foreign_bind {computation : Compute α} {after : α → Compute β} (hfirst : Foreign computation)
    (hafter : ∀ result, Foreign (after result)) : Foreign (computation >>= after) := by
  intro memory cause hfailed
  have hrun : (computation >>= after).run.run memory =
      (ExceptT.bindCont after (computation.run.run memory).1).run
        (computation.run.run memory).2 := rfl
  rw [hrun] at hfailed
  rcases heq : computation.run.run memory with ⟨first | result, changed⟩
  · rw [heq] at hfailed
    obtain rfl : first = cause := Except.error.inj hfailed
    exact hfirst memory first (by rw [heq])
  · rw [heq] at hfailed
    exact hafter result changed cause hfailed

namespace Elementary

/-! ### What elementary computations have in common -/

/-- No reference is forged. -/
theorem confined {computation : Compute α} (helementary : Elementary realm computation) :
    Confined realm computation := by
  induction helementary with
  | pure hresult => exact confined_pure hresult
  | throw => exact confined_throw _
  | get => exact confined_get
  | mint => exact confined_mint
  | allocate hcell => exact confined_allocate hcell
  | bind _ _ hfirst hafter => exact confined_bind hfirst hafter

/-- Elementary computations only add to a memory within the realm. -/
theorem extends_of_within {computation : Compute α} (helementary : Elementary realm computation)
    {memory : Memory} (hmemory : Within realm memory) :
    memory.Extends (computation.run.run memory).2 := by
  induction helementary generalizing memory with
  | pure | throw | get => exact .refl memory
  | mint => exact .mint memory
  | allocate => exact .allocate memory _
  | @bind α β _ _ computation after hfirst _ ihfirst ihafter =>
    have hrun : (computation >>= after).run.run memory =
        (ExceptT.bindCont after (computation.run.run memory).1).run
          (computation.run.run memory).2 := rfl
    have hextends := ihfirst hmemory
    obtain ⟨hresult, hkeeps⟩ := hfirst.confined memory hmemory
    rw [hrun]
    rcases heq : computation.run.run memory with ⟨cause | result, changed⟩
    · rw [heq] at hextends
      exact hextends
    · rw [heq] at hextends hresult hkeeps
      exact hextends.trans (ihafter result (hresult result rfl) hkeeps.within)

/-- In a realm that leaves nothing out they only add to memory. -/
theorem additive {computation : Compute α} (helementary : Elementary realm computation)
    (hwhole : realm.Whole) : Additive computation :=
  fun memory ↦ helementary.extends_of_within (within_of_whole hwhole memory)

theorem foreign {computation : Compute α} (helementary : Elementary realm computation)
    (hwhole : realm.Whole) : Foreign computation := by
  induction helementary with
  | pure | get | mint | allocate => exact fun _ _ hfailed ↦ nomatch hfailed
  | throw hcause =>
    rintro _ _ ⟨⟩
    exact hcause
  | bind _ _ hfirst hafter =>
    exact foreign_bind hfirst fun result ↦ hafter result (within_of_whole hwhole result)

/-! ### Steps -/

theorem refuse {kind : Kind} (hkind : kind.isInterpreter = false) :
    Elementary realm (Compute.refuse kind : Compute α) :=
  throw hkind

omit [Confinable α] in
theorem mapM {step : α → Compute β} {items : List α}
    (hstep : ∀ item ∈ items, Elementary realm (step item)) : Elementary realm (items.mapM step) := by
  induction items with
  | nil => exact pure within_nil
  | cons item rest ih =>
    rw [List.mapM_cons]
    refine bind (hstep item List.mem_cons_self) fun first hfirst ↦ ?_
    refine bind (ih fun other hother ↦ hstep other (List.mem_cons_of_mem item hother))
      fun others hothers ↦ ?_
    exact pure (within_cons hfirst hothers)

theorem view (value : Value) : Elementary realm (Compute.view value) :=
  bind get fun _ _ ↦ pure trivial

theorem key (value : Value) : Elementary realm (Compute.key value) := by
  unfold Compute.key
  refine bind get fun memory _ ↦ ?_
  split
  · exact pure trivial
  · exact refuse rfl

theorem cell? {value : Value} (hvalue : Within realm value) :
    Elementary realm (Compute.cell? value) :=
  bind get fun _ hmemory ↦ pure (within_cell? hmemory hvalue)

/-! ### New values -/

theorem newList {items : List Value} (hitems : Within realm items) :
    Elementary realm (Compute.newList items) :=
  allocate hitems

theorem newTable {entries : Table} (hentries : Within realm entries) :
    Elementary realm (Compute.newTable entries) :=
  allocate hentries

theorem newInt (i : Int) : Elementary realm (Compute.newInt i) := by
  unfold Compute.newInt
  split
  · exact pure trivial
  · exact bind mint fun _ _ ↦ pure trivial

theorem newCount (n : Nat) : Elementary realm (Compute.newCount n) := newInt _

theorem newFloat (x : Binary64) : Elementary realm (Compute.newFloat x) :=
  bind mint fun _ _ ↦ pure trivial

theorem newNumber (number : Number) : Elementary realm (Compute.newNumber number) := by
  cases number with
  | int i => exact newInt i
  | float x => exact newFloat x

theorem newText (s : String) : Elementary realm (Compute.newText s) := by
  unfold Compute.newText
  split
  · exact pure trivial
  · exact bind mint fun _ _ ↦ pure trivial

theorem newPart (s : String) : Elementary realm (Compute.newPart s) := by
  unfold Compute.newPart
  split
  · exact pure trivial
  · exact bind mint fun _ _ ↦ pure trivial

theorem newSymbol (s : String) : Elementary realm (Compute.newSymbol s) :=
  bind mint fun _ _ ↦ pure trivial

theorem newTuple {items : List Value} (hitems : Within realm items) :
    Elementary realm (Compute.newTuple items) := by
  unfold Compute.newTuple
  split
  · exact pure trivial
  · exact bind mint fun _ _ ↦ pure (within_tuple.mpr hitems)

theorem newBytes (data : List UInt8) : Elementary realm (Compute.newBytes data) :=
  bind mint fun _ _ ↦ pure trivial

theorem newBytePart (data : List UInt8) : Elementary realm (Compute.newBytePart data) := by
  unfold Compute.newBytePart
  split
  · exact pure trivial
  · exact newBytes data

theorem newRange {first last : Value} (hfirst : Within realm first) (hlast : Within realm last)
    (exclusive : Bool) : Elementary realm (Compute.newRange first last exclusive) :=
  bind mint fun _ _ ↦ pure ⟨hfirst, hlast⟩

theorem newProgression (start stop step : Int) :
    Elementary realm (Compute.newProgression start stop step) :=
  bind mint fun _ _ ↦ pure trivial

theorem newMethod {receiver : Value} (hreceiver : Within realm receiver) (name : String) :
    Elementary realm (Compute.newMethod receiver name) :=
  bind mint fun _ _ ↦ pure hreceiver

/-! ### Values as text -/

theorem ofPrinted (printed : Except Flaw String) : Elementary realm (Compute.ofPrinted printed) := by
  rcases printed with flaw | s
  · exact refuse flaw.isInterpreter_kind
  · exact pure trivial

theorem plain (value : Value) : Elementary realm (Compute.plain value) :=
  bind (view value) fun _ _ ↦ ofPrinted _

theorem asText (value : Value) : Elementary realm (Compute.asText value) := by
  unfold Compute.asText
  split
  · exact pure trivial
  · exact pure trivial
  · exact bind (plain _) fun s _ ↦ newText s

theorem interpolated (value : Value) : Elementary realm (Compute.interpolated value) := by
  unfold Compute.interpolated
  split
  · exact pure trivial
  · exact pure trivial
  · exact asText _

theorem joined (texts : List Value) : Elementary realm (Compute.joined texts) := by
  unfold Compute.joined
  split
  · exact asText _
  · exact newText _

mutual

theorem spelled (mark : Mark) (tree : Tree) : Elementary realm (tree.spelled mark) := by
  match tree with
  | .leaf (.symbol s) => exact newText s
  | .leaf .null | .leaf (.bool _) | .leaf (.int _) | .leaf (.float _) | .leaf (.text _) =>
    exact pure (within_scalar _ _)
  | .node tag children =>
    unfold Tree.spelled
    refine bind (spelledAll mark 0 children) fun items hitems ↦ ?_
    exact newList (within_cons (within_scalar mark.tag (.text tag)) hitems)

theorem spelledAll (mark : Mark) (place : Nat) (trees : List Tree) :
    Elementary realm (Tree.spelledAll mark place trees) := by
  match trees with
  | [] => exact pure within_nil
  | tree :: rest =>
    unfold Tree.spelledAll
    refine bind (spelled _ tree) fun first hfirst ↦ ?_
    refine bind (spelledAll mark _ rest) fun others hothers ↦ ?_
    exact pure (within_cons hfirst hothers)

end

/-! ### Going through a value at once -/

theorem characters (s : String) : Elementary realm (Value.characters s) :=
  mapM fun _ _ ↦ newPart _

theorem progressionItems (start stop step : Int) :
    Elementary realm (Value.progressionItems start stop step) := by
  unfold Value.progressionItems
  split
  · exact mapM fun i _ ↦ newInt i
  · exact refuse rfl

theorem rangeBounds (first last : Value) (exclusive : Bool) :
    Elementary realm (Value.rangeBounds first last exclusive) := by
  unfold Value.rangeBounds
  split
  · exact pure ⟨trivial, trivial⟩
  · exact bind get fun _ _ ↦ throw rfl

theorem enumerate (first last : Value) (exclusive : Bool) :
    Elementary realm (Value.enumerate first last exclusive) :=
  bind (rangeBounds first last exclusive) fun _ _ ↦ progressionItems _ _ _

theorem items {value : Value} (hvalue : Within realm value) : Elementary realm value.items := by
  unfold Value.items
  split
  · exact characters _
  · exact characters _
  · exact pure (within_tuple.mp hvalue)
  · exact enumerate _ _ _
  · exact pure (within_byteItems _)
  · exact progressionItems _ _ _
  · exact pure (within_childrenOf _ _)
  · refine bind (cell? hvalue) fun found hfound ↦ ?_
    split
    · exact pure (hfound _ rfl)
    · exact pure (within_names (hfound _ rfl))
    · exact pure (hfound _ rfl)
    · exact pure (within_byteItems _)
    · exact refuse rfl

theorem sequence? {value : Value} (hvalue : Within realm value) :
    Elementary realm value.sequence? := by
  unfold Value.sequence?
  split
  · exact pure (within_some.mpr (within_tuple.mp hvalue))
  · exact bind (progressionItems _ _ _) fun _ hitems ↦ pure (within_some.mpr hitems)
  · refine bind (cell? hvalue) fun found hfound ↦ ?_
    split
    · exact pure (within_some.mpr (hfound _ rfl))
    · exact pure (within_some.mpr (hfound _ rfl))
    · exact pure within_none

theorem pairLists {table : Table} (htable : Within realm table) :
    Elementary realm (Value.pairLists table) := by
  induction table with
  | nil => exact pure within_nil
  | cons entry rest ih =>
    obtain ⟨hname, hitem⟩ := within_head htable
    refine bind (newList (within_cons hname (within_singleton hitem))) fun first hfirst ↦ ?_
    exact bind (ih (within_tail htable)) fun others hothers ↦ pure (within_cons hfirst hothers)

theorem spread {value : Value} (hvalue : Within realm value) : Elementary realm value.spread := by
  unfold Value.spread
  split
  · exact pure within_nil
  · exact enumerate _ _ _
  · refine bind (sequence? hvalue) fun items hitems ↦ ?_
    split
    · exact pure (within_some.mp hitems)
    · refine bind (cell? hvalue) fun found hfound ↦ ?_
      split
      · exact pairLists (hfound _ rfl)
      · exact pure (within_singleton hvalue)

theorem toSequence {value : Value} (hvalue : Within realm value) :
    Elementary realm value.toSequence := by
  refine bind (sequence? hvalue) fun items hitems ↦ ?_
  split
  · exact pure (within_some.mp hitems)
  · exact pure (within_singleton hvalue)

/-! ### Going through a value item by item -/

theorem nextName {address : Nat} (haddress : realm.cell address) (place size left seen : Nat)
    {entries : Table} (hentries : Within realm entries) (removals : List Nat) :
    Elementary realm (Iteration.nextName address place size left seen entries removals) := by
  unfold Iteration.nextName
  split
  · exact refuse rfl
  · dsimp only
    split
    · exact pure within_none
    · next entry hentry =>
      have hname := (hentries entry (List.mem_of_getElem? hentry)).1
      split
      · exact refuse rfl
      · exact pure (within_some.mpr ⟨hname, haddress⟩)

theorem next {iteration : Iteration} (hiteration : Within realm iteration) :
    Elementary realm iteration.next := by
  match iteration with
  | .known [] | .characters [] | .steps _ _ 0 => exact pure within_none
  | .known (item :: rest) =>
    exact pure (within_some.mpr ⟨within_head hiteration, within_tail hiteration⟩)
  | .characters (c :: rest) =>
    exact bind (newPart _) fun _ hitem ↦ pure (within_some.mpr ⟨hitem, trivial⟩)
  | .steps value step (left + 1) =>
    exact bind (newInt _) fun _ hitem ↦ pure (within_some.mpr ⟨hitem, trivial⟩)
  | .reading address place =>
    refine bind (cell? hiteration) fun found hfound ↦ ?_
    split
    · exact pure (Iteration.within_step? (hfound _ rfl) _ hiteration)
    · exact pure (Iteration.within_step? (within_byteItems _) _ hiteration)
    · exact pure within_none
  | .queue address place revision =>
    refine bind (cell? hiteration) fun found hfound ↦ ?_
    split
    · split
      · exact pure (Iteration.within_step? (hfound _ rfl) _ hiteration)
      · exact refuse rfl
    · exact pure within_none
  | .table address place size left seen =>
    refine bind (cell? hiteration) fun found hfound ↦ ?_
    split
    · exact nextName hiteration _ _ _ _ (hfound _ rfl) _
    · exact pure within_none

theorem take (count : Nat) {iteration : Iteration} (hiteration : Within realm iteration) :
    Elementary realm (iteration.take count) := by
  induction count generalizing iteration with
  | zero => exact pure within_nil
  | succ count ih =>
    refine bind (next hiteration) fun found hfound ↦ ?_
    split
    · exact pure within_nil
    · obtain ⟨hitem, hrest⟩ := within_some.mp hfound
      exact bind (ih hrest) fun others hothers ↦ pure (within_cons hitem hothers)

theorem iteration {value : Value} (hvalue : Within realm value) :
    Elementary realm value.iteration := by
  unfold Value.iteration
  split
  · exact pure trivial
  · exact pure trivial
  · exact pure (within_tuple.mp hvalue)
  · exact bind (rangeBounds _ _ _) fun _ _ ↦ pure trivial
  · exact pure (within_byteItems _)
  · exact pure trivial
  · exact pure (within_childrenOf _ _)
  · refine bind (cell? hvalue) fun found _ ↦ ?_
    split
    · next started hstarted =>
      obtain ⟨cell, -, hcell⟩ := Option.bind_eq_some_iff.mp hstarted
      exact pure (Iteration.within_ofCell? hvalue cell started hcell)
    · exact refuse rfl
  · exact refuse rfl

theorem pair {value : Value} (hvalue : Within realm value) : Elementary realm value.pair := by
  refine bind (iteration hvalue) fun iteration hiteration ↦ ?_
  refine bind (take 3 hiteration) fun items hitems ↦ ?_
  split
  · exact pure ⟨within_head hitems, within_head (within_tail hitems)⟩
  · exact refuse rfl

/-! ### Names of table entries -/

theorem convertAll {convert : Value → Compute (Except String Value)}
    (hconvert : ∀ item, Within realm item → Elementary realm (convert item)) {items : List Value}
    (hitems : Within realm items) : Elementary realm (Eval.convertAll convert items) := by
  induction items with
  | nil => exact pure fun _ heq ↦ Except.ok.inj heq ▸ within_nil
  | cons item rest ih =>
    refine bind (hconvert item (within_head hitems)) fun first hfirst ↦ ?_
    split
    · exact pure nofun
    · refine bind (ih (within_tail hitems)) fun others hothers ↦ ?_
      split
      · exact pure nofun
      · refine pure fun _ heq ↦ Except.ok.inj heq ▸ ?_
        exact within_cons (hfirst _ rfl) (hothers _ rfl)

theorem plainName {name : Value} (hname : Within realm name) :
    Elementary realm (Eval.plainName name) := by
  refine bind get fun memory _ ↦ ?_
  split
  · exact pure fun _ heq ↦ Except.ok.inj heq ▸ hname
  · exact pure nofun

theorem entryName {atCell : Nat → Compute (Except String Value)}
    (hcell : ∀ address, Within realm (Value.cell address) → Elementary realm (atCell address))
    {name : Value} (hname : Within realm name) : Elementary realm (Eval.entryName atCell name) := by
  cases name with
  | cell address => exact hcell address hname
  | _ => exact plainName hname

theorem cellName {memory : Memory} (hmemory : Within realm memory)
    {atCell : Nat → Compute (Except String Value)}
    (hcell : ∀ address, Within realm (Value.cell address) → Elementary realm (atCell address))
    {address : Nat} (haddress : Within realm (Value.cell address)) :
    Elementary realm (Eval.cellName memory atCell address) := by
  unfold Eval.cellName
  split
  · next items hitems =>
    refine bind (convertAll (fun item ↦ entryName hcell) (hmemory.cells address haddress _ hitems))
      fun names hnames ↦ ?_
    split
    · exact pure nofun
    · exact bind (newTuple (hnames _ rfl)) fun tuple htuple ↦
        pure fun _ heq ↦ Except.ok.inj heq ▸ htuple
  · exact plainName haddress

theorem keyName {found : Except String Value} (hfound : Within realm found) :
    Elementary realm (Eval.keyName found) := by
  cases found with
  | error kind => exact pure nofun
  | ok plain =>
    refine bind get fun memory _ ↦ ?_
    split
    · exact pure nofun
    · exact pure fun _ heq ↦ Except.ok.inj heq ▸ ⟨hfound _ rfl, trivial⟩

theorem entryKey {name : Value} (hname : Within realm name) :
    Elementary realm (Eval.entryKey name) := by
  refine bind get fun memory hmemory ↦ ?_
  have hstop : Elementary realm (Compute.refuse .recursion : Compute (Except String Value)) :=
    refuse rfl
  have hcell := follow_of_step
    (fun address name ↦ Within realm (Value.cell address) → Elementary realm name)
    (fun _ _ ↦ hstop) (fun _ hbelow _ ↦ cellName hmemory hbelow) (memory.heap.size + 1) []
  exact bind (entryName hcell hname) fun _ ↦ keyName

end Elementary

end Compute

end Treewalk
