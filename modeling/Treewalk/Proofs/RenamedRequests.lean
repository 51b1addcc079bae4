import Treewalk.Proofs.Twins

/-!
Requests for the interpreter itself on machines that are numbered differently. A block captured the
corresponding frames on both sides, so that whoever reaches through it comes by the corresponding
things: what comes of a request is the same under other numbers (`Comparison.Twins.answer`), and what it
changes leaves twins (`Comparison.Twins.affected`). The local chain of the evaluator is not asked for,
and need not correspond.
-/

set_option autoImplicit false
set_option relaxedAutoImplicit false

namespace Treewalk

variable {numbering : Numbering}

/-! ### Effects and answers -/

/-- A name with the addresses in it renamed. -/
def Name.renamed (numbering : Numbering) (name : Name) : Name where
  key := rename numbering name.key
  value := rename numbering name.value
  text := name.text

/-- What a request changes, under other numbers. -/
def Effect.renamed (numbering : Numbering) : Effect → Effect
  | nothing => nothing
  | bind number name value =>
    bind (numbering.frame number) (name.renamed numbering) (rename numbering value)
  | unbind number key => unbind (numbering.frame number) (rename numbering key)
  | seat context => seat (rename numbering context)
  | handle tag handler => handle tag (rename numbering handler)

instance : Renamable Effect := ⟨Effect.renamed⟩

/-- What comes of a request, under other numbers. -/
def Answer.renamed (numbering : Numbering) : Answer → Answer
  | missing => missing
  | found value effect => found (rename numbering value) (rename numbering effect)
  | refused cause => refused (rename numbering cause)

instance : Renamable Answer := ⟨Answer.renamed⟩

/-- The frames of a block are known by their places, and have no numbers in them. -/
theorem rename_places (index : Nat) (places : List Nat) :
    rename numbering (places.map fun place ↦ Value.inner index (.frame place)) =
      places.map fun place ↦ Value.inner index (.frame place) :=
  List.map_map

/-! ### Twins -/

namespace Comparison.Twins

variable {comparison : Comparison} {inScope : Bool} {left right : Machine}
  (htwins : comparison.Twins inScope left right)

include htwins

theorem captured (index : Nat) :
    right.captured index = (left.captured index).map comparison.numbering.frame := by
  unfold Machine.captured
  rw [htwins.mirrors.closure?]
  match left.memory.closure? index with
  | some (.block parameters body chain) => exact List.map_reverse.symm
  | some (.symbolProc name node) => rfl
  | none => rfl

theorem readBlock (index : Nat) (name : String) :
    right.readBlock index name = rename comparison.numbering (left.readBlock index name) := by
  unfold Machine.readBlock
  split
  · rw [htwins.captured, List.length_map]
    change _ = Answer.found (rename _ (Value.tuple _ _)) _
    rw [Value.rename_tuple, rename_places]
    rfl
  · rfl
  · rfl

theorem readInner (index : Nat) (part : Inner) (name : String) :
    right.readInner index part name =
      rename comparison.numbering (left.readInner index part name) := by
  unfold Machine.readInner
  split
  · exact congrArg (Answer.found · .nothing) htwins.context
  · rfl
  · rfl
  · rfl
  · rfl
  · rfl
  · rfl
  · rw [htwins.samePolicy]
    match left.evaluator.policy.lists with
    | none | some none | some (some _) => rfl
  · rfl

theorem fetch (wanted : Value) :
    right.fetch (rename comparison.numbering wanted) =
      rename comparison.numbering (left.fetch wanted) := by
  unfold Machine.fetch
  rw [htwins.mirrors.key?, htwins.mirrors.view, Datum.plain_rename, htwins.globals]
  cases left.memory.key? wanted with
  | none => rfl
  | some key =>
    simp only [rename_some, Frames.find?_renamed htwins.frames]
    cases left.frames.find? key left.evaluator.globals with
    | some found => rfl
    | none => cases (left.memory.view wanted).plain <;> rfl

theorem peek (index place : Nat) (wanted : Value) {effect : Nat → Key → Effect}
    (heffect : ∀ number key, effect (comparison.numbering.frame number)
      (rename comparison.numbering key) = rename comparison.numbering (effect number key)) :
    right.peek index place (rename comparison.numbering wanted) effect =
      rename comparison.numbering (left.peek index place wanted effect) := by
  unfold Machine.peek
  rw [htwins.captured, htwins.mirrors.key?, List.getElem?_map]
  rcases (left.captured index)[place]? with _ | number
  · rfl
  · rcases left.memory.key? wanted with _ | key
    · rfl
    · simp only [Option.map_some, rename_some, htwins.frames, Table.find?_rename]
      cases (left.frames.frame number).find? key with
      | none => rfl
      | some found => exact congrArg (Answer.found _) (heffect number key)

theorem poke (index place : Nat) (wanted value : Value) :
    right.poke index place (rename comparison.numbering wanted) (rename comparison.numbering value) =
      rename comparison.numbering (left.poke index place wanted value) := by
  unfold Machine.poke
  rw [htwins.captured, htwins.mirrors.key?, List.getElem?_map]
  rcases (left.captured index)[place]? with _ | number
  · rfl
  · cases left.memory.key? wanted <;> rfl

omit htwins in
theorem handle (tag handler : Value) :
    Machine.handle (rename numbering tag) (rename numbering handler) =
      rename numbering (Machine.handle tag handler) := by
  unfold Machine.handle
  rw [Value.text?_rename]
  split
  · split <;> rfl
  · rfl

theorem sendInner (index : Nat) (part : Inner) (name : String) (arguments : List Value) :
    right.sendInner index part name (rename comparison.numbering arguments) =
      rename comparison.numbering (left.sendInner index part name arguments) := by
  rcases arguments with _ | ⟨first, _ | ⟨second, _ | ⟨third, rest⟩⟩⟩
  · cases part <;> rfl
  · cases part with
    | globals =>
      simp only [Machine.sendInner, rename_cons, rename_nil]
      split
      · exact htwins.fetch first
      · rfl
    | frame place =>
      simp only [Machine.sendInner, rename_cons, rename_nil]
      split
      · exact htwins.peek index place first fun _ _ ↦ rfl
      · split
        · exact htwins.peek index place first fun _ _ ↦ rfl
        · rfl
    | _ => rfl
  · cases part with
    | evaluator =>
      simp only [Machine.sendInner, rename_cons, rename_nil, Value.text?_rename]
      split <;> rfl
    | frame place =>
      simp only [Machine.sendInner, rename_cons, rename_nil]
      split
      · exact htwins.poke index place first second
      · rfl
    | handlers =>
      simp only [Machine.sendInner, rename_cons, rename_nil]
      split
      · exact handle first second
      · rfl
    | _ => rfl
  · cases part <;> rfl

/-- What comes of a request is the same on both sides. -/
theorem answer (receiver : Value) (name : String) (arguments : Option (List Value)) :
    right.answer (rename comparison.numbering receiver) name
        (rename comparison.numbering arguments) =
      rename comparison.numbering (left.answer receiver name arguments) := by
  cases receiver with
  | closure index =>
    cases arguments with
    | none => exact htwins.readBlock index name
    | some given => rfl
  | inner index part =>
    cases arguments with
    | none => exact htwins.readInner index part name
    | some given => exact htwins.sendInner index part name given
  | tuple items mark =>
    rw [Value.rename_tuple]
    rfl
  | _ => rfl

/-- And what it changes leaves twins. -/
theorem affected (effect : Effect) :
    comparison.Twins inScope (left.affected effect)
      (right.affected (rename comparison.numbering effect)) := by
  cases effect with
  | nothing => exact htwins
  | bind number name value => exact htwins.written rfl rfl number value
  | unbind number key => exact htwins.removed number key
  | seat context => exact { htwins with context := rfl }
  | handle tag handler =>
    exact { htwins with handlers := congrArg (_ :: ·) htwins.handlers }

end Comparison.Twins

end Treewalk
