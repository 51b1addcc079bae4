import Treewalk.Proofs.Lockstep
import Treewalk.Proofs.Parameters

/-!
Writing through one chain and reading through another. Two chains may share frames, as those do that
different blocks have captured, so that a write through one of them can be seen through the other. What
decides it is the nearest holder (`Frames.Nearest`): reading gives what the nearest frame of the chain
that holds the name has bound it to, and writing goes to the nearest holder of its own chain, or to the
innermost frame where none holds the name (`Frames.Receives`).

A write is therefore read back through another chain exactly when the frame that received it is, after
the write, the nearest holder there (`Frames.find?_bind`). That may be so because the frame held the
name before, or because it holds it for the first time now, and then the write newly defines the name
for the reader, or newly shadows another holder. The whole law is `Frames.write_then_read`.
-/

set_option autoImplicit false
set_option relaxedAutoImplicit false

namespace Treewalk

namespace Frames

/-- The nearest frame of a chain that holds a name: none of the frames further in does. -/
def Nearest (frames : Frames) (key : Key) (chain : Chain) (number : Nat) : Prop :=
  ∃ inner outer, chain = inner ++ number :: outer ∧ (frames.frame number).has key = true ∧
    ∀ other ∈ inner, (frames.frame other).has key = false

/-- The frame of a chain that a write to a name goes to: the nearest holder, and where no frame of the
chain holds the name, the innermost frame. -/
def Receives (frames : Frames) (key : Key) (chain : Chain) (number : Nat) : Prop :=
  frames.Nearest key chain number ∨
    chain.head? = some number ∧ ∀ other ∈ chain, (frames.frame other).has key = false

section

variable {frames : Frames} {key : Key} {chain : Chain} {number : Nat}

/-- The search for a holder finds the nearest one. -/
theorem holder?_eq_some_iff : frames.holder? key chain = some number ↔
    frames.Nearest key chain number := by
  induction chain with
  | nil =>
    refine ⟨nofun, ?_⟩
    rintro ⟨inner, outer, hchain, -⟩
    exact absurd hchain (List.append_ne_nil_of_right_ne_nil _ (List.cons_ne_nil _ _)).symm
  | cons first rest ih =>
    rw [holder?]
    by_cases hfirst : (frames.frame first).has key = true
    · rw [if_pos hfirst]
      constructor
      · rintro ⟨⟩
        exact ⟨[], rest, rfl, hfirst, fun _ hother ↦ absurd hother List.not_mem_nil⟩
      · rintro ⟨inner, outer, hchain, -, hnone⟩
        cases inner with
        | nil => exact congrArg some (List.cons.inj hchain).1
        | cons nearer inner =>
          obtain ⟨rfl, -⟩ := List.cons.inj hchain
          rw [hnone first List.mem_cons_self] at hfirst
          cases hfirst
    · rw [if_neg hfirst, ih]
      constructor
      · rintro ⟨inner, outer, rfl, hholds, hnone⟩
        exact ⟨first :: inner, outer, rfl, hholds,
          List.forall_mem_cons.mpr ⟨Bool.eq_false_iff.mpr hfirst, hnone⟩⟩
      · rintro ⟨inner, outer, hchain, hholds, hnone⟩
        cases inner with
        | nil =>
          obtain ⟨rfl, -⟩ := List.cons.inj hchain
          exact absurd hholds hfirst
        | cons nearer inner =>
          obtain ⟨-, rfl⟩ := List.cons.inj hchain
          exact ⟨inner, outer, rfl, hholds, (List.forall_mem_cons.mp hnone).2⟩

theorem holder?_eq_none_iff : frames.holder? key chain = none ↔
    ∀ other ∈ chain, (frames.frame other).has key = false := by
  induction chain with
  | nil => exact ⟨fun _ _ hother ↦ absurd hother List.not_mem_nil, fun _ ↦ rfl⟩
  | cons first rest ih =>
    rw [holder?, List.forall_mem_cons, ← ih]
    by_cases hfirst : (frames.frame first).has key = true
    · rw [if_pos hfirst, hfirst]
      simp only [reduceCtorEq, false_and]
    · rw [if_neg hfirst, Bool.eq_false_iff.mpr hfirst]
      simp only [true_and]

/-- Writing goes to the frame that receives the name. -/
theorem target?_eq_some_iff : frames.target? key chain = some number ↔
    frames.Receives key chain number := by
  rw [target?, Receives, ← holder?_eq_some_iff, ← holder?_eq_none_iff]
  cases frames.holder? key chain with
  | some holder => simp only [reduceCtorEq, and_false, or_false]
  | none => simp only [reduceCtorEq, false_or, and_true]

end

section

variable {frames : Frames} {name : Name} {value : Value} {number : Nat}

/-- Reading through a chain after a write to one frame: the induction goes along the chain, and the two
searches, for the name and for its holder, stop at the same frame. -/
theorem find?_bind (hnumber : number < frames.size) (key : Key) (chain : Chain) :
    (frames.bind number name value).find? key chain =
      if key = name.key ∧ (frames.bind number name value).holder? name.key chain = some number then
        some value
      else frames.find? key chain := by
  by_cases hkey : key = name.key
  · subst hkey
    simp only [true_and]
    induction chain with
    | nil => rfl
    | cons first rest ih =>
      by_cases hfirst : number = first
      · subst hfirst
        have hfound : ((frames.bind number name value).frame number).find? name.key = some value :=
          find?_frame_bind_self hnumber
        have hholder : (frames.bind number name value).holder? name.key (number :: rest) =
            some number := by
          rw [holder?, Table.has, hfound]
          rfl
        rw [if_pos hholder, find?, hfound]
      · rw [find?, find?, holder?, frame_bind_of_ne hfirst, Table.has]
        cases (frames.frame first).find? name.key with
        | some found =>
          simp only [Option.isSome_some, if_true, Option.some.injEq, Ne.symm hfirst, if_false]
        | none => simpa only [Option.isSome_none, Bool.false_eq_true, if_false] using ih
  · rw [find?_bind_of_ne frames number value (Ne.symm hkey),
      if_neg fun hboth ↦ hkey hboth.1]

/-- In no frame but the one that it goes to does a write change a binding, and there only its own. -/
theorem find?_frame_bind_of_other {other : Nat} {key : Key}
    (hother : ¬ (other = number ∧ key = name.key)) :
    ((frames.bind number name value).frame other).find? key = (frames.frame other).find? key := by
  by_cases hkey : name.key = key
  · have hnumber : number ≠ other := fun heq ↦ hother ⟨heq.symm, hkey.symm⟩
    rw [frame_bind_of_ne hnumber]
  · exact find?_frame_bind_of_ne frames number other value hkey

/-- A frame that held the name keeps its names in their order. -/
theorem binders_frame_bind {other : Nat} (hholds : (frames.frame other).has name.key = true) :
    ((frames.bind number name value).frame other).binders = (frames.frame other).binders := by
  rw [frame_bind]
  split
  · next hwritten =>
    obtain ⟨rfl, -⟩ := hwritten
    exact Table.binders_insert_of_has hholds _ _
  · rfl

end

/-- The evaluator writes a variable in the way in which a chain is written through. -/
theorem run_write_of_set? {space : Space} {name : Name} {value : Value} {machine : Machine}
    {after : Frames}
    (hset : machine.frames.set? (machine.evaluator.chain space) name value = some after) :
    Run.write space name value machine =
      (.value (), Machine.noted (.write space name value) { machine with frames := after }) := by
  unfold set? at hset
  obtain ⟨number, htarget, rfl⟩ := Option.map_eq_some_iff.mp hset
  unfold Run.write
  rw [htarget]
  rfl

/-- The law of writing and reading with shared frames. A write through a chain of frames that are there
binds the name in its nearest holder, or else in the innermost frame. Through any other chain the name
then reads as the value if the frame written is the nearest holder there by now; else, and for every
other name, reading gives what it gave before. No other binding of any frame changes, and where the name
was held before all names keep their order. The evaluator's own writes are such writes. -/
theorem write_then_read (frames : Frames) {writer : Chain} (hwriter : writer ≠ [])
    (hthere : ∀ number ∈ writer, number < frames.size) (name : Name) (value : Value) :
    ∃ number after, frames.set? writer name value = some after ∧
      frames.Receives name.key writer number ∧
      (after.frame number).find? name.key = some value ∧
      (∀ (reader : Chain) (other : Name),
        (other.key = name.key → after.Nearest name.key reader number →
          after.find? other.key reader = some value) ∧
        (¬ (other.key = name.key ∧ after.Nearest name.key reader number) →
          after.find? other.key reader = frames.find? other.key reader)) ∧
      (∀ (other : Nat) (key : Key), ¬ (other = number ∧ key = name.key) →
        (after.frame other).find? key = (frames.frame other).find? key) ∧
      (∀ other, (frames.frame other).has name.key = true →
        (after.frame other).binders = (frames.frame other).binders) ∧
      ∀ (machine : Machine) (space : Space), machine.frames = frames →
        machine.evaluator.chain space = writer →
          Run.write space name value machine =
            (.value (), Machine.noted (.write space name value) { machine with frames := after }) := by
  obtain ⟨number, htarget⟩ := Option.ne_none_iff_exists'.mp (frames.target?_ne_none name.key hwriter)
  have hnumber : number < frames.size := hthere number (mem_of_target? htarget)
  have hset : frames.set? writer name value = some (frames.bind number name value) :=
    congrArg (Option.map fun number ↦ frames.bind number name value) htarget
  refine ⟨number, frames.bind number name value, hset, target?_eq_some_iff.mp htarget,
    find?_frame_bind_self hnumber, ?_, fun _ _ hother ↦ find?_frame_bind_of_other hother,
    fun _ hholds ↦ binders_frame_bind hholds, ?_⟩
  · intro reader other
    rw [find?_bind hnumber, ← holder?_eq_some_iff]
    exact ⟨fun hkey hnearest ↦ if_pos ⟨hkey, hnearest⟩, fun hother ↦ if_neg hother⟩
  · rintro machine space rfl rfl
    exact run_write_of_set? hset

/-- Two frames, the outer of which holds a name; a first write of the name through the inner frame alone
shadows it for whoever reads through both. -/
theorem first_write_shadows :
    let name := Name.ofText "x"
    let frames : Frames := #[[⟨name.key, name.value, .ofInt 1⟩], []]
    ([1] : Chain) ≠ [] ∧ (∀ number ∈ ([1] : Chain), number < frames.size) ∧
      ∃ after, frames.set? [1] name (.ofInt 2) = some after ∧
        frames.find? name.key [1, 0] = some (.ofInt 1) ∧
        after.find? name.key [1, 0] = some (.ofInt 2) ∧
        after.find? name.key [0] = some (.ofInt 1) := by
  intro name frames
  have hwriter : ([1] : Chain) ≠ [] := List.cons_ne_nil _ _
  have hthere : ∀ number ∈ ([1] : Chain), number < frames.size := by simp [frames]
  obtain ⟨number, after, hset, hreceives, -, hread, -⟩ :=
    frames.write_then_read hwriter hthere name (.ofInt 2)
  have htarget : frames.target? name.key [1] = some 1 := rfl
  obtain rfl : 1 = number :=
    Option.some.inj (htarget.symm.trans (target?_eq_some_iff.mpr hreceives))
  have hafter : frames.set? [1] name (.ofInt 2) = some (frames.bind 1 name (.ofInt 2)) := rfl
  obtain rfl : frames.bind 1 name (.ofInt 2) = after := Option.some.inj (hafter.symm.trans hset)
  refine ⟨hwriter, hthere, _, hset, rfl, ?_, ?_⟩
  · exact (hread [1, 0] name).1 rfl (holder?_eq_some_iff.mp rfl)
  · refine (hread [0] name).2 fun hboth ↦ ?_
    cases holder?_eq_some_iff.mpr hboth.2

end Frames

end Treewalk
