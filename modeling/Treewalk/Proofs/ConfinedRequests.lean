import Treewalk.Proofs.Evolution
import Treewalk.Proofs.Realm

/-!
Requests for the interpreter itself within a realm. A block of a realm captured frames of the realm, so
that whoever reaches through it comes by nothing else: the value that is found, the frame that is
written in, the context and the handler that are put in place are all within the realm
(`Machine.within_answer`). And what comes of a request depends on nothing but the realm, if the policy
is not asked what it lists (`Machine.answer_congr`).
-/

set_option autoImplicit false
set_option relaxedAutoImplicit false

namespace Treewalk

variable {realm : Realm}

/-! ### Effects and answers -/

/-- Whether an effect concerns only things of a realm. -/
def Effect.IsWithin (realm : Realm) : Effect → Prop
  | nothing => True
  | bind number name value => realm.frame number ∧ Within realm name.value ∧ Within realm value
  | unbind number _ => realm.frame number
  | seat context => Within realm context
  | handle _ handler => Within realm handler

instance : Confinable Effect where
  Within := Effect.IsWithin
  within_of_whole whole effect := by
    cases effect with
    | nothing => exact trivial
    | bind number name value =>
      exact ⟨whole.frame number, within_of_whole whole _, within_of_whole whole _⟩
    | unbind number key => exact whole.frame number
    | seat context => exact within_of_whole whole context
    | handle tag handler => exact within_of_whole whole handler

/-- Whether what comes of a request is within a realm. -/
def Answer.IsWithin (realm : Realm) : Answer → Prop
  | missing | refused _ => True
  | found value effect => Within realm value ∧ Within realm effect

instance : Confinable Answer where
  Within := Answer.IsWithin
  within_of_whole whole answer := by
    cases answer with
    | found value effect => exact ⟨within_of_whole whole value, within_of_whole whole effect⟩
    | _ => exact trivial

/-! ### Machines -/

/-- A machine whose memory, context, global variables and frames of the realm are within it. -/
structure Machine.Confines (machine : Machine) (realm : Realm) : Prop where
  memory : Within realm machine.memory
  context : Within realm machine.evaluator.context
  globals : ∀ number ∈ machine.evaluator.globals, realm.frame number
  bound : ∀ number, realm.frame number → Within realm (machine.frames.frame number)

/-- Where the frames of a chain agree, the same is found along it. -/
theorem Frames.find?_congr {frames other : Frames} {chain : Chain}
    (hagree : ∀ number ∈ chain, other.frame number = frames.frame number)
    (key : Key) : other.find? key chain = frames.find? key chain := by
  induction chain with
  | nil => rfl
  | cons first outer ih =>
    rw [find?, find?, hagree first List.mem_cons_self,
      ih fun number hnumber ↦ hagree number (List.mem_cons_of_mem first hnumber)]

/-- A value found along a chain of the realm is in the realm. -/
theorem Frames.within_find? {frames : Frames} {chain : Chain}
    (hchain : ∀ number ∈ chain, realm.frame number)
    (hbound : ∀ number, realm.frame number → Within realm (frames.frame number)) (key : Key) :
    Within realm (frames.find? key chain) := by
  induction chain with
  | nil => exact within_none
  | cons number outer ih =>
    unfold Frames.find?
    split
    · next item hfound =>
      rw [← hfound]
      exact Treewalk.within_find? (hbound number (hchain number List.mem_cons_self)) key
    · exact ih fun other hother ↦ hchain other (List.mem_cons_of_mem number hother)

namespace Machine

variable {machine other : Machine}

/-- The frames that a block of the realm captured are in the realm. -/
theorem Confines.captured (hmachine : machine.Confines realm) {index : Nat}
    (hindex : realm.closure index) : ∀ number ∈ machine.captured index, realm.frame number := by
  have hclosure := hmachine.memory.closures index hindex
  unfold Machine.captured
  intro number hnumber
  split at hnumber
  · next chain hfound =>
    exact hclosure _ hfound number (List.mem_reverse.mp hnumber)
  · cases hnumber

theorem within_readBlock (machine : Machine) {index : Nat} (hindex : realm.closure index)
    (name : String) : Within realm (machine.readBlock index name) := by
  unfold readBlock
  split
  · refine ⟨within_tuple.mpr fun item hitem ↦ ?_, trivial⟩
    obtain ⟨place, -, rfl⟩ := List.mem_map.mp hitem
    exact hindex
  · exact ⟨hindex, trivial⟩
  · exact trivial

theorem within_readInner (hmachine : machine.Confines realm) {index : Nat}
    (hindex : realm.closure index) (part : Inner) (name : String) :
    Within realm (machine.readInner index part name) := by
  have hinner (part : Inner) : Within realm (Value.inner index part) := hindex
  unfold readInner
  split
  · exact ⟨hmachine.context, trivial⟩
  · exact ⟨hinner _, trivial⟩
  · exact ⟨hinner _, trivial⟩
  · exact ⟨hinner _, trivial⟩
  · exact ⟨hindex, trivial⟩
  · exact ⟨hindex, trivial⟩
  · exact ⟨hindex, trivial⟩
  · split
    · exact trivial
    · exact ⟨trivial, trivial⟩
    · exact ⟨hinner _, trivial⟩
  · exact trivial

theorem within_fetch (hmachine : machine.Confines realm) (wanted : Value) :
    Within realm (machine.fetch wanted) := by
  unfold fetch
  split
  · exact trivial
  · next key _ =>
    have hfound := Frames.within_find? hmachine.globals hmachine.bound key
    split
    · next found heq => exact ⟨hfound found heq, trivial⟩
    · split <;> exact trivial

theorem within_peek (hmachine : machine.Confines realm) {index : Nat}
    (hindex : realm.closure index) (place : Nat) (wanted : Value) {effect : Nat → Key → Effect}
    (heffect : ∀ number key, realm.frame number → Within realm (effect number key)) :
    Within realm (machine.peek index place wanted effect) := by
  unfold peek
  split
  · next number key hnumber _ =>
    have hcaptured := hmachine.captured hindex number (List.mem_of_getElem? hnumber)
    split
    · next found heq =>
      exact ⟨within_find? (hmachine.bound number hcaptured) key found heq,
        heffect number key hcaptured⟩
    · exact trivial
  · exact trivial
  · exact trivial

theorem within_poke (hmachine : machine.Confines realm) {index : Nat}
    (hindex : realm.closure index) (place : Nat) {wanted value : Value}
    (hwanted : Within realm wanted) (hvalue : Within realm value) :
    Within realm (machine.poke index place wanted value) := by
  unfold poke
  split
  · next number key hnumber _ =>
    have hframe := hmachine.captured hindex number (List.mem_of_getElem? hnumber)
    exact ⟨hvalue, hframe, hwanted, hvalue⟩
  · exact trivial
  · exact trivial

theorem within_handle {tag handler : Value} (hhandler : Within realm handler) :
    Within realm (handle tag handler) := by
  unfold handle
  split
  · split
    · exact ⟨hhandler, hhandler⟩
    · exact trivial
  · exact trivial

theorem within_orMissing {condition : Prop} [Decidable condition] {answer : Answer}
    (hanswer : Within realm answer) : Within realm (if condition then answer else .missing) := by
  split
  · exact hanswer
  · exact trivial

theorem within_sendInner (hmachine : machine.Confines realm) {index : Nat}
    (hindex : realm.closure index) (part : Inner) (name : String) {arguments : List Value}
    (harguments : Within realm arguments) :
    Within realm (machine.sendInner index part name arguments) := by
  unfold sendInner
  split
  · next field context =>
    have hcontext : Within realm context := within_head (within_tail harguments)
    have hseated : Within realm (Answer.found .nil (.seat context)) := ⟨trivial, hcontext⟩
    exact within_orMissing hseated
  · exact within_orMissing (within_fetch hmachine _)
  · split
    · exact within_peek hmachine hindex _ _ fun _ _ _ ↦ trivial
    · exact within_orMissing (within_peek hmachine hindex _ _ fun _ _ hnumber ↦ hnumber)
  · exact within_orMissing (within_poke hmachine hindex _ (within_head harguments)
      (within_head (within_tail harguments)))
  · exact within_orMissing (within_handle (within_head (within_tail harguments)))
  · exact trivial

/-- Whoever reaches through a thing of the realm comes by things of the realm, and changes nothing
else. -/
theorem within_answer (hmachine : machine.Confines realm) {receiver : Value}
    (hreceiver : Within realm receiver) (name : String) {arguments : Option (List Value)}
    (harguments : Within realm arguments) :
    Within realm (machine.answer receiver name arguments) := by
  unfold answer
  split
  · exact within_readBlock machine hreceiver name
  · exact within_readInner hmachine hreceiver _ name
  · exact within_sendInner hmachine hreceiver _ name (within_some.mp harguments)
  · exact trivial

/-! ### Machines that are the same within a realm -/

/-- Another machine that is the same for whoever reaches for the interpreter from within the realm. -/
structure ReachedAlike (realm : Realm) (machine other : Machine) : Prop where
  memory : other.memory = machine.memory
  context : other.evaluator.context = machine.evaluator.context
  globals : other.evaluator.globals = machine.evaluator.globals
  lists : other.evaluator.policy.lists = machine.evaluator.policy.lists
  frames : ∀ number, realm.frame number →
    other.frames.frame number = machine.frames.frame number

namespace ReachedAlike

variable (halike : machine.ReachedAlike realm other)

include halike

theorem captured (index : Nat) : other.captured index = machine.captured index := by
  unfold Machine.captured
  rw [halike.memory]

theorem readBlock (index : Nat) (name : String) :
    other.readBlock index name = machine.readBlock index name := by
  unfold Machine.readBlock
  rw [halike.captured]

theorem readInner (index : Nat) (part : Inner) (name : String) :
    other.readInner index part name = machine.readInner index part name := by
  unfold Machine.readInner
  rw [halike.context, halike.lists]

theorem fetch (hmachine : machine.Confines realm) (wanted : Value) :
    other.fetch wanted = machine.fetch wanted := by
  have hfind (key : Key) : other.frames.find? key machine.evaluator.globals =
      machine.frames.find? key machine.evaluator.globals :=
    Frames.find?_congr (fun number hnumber ↦
      halike.frames number (hmachine.globals number hnumber)) key
  unfold Machine.fetch
  simp only [halike.memory, halike.globals, hfind]

theorem peek (hmachine : machine.Confines realm) {index : Nat} (hindex : realm.closure index)
    (place : Nat) (wanted : Value) (effect : Nat → Key → Effect) :
    other.peek index place wanted effect = machine.peek index place wanted effect := by
  unfold Machine.peek
  rw [halike.captured, halike.memory]
  split
  · next number key hnumber _ =>
    rw [halike.frames number (hmachine.captured hindex number (List.mem_of_getElem? hnumber))]
  · rfl
  · rfl

theorem poke (index place : Nat) (wanted value : Value) :
    other.poke index place wanted value = machine.poke index place wanted value := by
  unfold Machine.poke
  rw [halike.captured, halike.memory]

end ReachedAlike

/-- What comes of a request from within the realm is the same on machines that are the same within
it. -/
theorem answer_congr (halike : machine.ReachedAlike realm other)
    (hmachine : machine.Confines realm) {receiver : Value} (hreceiver : Within realm receiver)
    (name : String) (arguments : Option (List Value)) :
    other.answer receiver name arguments = machine.answer receiver name arguments := by
  unfold answer
  split
  · exact halike.readBlock _ _
  · exact halike.readInner _ _ _
  · unfold sendInner
    split
    · rfl
    · rw [halike.fetch hmachine]
    · rw [halike.peek hmachine hreceiver, halike.peek hmachine hreceiver]
    · rw [halike.poke]
    · rfl
    · rfl
  · rfl

end Machine

end Treewalk
