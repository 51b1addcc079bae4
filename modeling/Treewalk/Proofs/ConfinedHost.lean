import Treewalk.Host.Kernel
import Treewalk.Proofs.HostProperties

/-!
Confinement of host code. Host code is free to look at all of memory, so that whether it stays
within a realm is up to it: it does when all that it calls, stores and gives back is within the
realm, as long as what it is given is, and when it changes no cell outside (`Action.Confined`). Host
code that is a computation does, as computations forge no references. A library is confined when its
methods, functions and classes are (`Library.Confined`), and then so are sends, calls and lookups of
constants, the parts of them that belong to the interpreter included (`Library.Confined.carries`).
-/

set_option autoImplicit false
set_option relaxedAutoImplicit false

namespace Treewalk

variable {realm : Realm}

/-! ### Actions -/

namespace Action

variable {α β : Type} [Confinable α] [Confinable β]

/-- Host code that stays within a realm when it starts on this memory. Whatever it calls may change
the memory, but keeps to the realm in turn. -/
def ConfinedOn (realm : Realm) : Action α → Memory → Prop
  | .done result, _ => Within realm result
  | .fail _, _ | .abort _, _ | .exhaust, _ => True
  | .inspect next, memory => (next memory).ConfinedOn realm memory
  | .update heap marks next, memory =>
    realm.Keeps memory { memory with heap := heap, marks := marks } ∧
      next.ConfinedOn realm { memory with heap := heap, marks := marks }
  | .call callee arguments block next, memory =>
    Within realm callee ∧ Within realm arguments ∧ Within realm block ∧
      ∀ result changed, Within realm result → realm.Keeps memory changed →
        (next result).ConfinedOn realm changed
  | .attempt callee arguments block next _ recover, memory =>
    (Within realm callee ∧ Within realm arguments ∧ Within realm block) ∧
      (∀ result changed, Within realm result → realm.Keeps memory changed →
        (next result).ConfinedOn realm changed) ∧
      ∀ kind changed, realm.Keeps memory changed → (recover kind).ConfinedOn realm changed
  | .parameters _ next, memory =>
    ∀ names changed, Within realm names → realm.Keeps memory changed →
      (next names).ConfinedOn realm changed
  | .observe next, memory => ∀ seen, (next seen).ConfinedOn realm memory
  | .reenter next, memory => next.ConfinedOn realm memory
  | .reach receiver _ arguments next, memory =>
    Within realm receiver ∧ Within realm arguments ∧
      ∀ answer changed, Within realm answer → realm.Keeps memory changed →
        (next answer).ConfinedOn realm changed

/-- Host code that stays within a realm on every memory within it. -/
def Confined (realm : Realm) (action : Action α) : Prop :=
  ∀ memory, Within realm memory → action.ConfinedOn realm memory

theorem confinedOn_of_whole (hwhole : realm.Whole) (action : Action α) (memory : Memory) :
    action.ConfinedOn realm memory := by
  induction action generalizing memory with
  | done result => exact within_of_whole hwhole result
  | fail failure | abort message | exhaust => exact trivial
  | inspect next ih => exact ih memory memory
  | update heap marks next ih => exact ⟨.of_whole hwhole _ _, ih _⟩
  | call callee arguments block next ih =>
    exact ⟨within_of_whole hwhole _, within_of_whole hwhole _, within_of_whole hwhole _,
      fun result changed _ _ ↦ ih result changed⟩
  | attempt callee arguments block next catches recover ihnext ihrecover =>
    exact ⟨⟨within_of_whole hwhole _, within_of_whole hwhole _, within_of_whole hwhole _⟩,
      fun result changed _ _ ↦ ihnext result changed, fun kind changed _ ↦ ihrecover kind changed⟩
  | parameters index next ih => exact fun names changed _ _ ↦ ih names changed
  | observe next ih => exact fun seen ↦ ih seen memory
  | reenter next ih => exact ih memory
  | reach receiver name arguments next ih =>
    exact ⟨within_of_whole hwhole _, within_of_whole hwhole _,
      fun answer changed _ _ ↦ ih answer changed⟩

/-- One action after another stays within a realm when both do. -/
theorem confinedOn_bind {action : Action α} {after : α → Action β} {memory : Memory}
    (haction : action.ConfinedOn realm memory)
    (hafter : ∀ result, Within realm result → (after result).Confined realm)
    (hmemory : Within realm memory) : (action.bind after).ConfinedOn realm memory := by
  induction action generalizing memory with
  | done result => exact hafter result haction memory hmemory
  | fail failure | abort message | exhaust => exact trivial
  | inspect next ih => exact ih memory haction hmemory
  | update heap marks next ih => exact ⟨haction.1, ih haction.2 haction.1.within⟩
  | call callee arguments block next ih =>
    obtain ⟨hcallee, harguments, hblock, hnext⟩ := haction
    exact ⟨hcallee, harguments, hblock, fun result changed hresult hkeeps ↦
      ih result (hnext result changed hresult hkeeps) hkeeps.within⟩
  | attempt callee arguments block next catches recover ihnext ihrecover =>
    obtain ⟨hcalled, hnext, hrecover⟩ := haction
    exact ⟨hcalled, fun result changed hresult hkeeps ↦
      ihnext result (hnext result changed hresult hkeeps) hkeeps.within, fun kind changed hkeeps ↦
        ihrecover kind (hrecover kind changed hkeeps) hkeeps.within⟩
  | parameters index next ih =>
    exact fun names changed hnames hkeeps ↦
      ih names (haction names changed hnames hkeeps) hkeeps.within
  | observe next ih => exact fun seen ↦ ih seen (haction seen) hmemory
  | reenter next ih => exact ih haction hmemory
  | reach receiver name arguments next ih =>
    obtain ⟨hreceiver, harguments, hnext⟩ := haction
    exact ⟨hreceiver, harguments, fun answer changed hanswer hkeeps ↦
      ih answer (hnext answer changed hanswer hkeeps) hkeeps.within⟩

theorem confined_bind {action : Action α} {after : α → Action β} (haction : action.Confined realm)
    (hafter : ∀ result, Within realm result → (after result).Confined realm) :
    (action >>= after).Confined realm :=
  fun memory hmemory ↦ confinedOn_bind (haction memory hmemory) hafter hmemory

theorem confined_done {result : α} (hresult : Within realm result) :
    (done result).Confined realm :=
  fun _ _ ↦ hresult

theorem confined_fail (failure : Failure) : (fail failure : Action α).Confined realm :=
  fun _ _ ↦ trivial

theorem confined_refuse (cause : Cause) : (refuse cause : Action α).Confined realm :=
  fun _ _ ↦ trivial

theorem confined_inspect {next : Memory → Action α}
    (hnext : ∀ memory, Within realm memory → (next memory).Confined realm) :
    (inspect next).Confined realm :=
  fun memory hmemory ↦ hnext memory hmemory memory hmemory

/-- A call stays within a realm when what is called and handed over does, and what is done with the
result. -/
theorem confined_call {callee : Value} (hcallee : Within realm callee) {arguments : List Value}
    (harguments : Within realm arguments) {block : Option Value} (hblock : Within realm block)
    {next : Value → Action α}
    (hnext : ∀ result, Within realm result → (next result).Confined realm) :
    (call callee arguments block next).Confined realm :=
  fun _ _ ↦ ⟨hcallee, harguments, hblock, fun result changed hresult hkeeps ↦
    hnext result hresult changed hkeeps.within⟩

theorem confined_parameters (index : Nat) {next : Option Value → Action α}
    (hnext : ∀ names, Within realm names → (next names).Confined realm) :
    (parameters index next).Confined realm :=
  fun _ _ names changed hnames hkeeps ↦ hnext names hnames changed hkeeps.within

/-- Host code that is a computation stays within a realm when the computation does. -/
theorem confined_compute {computation : Compute α} (hcomputation : computation.Confined realm) :
    (compute computation).Confined realm := by
  intro memory hmemory
  obtain ⟨hresult, hkeeps⟩ := hcomputation memory hmemory
  -- A computation leaves the closures alone; here it is enough that an update cannot touch them.
  have hupdated : realm.Keeps memory
      { memory with
        heap := (computation.run.run memory).2.heap
        marks := (computation.run.run memory).2.marks } :=
    ⟨{ hmemory with cells := hkeeps.within.cells, newCells := hkeeps.within.newCells },
      hkeeps.outside⟩
  rcases heq : computation.run.run memory with ⟨cause | result, changed⟩
  · rw [heq] at hupdated
    simp only [compute, ConfinedOn, heq]
    exact ⟨hupdated, trivial⟩
  · rw [heq] at hupdated hresult
    simp only [compute, ConfinedOn, heq]
    exact ⟨hupdated, hresult result rfl⟩

end Action

/-! ### Libraries -/

/-- Host code with a body that is given arguments and perhaps a block stays within a realm when it
is given only things of the realm. -/
def Realm.Confines (realm : Realm) (body : List Value → Option Value → Action Value) : Prop :=
  ∀ arguments block, Within realm arguments → Within realm block →
    (body arguments block).Confined realm

/-- A class that stays within a realm: its shared attributes are there, and its methods and what
calling it does stay there. -/
structure HostClass.Confined (realm : Realm) (hostClass : HostClass) : Prop where
  shared : Within realm hostClass.shared
  methods : ∀ method ∈ hostClass.methods, ∀ self, Within realm self →
    realm.Confines (method.body self)
  construct : realm.Confines hostClass.construct

/-- A library that stays within a realm. -/
structure Library.Confined (realm : Realm) (library : Library) : Prop where
  classes : ∀ hostClass ∈ library.classes, hostClass.Confined realm
  functions : ∀ function ∈ library.functions, realm.Confines function.body

/-- A policy that stays within a realm when it is asked about a thing of the realm. -/
def Policy.Confined (realm : Realm) (library : Library) (policy : Policy) : Prop :=
  ∀ receiver member node, Within realm receiver →
    (policy.authorize library receiver member node).Confined realm

namespace Library

variable {library : Library}

theorem Confined.of_whole (hwhole : realm.Whole) (library : Library) : library.Confined realm where
  classes _ _ :=
    { shared := within_of_whole hwhole _
      methods := fun _ _ _ _ _ _ _ _ _ _ ↦ Action.confinedOn_of_whole hwhole _ _
      construct := fun _ _ _ _ _ _ ↦ Action.confinedOn_of_whole hwhole _ _ }
  functions _ _ := fun _ _ _ _ _ _ ↦ Action.confinedOn_of_whole hwhole _ _

/-- All that belongs to the interpreter stays within the realm when the library does. -/
theorem Confined.carries (hlibrary : library.Confined realm) (size : Nat) :
    library.Carries realm size (Action.Confined realm) where
  done := Action.confined_done
  fail := Action.confined_fail
  inspect := Action.confined_inspect
  compute htame := Action.confined_compute htame.confined
  bind := Action.confined_bind
  parameters {index} _ := Action.confined_parameters index fun _ ↦ Action.confined_done
  call hindex _ harguments _ _ hblock :=
    Action.confined_call hindex harguments hblock fun _ ↦ Action.confined_done
  reach hreceiver _ _ harguments := fun _ _ ↦ ⟨hreceiver, harguments, fun _ _ hanswer _ ↦ hanswer⟩
  shared hostClass hclass := (hlibrary.classes hostClass hclass).shared
  methods hostClass hclass method hmethod self arguments block hself :=
    (hlibrary.classes hostClass hclass).methods method hmethod self hself arguments block
  constructs hostClass hclass := (hlibrary.classes hostClass hclass).construct
  functions := hlibrary.functions

end Library

/-! ### The default context -/

namespace Host

open Treewalk.Action

theorem confines_plainMethod {name : String} {body : Value → List Value → Action Value}
    {self : Value}
    (hbody : ∀ arguments, Within realm arguments → (body self arguments).Confined realm) :
    realm.Confines ((plainMethod name body).body self) := by
  intro arguments block harguments _
  cases block with
  | none => exact hbody arguments harguments
  | some given => exact confined_refuse _

theorem confines_blockMethod {name : String} {body : List Value → Value → Action Value}
    {self : Value}
    (hbody : ∀ arguments given, Within realm arguments → Within realm given →
      (body arguments given).Confined realm) :
    realm.Confines ((blockMethod name body).body self) := by
  intro arguments block harguments hblock
  cases block with
  | none => exact confined_refuse _
  | some given => exact hbody arguments given harguments (within_some.mp hblock)

/-- The library that lends only the default context keeps nothing and hands out nothing but what it
is given. -/
theorem confined_kernelLibrary (realm : Realm) : kernelLibrary.Confined realm := by
  refine ⟨fun hostClass hclass ↦ ?_, nofun⟩
  obtain rfl := List.mem_singleton.mp hclass
  refine ⟨within_nil, fun method hmethod self _ ↦ ?_, fun arguments block harguments hblock ↦ ?_⟩
  · rcases List.mem_cons.mp hmethod with rfl | hmethod
    · refine confines_blockMethod fun arguments given _ hgiven ↦ ?_
      split
      · exact confined_done hgiven
      · exact confined_refuse _
    · obtain rfl := List.mem_singleton.mp hmethod
      refine confines_plainMethod fun arguments _ ↦ ?_
      split
      · exact confined_refuse _
      · exact confined_bind (confined_compute (Compute.Elementary.plain _).confined) fun _ _ ↦
          confined_refuse _
      · exact confined_refuse _
  · unfold kernel
    dsimp only
    split
    · exact confined_compute (Compute.confined_allocate within_nil)
    · exact confined_refuse _

end Host

end Treewalk
