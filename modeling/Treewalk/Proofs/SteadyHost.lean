import Treewalk.Host.Kernel
import Treewalk.Policy
import Treewalk.Proofs.HostProperties

/-!
Steady host code. It never aborts and leaves objects as they are, whatever becomes of the rest of memory
while it calls values (`Action.Steady`). All that belongs to the interpreter is steady, so that sends,
calls and lookups of constants are as soon as the library is (`Library.Steady.carries`). The library that
lends only the default context is steady (`Host.steady_kernelLibrary`).
-/

set_option autoImplicit false
set_option relaxedAutoImplicit false

namespace Treewalk

/-! ### Actions -/

namespace Action

variable {α β : Type}

/-- Host code that, started on this memory, does not abort and changes no object. What it calls may
change the memory in any way. -/
def SteadyOn : Action α → Memory → Prop
  | .done _, _ | .fail _, _ | .exhaust, _ => True
  | .abort _, _ => False
  | .inspect next, memory => (next memory).SteadyOn memory
  | .update heap marks next, memory =>
    memory.KeepsObjects { memory with heap := heap, marks := marks } ∧
      next.SteadyOn { memory with heap := heap, marks := marks }
  | .call _ _ _ next, _ => ∀ result changed, (next result).SteadyOn changed
  | .attempt _ _ _ next _ recover, _ =>
    (∀ result changed, (next result).SteadyOn changed) ∧
      ∀ kind changed, (recover kind).SteadyOn changed
  | .parameters _ next, _ => ∀ names changed, (next names).SteadyOn changed
  | .observe next, memory => ∀ seen, (next seen).SteadyOn memory
  | .reenter next, memory => next.SteadyOn memory
  | .reach _ _ _ next, memory => ∀ answer, (next answer).SteadyOn memory

/-- Host code that never aborts and changes no object. -/
def Steady (action : Action α) : Prop := ∀ memory, action.SteadyOn memory

theorem steadyOn_bind {action : Action α} {after : α → Action β} {memory : Memory}
    (haction : action.SteadyOn memory) (hafter : ∀ result, (after result).Steady) :
    (action.bind after).SteadyOn memory := by
  induction action generalizing memory with
  | done result => exact hafter result memory
  | fail failure | exhaust => exact trivial
  | abort message => exact haction.elim
  | inspect next ih => exact ih memory haction
  | update heap marks next ih => exact ⟨haction.1, ih haction.2⟩
  | call callee arguments block next ih => exact fun result changed ↦ ih result (haction result changed)
  | attempt callee arguments block next catches recover ihnext ihrecover =>
    exact ⟨fun result changed ↦ ihnext result (haction.1 result changed),
      fun kind changed ↦ ihrecover kind (haction.2 kind changed)⟩
  | parameters index next ih => exact fun names changed ↦ ih names (haction names changed)
  | observe next ih => exact fun seen ↦ ih seen (haction seen)
  | reenter next ih => exact ih haction
  | reach receiver name arguments next ih => exact fun answer ↦ ih answer (haction answer)

theorem steady_bind {action : Action α} {after : α → Action β} (haction : action.Steady)
    (hafter : ∀ result, (after result).Steady) : (action >>= after).Steady :=
  fun memory ↦ steadyOn_bind (haction memory) hafter

theorem steady_done (result : α) : (done result).Steady := fun _ ↦ trivial

theorem steady_fail (failure : Failure) : (fail failure : Action α).Steady := fun _ ↦ trivial

theorem steady_refuse (cause : Cause) : (refuse cause : Action α).Steady := fun _ ↦ trivial

theorem steady_inspect {next : Memory → Action α} (hnext : ∀ memory, (next memory).Steady) :
    (inspect next).Steady :=
  fun memory ↦ hnext memory memory

/-- A computation that leaves objects as they are is steady. -/
theorem steady_compute {computation : Compute α} (hcomputation : computation.KeepsObjects) :
    (compute computation).Steady := by
  intro memory
  have hkept := hcomputation memory
  rcases heq : computation.run.run memory with ⟨cause | result, changed⟩
  all_goals
    rw [heq] at hkept
    simp only [compute, SteadyOn, heq]
    exact ⟨hkept, trivial⟩

end Action

/-! ### Libraries -/

/-- A class whose methods are steady, and calling which is. -/
structure HostClass.Steady (hostClass : HostClass) : Prop where
  methods : ∀ method ∈ hostClass.methods, ∀ self arguments block,
    (method.body self arguments block).Steady
  construct : ∀ arguments block, (hostClass.construct arguments block).Steady

/-- A library all of whose code is steady. -/
structure Library.Steady (library : Library) : Prop where
  classes : ∀ hostClass ∈ library.classes, hostClass.Steady
  functions : ∀ function ∈ library.functions, ∀ arguments block, (function.body arguments block).Steady

/-- A policy that is steady when it is asked. -/
def Policy.Steady (library : Library) (policy : Policy) : Prop :=
  ∀ receiver member node, (policy.authorize library receiver member node).Steady

theorem Policy.steady_permissive (library : Library) : Policy.permissive.Steady library :=
  fun _ _ _ ↦ Action.steady_done _

/-- All that belongs to the interpreter is steady when the library is. -/
theorem Library.Steady.carries {library : Library} (hlibrary : library.Steady) (size : Nat) :
    library.Carries .everything size Action.Steady where
  done {_} _ {result} _ := Action.steady_done result
  fail := Action.steady_fail
  inspect hnext := Action.steady_inspect fun memory ↦ hnext memory (Realm.within_everything memory)
  compute htame := Action.steady_compute htame.keepsObjects
  bind haction hafter :=
    Action.steady_bind haction fun result ↦ hafter result (Realm.within_everything result)
  parameters _ _ _ _ := trivial
  call _ _ _ _ _ _ _ _ _ := trivial
  reach _ _ _ _ _ _ := trivial
  shared _ _ := Realm.within_everything _
  methods hostClass hclass method hmethod self arguments block _ _ _ :=
    (hlibrary.classes hostClass hclass).methods method hmethod self arguments block
  constructs hostClass hclass arguments block _ _ :=
    (hlibrary.classes hostClass hclass).construct arguments block
  functions function hfunction arguments block _ _ :=
    hlibrary.functions function hfunction arguments block

/-! ### The default context -/

namespace Host

open Treewalk.Action

/-- The default context hands back and fails, and does nothing else. -/
theorem steady_kernelLibrary : kernelLibrary.Steady := by
  refine ⟨fun hostClass hclass ↦ ?_, nofun⟩
  obtain rfl := List.mem_singleton.mp hclass
  refine ⟨fun method hmethod self arguments block ↦ ?_, fun arguments block ↦ ?_⟩
  · rcases List.mem_cons.mp hmethod with rfl | hmethod
    · cases block with
      | none => exact steady_refuse _
      | some given =>
        cases arguments with
        | nil => exact steady_done _
        | cons argument rest => exact steady_refuse _
    · obtain rfl := List.mem_singleton.mp hmethod
      cases block with
      | some given => exact steady_refuse _
      | none =>
        rcases arguments with _ | ⟨message, _ | ⟨argument, rest⟩⟩
        · exact steady_refuse _
        · exact steady_bind
            (steady_compute (Compute.Tame.elementary (.plain message)).keepsObjects) fun _ ↦
              steady_refuse _
        · exact steady_refuse _
  · unfold kernel
    dsimp only
    split
    · exact steady_compute (Compute.Tame.elementary (.allocate within_nil)).keepsObjects
    · exact steady_refuse _

end Host

end Treewalk
