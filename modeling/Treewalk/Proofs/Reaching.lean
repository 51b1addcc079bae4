import Treewalk.Evaluate

/-!
Reaching for the interpreter itself. Much of what holds of scripts holds as long as they keep to what
they are given: a block leads to the frames that it captured and to its evaluator, and a script that
goes that way can write in frames that are not its own, replace the context and add handlers. Every
such request is noted, so that what a run has reached for can be told from the journal. From one
machine to another nothing of the interpreter itself was reached for when the journal has gained no
such request (`Machine.Unreached`).
-/

set_option autoImplicit false
set_option relaxedAutoImplicit false

namespace Treewalk

/-! ### Requests in a journal -/

/-- Whether an event is a request for something of the interpreter itself. -/
def Event.isReach : Event → Bool
  | .reach _ _ => true
  | _ => false

/-- The requests for something of the interpreter itself in a journal. -/
def Machine.reaches (machine : Machine) : List Event := machine.events.filter Event.isReach

/-- From one machine to another nothing of the interpreter itself was reached for. -/
def Machine.Unreached (before after : Machine) : Prop := after.reaches = before.reaches

/-- What was not reached for altogether was reached for neither in the first part nor in the second. -/
theorem Machine.Unreached.split {first middle last : Machine} (hunreached : first.Unreached last)
    (hfirst : first.events <:+ middle.events) (hlast : middle.events <:+ last.events) :
    first.Unreached middle ∧ middle.Unreached last := by
  have hbefore : first.reaches <:+ middle.reaches := hfirst.filter Event.isReach
  have hafter : middle.reaches <:+ last.reaches := hlast.filter Event.isReach
  unfold Unreached at hunreached ⊢
  have hmiddle : first.reaches = middle.reaches :=
    hbefore.eq_of_length_le (hunreached ▸ hafter.length_le)
  exact ⟨hmiddle.symm, hunreached.trans hmiddle⟩

/-! ### What a request changes -/

namespace Machine

/-- What a request changes is no matter of memory. -/
@[simp] theorem memory_affected (machine : Machine) (effect : Effect) :
    (machine.affected effect).memory = machine.memory := by
  cases effect <;> rfl

@[simp] theorem events_affected (machine : Machine) (effect : Effect) :
    (machine.affected effect).events = machine.events := by
  cases effect <;> rfl

end Machine

/-- A request is noted, whatever it changes. -/
theorem Machine.not_unreached_affected (machine : Machine) (receiver : Value) (name : String)
    (effect : Effect) :
    ¬ machine.Unreached ((machine.noted (.reach receiver name)).affected effect) := by
  unfold Unreached reaches
  rw [events_affected]
  exact List.cons_ne_self _ _

/-- However a request is answered, it is noted, and then it has its effect. -/
theorem Run.reach_snd (receiver : Value) (name : String) (arguments : Option (List Value))
    (machine : Machine) : ∃ effect, (Run.reach receiver name arguments machine).2 =
      (machine.noted (.reach receiver name)).affected effect := by
  unfold Run.reach
  cases machine.answer receiver name arguments with
  | missing => exact ⟨.nothing, rfl⟩
  | found value effect => exact ⟨effect, rfl⟩
  | refused cause => exact ⟨.nothing, rfl⟩

/-- Reaching for the interpreter is no matter of memory. -/
theorem Run.memory_reach (receiver : Value) (name : String) (arguments : Option (List Value))
    (machine : Machine) : (Run.reach receiver name arguments machine).2.memory = machine.memory := by
  obtain ⟨effect, hreached⟩ := Run.reach_snd receiver name arguments machine
  rw [hreached, Machine.memory_affected]
  rfl

/-! ### Scripts that reach for the interpreter -/

namespace Tree

/-- A send. -/
def sent (receiver : Tree) (member : String) (arguments : List Tree) : Tree :=
  .node "send" (receiver :: .leaf (.text member) :: arguments)

/-- A block that does nothing, as the default context hands it back. -/
def idleBlock : Tree :=
  .node "block" [sent (.leaf .null) "proc" [], .node "args" [], .node "nil" []]

/-- The evaluator that such a block leads to. -/
def blockEvaluator : Tree := sent idleBlock "evaluator" []

end Tree

end Treewalk
