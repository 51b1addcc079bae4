import Treewalk.Library

/-!
Policies: whether a member of a receiver may be sent or a constant looked up. A policy answers with a
value, which grants exactly when it is neither nil, false, zero nor empty. It is given the receiver,
the member and the node that asks, and may look at the receiver through the host library, as an
action.
-/

set_option autoImplicit false
set_option relaxedAutoImplicit false

namespace Treewalk

/-- A policy. A recording policy has its queries kept. A policy may say which names it lists; without
a list it lists none. -/
structure Policy where
  authorize : Library → Value → Tree → Tree → Action Value
  records : Bool := false
  lists : Option (Option (List String)) := none

instance : Inhabited Policy := ⟨⟨fun _ _ _ _ => Action.done (.bool true), false, none⟩⟩

namespace Policy

/-- Grants everything. -/
def permissive : Policy where
  authorize _ _ _ _ := Action.done (.bool true)

/-- Grants everything and has the queries kept. -/
def recording : Policy where
  authorize _ _ _ _ := Action.done (.bool true)
  records := true

/-- Refuses the members of the given names. -/
def denying (names : List String) : Policy where
  authorize _ _ member _ :=
    match member.text? with
    | some name => Action.done (.bool (!names.contains name))
    | none => Action.done (.bool true)

/-- Always gives the same answer. -/
def answering (answer : Value) : Policy where
  authorize _ _ _ _ := Action.done answer

/-- Whether the attribute of a name is a method marked as meant for scripts. -/
def isPublished (library : Library) (receiver : Value) (name : String) : Action Value :=
  Action.inspect fun memory =>
    match library.attributeOf memory receiver name with
    | .trap failure => Action.fail failure
    | .parameters index => Action.parameters index fun _ => Action.done (.bool false)
    | _ => Action.done (.bool (library.publishes memory receiver name))

/-- Refuses private members, whose names start with an underscore, and with a list of names everything
that is neither listed nor marked as meant for scripts. -/
def restricted (allowed : Option (List String)) : Policy where
  lists := some allowed
  authorize library receiver member _ :=
    match member.text? with
    | none => Action.refuse (.plain .member)
    | some name =>
      if Text.startsWith ['_'] name.toList then Action.done (.bool false)
      else
        match allowed with
        | none => Action.done (.bool true)
        | some names =>
          if names.contains name then Action.done (.bool true)
          else isPublished library receiver name

end Policy

end Treewalk
