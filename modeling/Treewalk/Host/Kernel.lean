import Treewalk.Library

/-!
The default context of scripts: an object that hands a block back as a value and that fails on
request.
-/

set_option autoImplicit false
set_option relaxedAutoImplicit false

namespace Treewalk.Host

/-- Fails because arguments or block do not fit. -/
def misfit {α : Type} : Action α := Action.refuse (.plain .type)

/-- A method that takes arguments and no block. -/
def plainMethod (name : String) (body : Value → List Value → Action Value) : HostMethod where
  name := name
  body self arguments block :=
    match block with
    | some _ => misfit
    | none => body self arguments

/-- A method that takes no argument and no block. -/
def bareMethod (name : String) (body : Value → Action Value) : HostMethod :=
  plainMethod name fun self arguments =>
    match arguments with
    | [] => body self
    | _ => misfit

/-- A method that requires a block. -/
def blockMethod (name : String) (body : List Value → Value → Action Value) : HostMethod where
  name := name
  body _ arguments block :=
    match block with
    | some given => body arguments given
    | none => misfit

/-- Hands its block back. -/
def proc : HostMethod :=
  blockMethod "proc" fun arguments block =>
    match arguments with
    | [] => Action.done block
    | _ => misfit

/-- The form of a value that is joined into other text. -/
def words (value : Value) : Action String := Action.compute (Compute.plain value)

/-- Fails with a message. -/
def fail : HostMethod :=
  plainMethod "fail" fun _ arguments =>
    match arguments with
    | [] => Action.refuse (.worded .runtime "unhandled exception")
    | [message] => do
      let s ← words message
      Action.refuse (.worded .runtime s)
    | _ => misfit

/-- A new default context. -/
def kernelCell : Cell := .object "Kernel" (some "main") []

/-- The class of the default context. -/
def kernel : HostClass where
  name := "Kernel"
  methods := [proc, fail]
  construct arguments block :=
    match arguments, block with
    | [], none => Action.compute (Compute.allocate kernelCell)
    | _, _ => misfit

/-- The library that lends only the default context. -/
def kernelLibrary : Library where
  classes := [kernel]

end Treewalk.Host
