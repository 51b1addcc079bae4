import Treewalk.Builder
import Treewalk.Operator

/-!
Host libraries and dispatch. A library lists the classes and functions that a host lends to scripts;
their bodies are actions. `invoke` sends a member to a value: operators come first, then the value's
own attributes, then the members that every value answers to. `resolve` looks up a constant.
-/

set_option autoImplicit false
set_option relaxedAutoImplicit false

namespace Treewalk

/-- A method of a host class. A marked method is meant for scripts. The body is given the object, the
arguments and perhaps a block. -/
structure HostMethod where
  name : String
  marked : Bool := false
  body : Value → List Value → Option Value → Action Value

/-- A class of host objects: attributes that all objects and the class itself share, attributes whose
reading fails, methods, and what calling the class does. -/
structure HostClass where
  name : String
  shared : List (String × Value) := []
  traps : List (String × Failure) := []
  methods : List HostMethod := []
  construct : List Value → Option Value → Action Value

/-- A function of the host. -/
structure HostFunction where
  name : String
  body : List Value → Option Value → Action Value

/-- What a host lends to scripts. -/
structure Library where
  classes : List HostClass := []
  functions : List HostFunction := []

namespace HostClass

/-- The method of a name. -/
def method? (hostClass : HostClass) (name : String) : Option HostMethod :=
  hostClass.methods.find? fun method => method.name == name

end HostClass

namespace Library

/-- The class of a name. -/
def class? (library : Library) (name : String) : Option HostClass :=
  library.classes.find? fun hostClass => hostClass.name == name

/-- The attribute of an object of a class, given the object's own fields. -/
def objectAttribute (hostClass : HostClass) (fields : List (String × Value)) (receiver : Value)
    (name : String) : Attribute :=
  match hostClass.traps.lookup name with
  | some failure => .trap failure
  | none =>
    match fields.lookup name with
    | some value => .value value
    | none =>
      match hostClass.shared.lookup name with
      | some value => .value value
      | none =>
        match hostClass.method? name with
        | some _ => .method receiver name
        | none => .absent

/-- The attribute of any value. -/
def attributeOf (library : Library) (memory : Memory) (receiver : Value) (name : String) :
    Attribute :=
  match receiver with
  | .hostClass className =>
    match library.class? className with
    | none => Member.attributeOf memory receiver name
    | some hostClass =>
      match hostClass.shared.lookup name with
      | some value => .value value
      | none =>
        match hostClass.method? name with
        | some _ => .value (.method receiver name .common)
        | none => Member.attributeOf memory receiver name
  | _ =>
    match memory.cell? receiver with
    | some (.object className _ fields) =>
      match library.class? className with
      | none => Member.attributeOf memory receiver name
      | some hostClass =>
        match objectAttribute hostClass fields receiver name with
        | .absent => Member.attributeOf memory receiver name
        | found => found
    | _ => Member.attributeOf memory receiver name

/-- Whether a value is a method that is marked as meant for scripts. -/
def isMarked (library : Library) (memory : Memory) : Value → Bool
  | .method receiver name _ =>
    let className :=
      match receiver with
      | .hostClass own => own
      | _ => memory.kindName receiver
    match (library.class? className).bind (·.method? name) with
    | some method => method.marked
    | none => false
  | _ => false

/-- Whether a member of a value is a method that is marked as meant for scripts. -/
def publishes (library : Library) (memory : Memory) (receiver : Value) (name : String) : Bool :=
  match library.attributeOf memory receiver name with
  | .value found => library.isMarked memory found
  | .method owner own => library.isMarked memory (.method owner own .common)
  | _ => false

/-! ### Calling values -/

/-- The body of a method called on an object of a class. -/
def applyMethod (hostClass : HostClass) (name : String) (self : Value) (arguments : List Value)
    (block : Option Value) : Action Value :=
  match hostClass.method? name with
  | some method => method.body self arguments block
  | none => Action.refuse (.plain .type)

/-- Calls a method of a class of plain values on a value, which has to be of that class. -/
def applyPlain (className name : String) (self : Value) (arguments : List Value)
    (block : Option Value) : Action Value :=
  Action.inspect fun memory =>
    if Member.baseKind (memory.kindName self) != className then Action.refuse (.plain .type)
    else
      match self with
      | .closure index => Action.call (.closure index) arguments block Action.done
      | _ => Action.compute (Member.runWith self name arguments block)

/-- Calls a method of a value, be it an object of a class or a plain value. -/
def applyBound (library : Library) (receiver : Value) (name : String) (arguments : List Value)
    (block : Option Value) : Action Value :=
  Action.inspect fun memory =>
    match memory.cell? receiver with
    | some (.object className _ _) =>
      match library.class? className with
      | some hostClass => applyMethod hostClass name receiver arguments block
      | none => Action.refuse (.plain .type)
    | _ => Action.compute (Member.runWith receiver name arguments block)

/-- Calls a method of something of the interpreter itself, which takes no block. -/
def applyInner (receiver : Value) (name : String) (arguments : List Value) (block : Option Value) :
    Action Value :=
  if block.isSome then Action.refuse (.plain .type)
  else
    Action.reach receiver name (some arguments) fun answer =>
      match answer with
      | some found => Action.done found
      | none => Action.refuse (.plain .type)

/-- Calls a value. Blocks and procs are left to the interpreter; what cannot be called fails. -/
def apply (library : Library) (callee : Value) (arguments : List Value) (block : Option Value) :
    Action Value :=
  match callee with
  | .closure index => Action.call (.closure index) arguments block Action.done
  | .function name =>
    match library.functions.find? fun function => function.name == name with
    | some function => function.body arguments block
    | none => Action.refuse (.plain .type)
  | .hostClass name =>
    match library.class? name with
    | some hostClass => hostClass.construct arguments block
    | none => Action.compute (Builder.buildWith name arguments block)
  | .method (.hostClass className) name _ =>
    match library.class? className, arguments with
    | some hostClass, self :: rest => applyMethod hostClass name self rest block
    | none, self :: rest => applyPlain className name self rest block
    | _, [] => Action.refuse (.plain .type)
  | .method (.closure index) _ _ => Action.call (.closure index) arguments block Action.done
  | .method (.inner index part) name _ => applyInner (.inner index part) name arguments block
  | .method receiver name _ => library.applyBound receiver name arguments block
  | _ => Action.refuse (.plain .type)

end Library

/-! ### Members that every value answers to -/

/-- The members that every value answers to when it has no attribute of that name. -/
inductive Universal where
  | isNil
  | itself
  | isIdentical
  | respondsTo
  | call
deriving DecidableEq, Repr, Inhabited

namespace Universal

/-- All of them. -/
def all : List Universal := [isNil, itself, isIdentical, respondsTo, call]

/-- The member name. -/
def name : Universal → String
  | isNil => "nil?"
  | itself => "itself"
  | isIdentical => "equal?"
  | respondsTo => "respond_to?"
  | call => "call"

/-- The universal member with a name. -/
def ofName? (s : String) : Option Universal := all.find? fun member => member.name == s

end Universal

namespace Library

/-- Reads an attribute of a value, if it has it. -/
def read (library : Library) (receiver : Value) (name : String) : Action (Option Value) :=
  Action.inspect fun memory =>
    match library.attributeOf memory receiver name with
    | .absent => Action.done none
    | .value found => Action.done (some found)
    | .number number => some <$> Action.compute (Compute.newNumber number)
    | .method owner own => some <$> Action.compute (Compute.newMethod owner own)
    | .trap failure => Action.fail failure
    | .parameters index => Action.parameters index Action.done
    | .inner => Action.reach receiver name none Action.done

/-- Whether a value has an attribute. -/
def hasAttribute (library : Library) (receiver : Value) (name : String) : Action Value := do
  return .bool (← library.read receiver name).isSome

/-- Whether a value answers to a member. -/
def respondsTo (library : Library) (receiver name : Value) : Action Value := do
  let _ ← Action.compute (Compute.key name)
  match name.text? with
  | some s =>
    if (Operator.ofName? s).isSome || (Universal.ofName? s).isSome then
      Action.done (.bool true)
    else library.hasAttribute receiver s
  | none =>
    let s ← Action.compute (Compute.plain name)
    library.hasAttribute receiver s

/-- Sends a universal member. Only `call` takes a block; the others pass it over. -/
def universal (library : Library) (member : Universal) (receiver : Value) (arguments : List Value)
    (block : Option Value) : Action Value :=
  match member, arguments with
  | .isNil, [] => Action.done (.bool receiver.isNil)
  | .itself, [] => Action.done receiver
  | .isIdentical, [other] => Action.done (.bool (receiver.identical other))
  | .respondsTo, [name] => library.respondsTo receiver name
  | .call, _ =>
    if receiver.isCallable then library.apply receiver arguments block
    else
      Action.inspect fun memory =>
        Action.refuse (.undefinedMember Universal.call.name (memory.kindName receiver))
  | _, _ => Action.refuse (.plain .type)

/-- What sending an attribute's name gives once the attribute is read: a callable value is called, any
other value takes neither arguments nor a block. -/
def sendAttribute (library : Library) (receiver : Value) (name : String) (found : Value)
    (arguments : List Value) (block : Option Value) : Action Value :=
  if found.isCallable then library.apply found arguments block
  else if arguments.isEmpty && block.isNone then Action.done found
  else Action.inspect fun memory => Action.refuse (.notCallable name (memory.describe receiver))

/-- What sending a name without an attribute gives. -/
def sendUniversal (library : Library) (receiver : Value) (name : String) (arguments : List Value)
    (block : Option Value) : Action Value :=
  match Universal.ofName? name with
  | some member => library.universal member receiver arguments block
  | none => Action.inspect fun memory => Action.refuse (.undefinedMember name (memory.describe receiver))

/-- Sends an operator. Something of the interpreter itself is asked first. -/
def operate (operator : Operator) (receiver : Value) (arguments : List Value) : Action Value :=
  match receiver with
  | .inner _ _ =>
    Action.reach receiver operator.name (some arguments) fun answer =>
      match answer with
      | some found => Action.done found
      | none => Action.compute (operator.apply receiver arguments)
  | _ => Action.compute (operator.apply receiver arguments)

/-- Sends a member to a value. -/
def invoke (library : Library) (receiver : Value) (name : String) (arguments : List Value)
    (block : Option Value) : Action Value :=
  match Operator.ofName? name with
  | some operator => operate operator receiver arguments
  | none => do
    match ← library.read receiver name with
    | some found => library.sendAttribute receiver name found arguments block
    | none => library.sendUniversal receiver name arguments block

/-- Looks up a constant in an owner: the entry of a table, or else an attribute. -/
def resolve (library : Library) (owner : Value) (name : Site) : Action Value :=
  Action.inspect fun memory =>
    match memory.cell? owner with
    | some (.table entries _) =>
      match entries.find? name.key with
      | some value => Action.done value
      | none => Action.refuse (.uninitializedConstant name.tree.plain)
    | _ =>
      match name.tree.text? with
      | none => Action.refuse (.plain .type)
      | some s => do
        match ← library.read owner s with
        | some found => Action.done found
        | none => Action.refuse (.uninitializedConstant (memory.describe owner ++ "::" ++ s))

end Library

end Treewalk
