import Treewalk.Construct
import Treewalk.Engine
import Treewalk.Regexp.Compile

/-!
Evaluation. `step` gives the meaning of one node on top of an engine for its parts, and `engine` ties
the knot: an engine of depth `n + 1` evaluates with the engine of depth `n`, so a tree of height `n`
that calls no closure is evaluated at depth `n`. Before any member is sent or constant looked up, the
policy is asked (`authorize`). Trees are evaluated at the sites where they stand, so that a literal is
the same thing each time it is evaluated.
-/

set_option autoImplicit false
set_option relaxedAutoImplicit false

namespace Treewalk.Eval

open Run

/-! ### Children -/

/-- The child at a place, which has to be there. -/
def childAt (children : List Site) (place : Nat) : Run Site :=
  match children[place]? with
  | some child => value child
  | none => refuse (.plain .position)

/-- The only two children. -/
def twoOf : List Site → Run (Site × Site)
  | [first, second] => value (first, second)
  | _ => refuse (.plain .value)

/-- The only three children. -/
def threeOf : List Site → Run (Site × Site × Site)
  | [first, second, third] => value (first, second, third)
  | _ => refuse (.plain .value)

/-! ### Dispatch -/

/-- The machine that keeps a query, if its policy is a recording one. -/
def requested (receiver : Value) (member node : Tree) (machine : Machine) : Machine :=
  if machine.evaluator.policy.records then
    { machine with requests := ⟨machine.memory.view receiver, member, node⟩ :: machine.requests }
  else machine

/-- Keeps a query of a recording policy. -/
def keepRequest (receiver : Value) (member node : Tree) : Run Unit :=
  change (requested receiver member node)

/-- Whether a member that a tree names is one published for scripts. -/
def isPublished (library : Library) (memory : Memory) (receiver : Value) (member : Tree) : Bool :=
  match member.text? with
  | some name => library.publishes memory receiver name
  | none => false

/-- The log message of a refused query. -/
def denialText (kind : String) (member : Tree) : String :=
  s!"capabilities denied {kind}#{member.plain}"

/-- Asks the policy whether a member of a receiver may be used; if it may not, that is a failure. -/
def authorize (library : Library) (engine : Engine) (receiver : Value) (member node : Tree) :
    Run Unit := do
  keepRequest receiver member node
  let published ← look (isPublished library ·.memory receiver member)
  let policy ← look (·.evaluator.policy)
  let answer ← perform engine (policy.authorize library receiver member node)
  let granted ← look (·.memory.isGranted answer)
  note (.query receiver member node published granted)
  if granted then return ()
  else
    let kind ← look (·.memory.kindName receiver)
    log .warning .evaluator (denialText kind member)
    refuseAt node (.denied receiver kind member)

/-- The trace of a dispatch: the tag of the receiver's node, the receiver, the member, the kinds of the
arguments, and whether there is a block. It is missing when the receiver or the member cannot be
printed. -/
def traceText (memory : Memory) (receiver : Value) (member : Tree) (arguments : List Value)
    (block : Option Value) (receiverNode : Tree) : Except Flaw String := do
  let shown ← (memory.view receiver).inspect
  let name ← member.written Tree.plain
  let tag :=
    match receiverNode with
    | .leaf _ => "self"
    | .node own _ => own
  let kinds := ", ".intercalate (arguments.map memory.kindName)
  return "(" ++ tag ++ " " ++ shown ++ ")." ++ name ++ "(" ++ kinds ++ ")" ++
    (if block.isSome then " \x7b ... \x7d" else "")

/-- Logs the trace of a dispatch, if it would be kept. That it cannot be printed then is noted. -/
def trace (receiver : Value) (member : Tree) (arguments : List Value) (block : Option Value)
    (receiverNode : Tree) : Run Unit := do
  if (← look Machine.threshold) ≤ Log.Severity.debug.number then
    match ← look (traceText ·.memory receiver member arguments block receiverNode) with
    | .ok text => log .debug .evaluator text
    | .error flaw =>
      note (.untraced receiver member)
      refuse (.plain flaw.kind)
  else return ()

/-- Sends a member that a tree names; only a text can name one. -/
def invoke (library : Library) (receiver : Value) (member : Tree) (arguments : List Value)
    (block : Option Value) : Action Value :=
  match member.text? with
  | some name => library.invoke receiver name arguments block
  | none => Action.refuse (.plain .type)

/-- Sends a member, which is noted. There is no other way to send one. -/
def deliver (library : Library) (engine : Engine) (receiver : Value) (member : Tree)
    (arguments : List Value) (block : Option Value) : Run Value := do
  note (.invocation receiver member arguments block)
  perform engine (invoke library receiver member arguments block)

/-- Sends a member under the policy. Failures of the interpreter's own that concern no node yet
concern the sending node. -/
def dispatch (library : Library) (engine : Engine) (receiver : Value) (member : Tree)
    (arguments : List Value) (block : Option Value) (node receiverNode : Tree) : Run Value := do
  authorize library engine receiver member node
  trace receiver member arguments block receiverNode
  mapFailure (Failure.locate node) (deliver library engine receiver member arguments block)

/-- A value as a block: nil stands for none. -/
def asBlock : Value → Option Value
  | .nil => none
  | given => some given

/-- What an evaluated site contributes to a list: the items of a spread, and else its value. -/
def contribution (site : Site) (item : Value) : Run (List Value) :=
  if site.tree.hasTag "splat" then compute item.spread else value [item]

/-- Evaluates sites from left to right, putting the items of spreads in their place. -/
def evaluateList (engine : Engine) : List Site → Run (List Value)
  | [] => value []
  | site :: rest => do
    let item ← engine.evaluate site
    let items ← contribution site item
    let others ← evaluateList engine rest
    return items ++ others

/-- Splits a block argument off the end of an argument list. -/
def splitBlockPass (sites : List Site) : List Site × Option Site :=
  match sites.getLast? with
  | some last =>
    if last.tree.hasTag "block_pass" then (sites.dropLast, some last) else (sites, none)
  | none => (sites, none)

/-- Evaluates the arguments and the block argument of a send and dispatches it. -/
def sendWith (library : Library) (engine : Engine) (node receiverNode member : Tree)
    (argumentNodes : List Site) (receiver : Value) (block : Option Value) : Run Value := do
  match splitBlockPass argumentNodes with
  | (_, none) =>
    let arguments ← evaluateList engine argumentNodes
    dispatch library engine receiver member arguments block node receiverNode
  | (plain, some blockNode) =>
    if block.isSome then refuseAt node .blockConflict
    else
      let arguments ← evaluateList engine plain
      let given ← engine.evaluate blockNode
      dispatch library engine receiver member arguments (asBlock given) node receiverNode

/-- The value of a site, or the context where nothing stands. -/
def subject (engine : Engine) (site : Site) : Run Value :=
  if site.tree.isAbsent then look (·.evaluator.context) else engine.evaluate site

/-- Evaluates a send, perhaps with an attached block. A safe send to nil stops at the receiver. -/
def send (library : Library) (engine : Engine) (safe : Bool) (node : Tree) (children : List Site)
    (block : Option Value) : Run Value :=
  match children with
  | receiverNode :: member :: argumentNodes => do
    let receiver ← subject engine receiverNode
    if safe && receiver.isNil then return .nil
    else sendWith library engine node receiverNode.tree member.tree argumentNodes receiver block
  | _ => refuse (.plain .value)

/-- Evaluates a send with an attached block, which captures the current local chain. -/
def attachBlock (library : Library) (engine : Engine) (children : List Site) : Run Value := do
  let (sendNode, parameters, body) ← threeOf children
  match sendNode.tree with
  | .leaf _ => refuse (.plain .member)
  | .node tag inner =>
    if tag = "send" || tag = "csend" then
      let chain ← look (·.evaluator.locals)
      let block ← close (.block parameters body chain)
      send library engine (tag == "csend") sendNode.tree (Site.childrenOf sendNode.mark inner)
        (some block)
    else refuseAt sendNode.tree (.unsupportedConstruct tag)

/-- Evaluates a block argument; a symbol becomes the proc that sends its name. -/
def passBlock (engine : Engine) (node : Tree) (children : List Site) : Run Value :=
  match children with
  | [] => value .nil
  | first :: _ => do
    match ← engine.evaluate first with
    | .symbol name _ => close (.symbolProc name node)
    | given => return given

/-- Attaches a node to a failed lookup that concerns none. -/
def locateLookup (node : Tree) (failure : Failure) : Failure :=
  if failure.cause.kind = .dispatch then failure.locate node else failure

/-- Looks up a constant, which is noted. There is no other way to look one up. -/
def consult (library : Library) (engine : Engine) (owner : Value) (name : Site) : Run Value := do
  note (.lookup owner name.tree)
  perform engine (library.resolve owner name)

/-- Looks up a constant in an owner under the policy. -/
def resolve (library : Library) (engine : Engine) (owner : Value) (name : Site) (node : Tree) :
    Run Value := do
  authorize library engine owner name.tree node
  mapFailure (locateLookup node) (consult library engine owner name)

/-- Evaluates a constant: one of the context, or one of an owner. -/
def constant (library : Library) (engine : Engine) (node : Tree) (children : List Site) :
    Run Value := do
  let (scope, name) ← twoOf children
  let owner ← subject engine scope
  resolve library engine owner name node

/-! ### Literals -/

/-- The texts of evaluated parts. -/
def evaluateParts (engine : Engine) : List Site → Run (List Value)
  | [] => value []
  | part :: rest => do
    let item ← engine.evaluate part
    let first ← compute (Compute.interpolated item)
    let others ← evaluateParts engine rest
    return first :: others

/-- The texts of evaluated parts, joined. -/
def joinParts (engine : Engine) (parts : List Site) : Run Value := do
  compute (Compute.joined (← evaluateParts engine parts))

/-- The texts of leaves, joined. -/
def joinLeaves (leaves : List Site) : Run Value :=
  compute do
    Compute.joined (← leaves.mapM fun leaf => Compute.asText leaf.toValue)

/-- Splits the options off the end of a pattern. -/
def splitOptions (parts : List Site) : List Site × Option Site :=
  match parts.getLast? with
  | some last => if last.tree.hasTag "regopt" then (parts.dropLast, some last) else (parts, none)
  | none => (parts, none)

/-- The letters of the options of a pattern, if it has any. -/
def optionLetters (engine : Engine) : Option Site → Run String
  | none => value ""
  | some site => do
    let letters ← engine.evaluate site
    return letters.text?.getD ""

/-- Evaluates a regular expression; its options come first. -/
def pattern (engine : Engine) (children : List Site) : Run Value := do
  let (parts, optionNode) := splitOptions children
  let options ← optionLetters engine optionNode
  let source ← joinParts engine parts
  match Regexp.compile (source.text?.getD "") (Regexp.Options.ofLetters options) with
  | .ok regexp => return .regexp regexp
  | .error kind => refuse (.plain kind)

/-- Converts values from left to right, up to the first that cannot be converted. -/
def convertAll (convert : Value → Compute (Except String Value)) :
    List Value → Compute (Except String (List Value))
  | [] => return .ok []
  | item :: rest => do
    match ← convert item with
    | .error kind => return .error kind
    | .ok first =>
      match ← convertAll convert rest with
      | .error kind => return .error kind
      | .ok others => return .ok (first :: others)

/-- A value that is no list as the name of a table entry. What cannot be a key gives the name of its
kind. -/
def plainName (name : Value) : Compute (Except String Value) := do
  let memory ← get
  if (memory.key? name).isSome then return .ok name else return .error (memory.kindName name)

/-- A value as the name of a table entry, given what becomes of cells. -/
def entryName (atCell : Nat → Compute (Except String Value)) :
    Value → Compute (Except String Value)
  | .cell address => atCell address
  | name => plainName name

/-- A cell as the name of a table entry, given what becomes of the cells it leads to: a list becomes the
tuple of the names of its items. -/
def cellName (memory : Memory) (atCell : Nat → Compute (Except String Value)) (address : Nat) :
    Compute (Except String Value) :=
  match memory.heap[address]? with
  | some (.list items) => do
    match ← convertAll (entryName atCell) items with
    | .error kind => return .error kind
    | .ok names => return .ok (← Compute.newTuple names)
  | _ => plainName (.cell address)

/-- A converted name, with its key. -/
def keyName : Except String Value → Compute (Except String (Value × Key))
  | .error kind => return .error kind
  | .ok plain => do
    let memory ← get
    match memory.key? plain with
    | none => return .error (memory.kindName plain)
    | some key => return .ok (plain, key)

/-- The name of a table entry, with its key. Lists become tuples all the way down; one that contains
itself is followed without end. -/
def entryKey (name : Value) : Compute (Except String (Value × Key)) := do
  let memory ← get
  let atCell := follow (fun _ => Compute.refuse .recursion) (cellName memory)
    (memory.heap.size + 1) []
  keyName (← entryName atCell name)

/-- Evaluates the pairs of a table literal from left to right, adding each to the table. -/
def tableEntries (engine : Engine) : List Site → Table → Run Table
  | [], table => value table
  | pair :: rest, table => do
    let item ← engine.evaluate pair
    let (name, stored) ← compute item.pair
    match ← compute (entryKey name) with
    | .error kind => refuseAt pair.tree (.unhashableKey kind)
    | .ok (plain, key) => tableEntries engine rest (table.insert key plain stored)

/-- Evaluates sites from left to right. -/
def evaluateAll (engine : Engine) : List Site → Run (List Value)
  | [] => value []
  | site :: rest => do
    let first ← engine.evaluate site
    let others ← evaluateAll engine rest
    return first :: others

/-- Evaluates the parameter of a block that has only one: a name, or nested parameters. -/
def soleParameter (engine : Engine) (children : List Site) : Run Value :=
  match children with
  | [] => refuse (.plain .position)
  | first :: _ =>
    if first.tree.isNode then do
      match ← evaluateAll engine children with
      | [only] => return only
      | names => newList names
    else value first.toValue

/-! ### Control flow -/

/-- Evaluates sites in order; the last value is the result. -/
def sequence (engine : Engine) : Value → List Site → Run Value
  | result, [] => value result
  | _, site :: rest => do
    let next ← engine.evaluate site
    sequence engine next rest

/-- Splits the clauses of a rescue from what is evaluated when nothing fails. -/
def splitElse (clauses : List Site) : Run (List Site × Option Site) :=
  match clauses.getLast? with
  | none => value ([], none)
  | some last =>
    match last.tree with
    | .leaf .null => value (clauses.dropLast, none)
    | .leaf _ => refuse (.plain .member)
    | .node tag _ =>
      if tag = "resbody" then value (clauses, none) else value (clauses.dropLast, some last)

/-- The log message of a rescued failure. -/
def rescueText (failure : Failure) : String :=
  match failure.cause.message? with
  | some message => s!"rescued {failure.cause.kind.label}: {message}"
  | none => s!"rescued {failure.cause.kind.label}"

/-- Evaluates a body; when it fails, the first clause, and when it does not, what stands for that
case. Both run in the frame of the rescue. -/
def rescued (engine : Engine) (body : Site) (clauses : List Site) (otherwise : Option Site) :
    Run Value := fun machine =>
  match engine.evaluate body machine with
  | (.value result, changed) =>
    match otherwise with
    | some site => engine.evaluate site changed
    | none => (.value result, changed)
  | (.failed failure, changed) =>
    match clauses with
    | [] => (.failed failure, changed)
    | clause :: _ =>
      ((log .debug .evaluator (rescueText failure)).bind fun _ => engine.evaluate clause) changed
  | (.aborted message, changed) => (.aborted message, changed)
  | (.exhausted, changed) => (.exhausted, changed)

/-- Evaluates a rescue. -/
def rescueNode (engine : Engine) (children : List Site) : Run Value :=
  match children with
  | [] => refuse (.plain .value)
  | body :: clauses => do
    let (handlers, otherwise) ← splitElse clauses
    inFrame .locals [] none (rescued engine body handlers otherwise)

/-! ### Calls -/

/-- The bindings that a parameter list makes from arguments; an absent list makes none. -/
def bindArguments (parameters : Site) (arguments : List Value) : Run Table :=
  match parameters.tree with
  | .leaf .null => value []
  | .leaf _ => refuse (.plain .member)
  | .node _ children => bindParameters parameters.mark 0 children arguments []

/-- Calls a block: binds the arguments in a new frame over the chain it captured. -/
def callBlock (engine : Engine) (parameters body : Site) (chain : Chain) (arguments : List Value) :
    Run Value := do
  let bindings ← bindArguments parameters arguments
  inFrame .locals bindings (some chain) (engine.evaluate body)

/-- Calls a value on top of an engine. A block takes no block; the proc of a symbol sends its name to
the first argument. -/
def callValue (library : Library) (engine : Engine) (callee : Value) (arguments : List Value)
    (block : Option Value) : Run Value := do
  match callee with
  | .closure index =>
    match ← look (·.memory.closure? index) with
    | some (.block parameters body chain) =>
      if block.isSome then refuse .blockToBlock
      else callBlock engine parameters body chain arguments
    | some (.symbolProc name node) =>
      match arguments with
      | [] => refuse (.plain .type)
      | receiver :: rest =>
        dispatch library engine receiver (.leaf (.text name)) rest block node (.leaf .null)
    | none => refuse (.plain .type)
  | _ => perform engine (library.apply callee arguments block)

/-! ### Nodes -/

/-- Reads a local variable. -/
def readLocal (node : Tree) (children : List Site) : Run Value := do
  let name := (← childAt children 0).toName
  match ← read? .locals name with
  | some found => return found
  | none => refuseAt node (.undefinedVariable Space.locals.label name.text)

/-- Reads a global variable; one that is not bound is nil. -/
def readGlobal (children : List Site) : Run Value := do
  let name := (← childAt children 0).toName
  return (← read? .globals name).getD .nil

/-- The value that an assignment writes; one without a source writes nil. -/
def source (engine : Engine) (children : List Site) : Run Value :=
  match children[1]? with
  | some site => engine.evaluate site
  | none => value .nil

/-- Writes a local variable. -/
def writeLocal (engine : Engine) (children : List Site) : Run Value := do
  let name := (← childAt children 0).toName
  let item ← source engine children
  write .locals name item
  return item

/-- A range between evaluated bounds. -/
def range (engine : Engine) (exclusive : Bool) (children : List Site) : Run Value := do
  let (lower, upper) ← twoOf children
  let first ← engine.evaluate lower
  let last ← engine.evaluate upper
  compute (Compute.newRange first last exclusive)

/-- The meaning of a node of a construct at a site, given the sites of its children. -/
def node (library : Library) (engine : Engine) (construct : Construct) (site : Site)
    (children : List Site) : Run Value :=
  match construct with
  | .context => look (·.evaluator.context)
  | .send => send library engine false site.tree children none
  | .safeSend => send library engine true site.tree children none
  | .blockPass => passBlock engine site.tree children
  | .constant => constant library engine site.tree children
  | .block => attachBlock library engine children
  | .textLiteral | .intLiteral | .floatLiteral | .parameter =>
    return (← childAt children 0).toValue
  | .symbolLiteral => do
    let name ← childAt children 0
    compute (Compute.newSymbol name.tree.plain)
  | .trueLiteral => value (.bool true)
  | .falseLiteral => value (.bool false)
  | .nilLiteral => value .nil
  | .textParts => joinParts engine children
  | .symbolParts => do
    let name ← joinParts engine children
    compute (Compute.newSymbol (name.text?.getD ""))
  | .pattern => pattern engine children
  | .patternOptions => joinLeaves children
  | .spread =>
    match children with
    | [] => value .nil
    | first :: _ => engine.evaluate first
  | .array => do newList (← evaluateList engine children)
  | .pair => do
    let (name, stored) ← twoOf children
    let first ← engine.evaluate name
    let second ← engine.evaluate stored
    compute (Compute.newTuple [first, second])
  | .hash => do
    let table ← tableEntries engine children []
    compute (Compute.newTable table)
  | .inclusiveRange => range engine false children
  | .exclusiveRange => range engine true children
  | .localRead => readLocal site.tree children
  | .globalRead => readGlobal children
  | .localWrite => writeLocal engine children
  | .targets => do
    newList (← targetNames site.mark 0 (children.map Site.tree))
  | .destructure => do
    let (targets, source) ← twoOf children
    let item ← engine.evaluate source
    Run.destructure targets item
    return item
  | .parameters => do newList (← evaluateAll engine children)
  | .restParameter =>
    match children with
    | [] => value .nil
    | first :: _ => value first.toValue
  | .soleParameter => soleParameter engine children
  | .conjunction => do
    let (left, right) ← twoOf children
    let first ← engine.evaluate left
    if first.isTruthy then engine.evaluate right else return first
  | .disjunction => do
    let (left, right) ← twoOf children
    let first ← engine.evaluate left
    if first.isTruthy then return first else engine.evaluate right
  | .conditional => do
    let (condition, positive, negative) ← threeOf children
    if (← engine.evaluate condition).isTruthy then engine.evaluate positive
    else engine.evaluate negative
  | .rescue => rescueNode engine children
  | .rescueClause => do engine.evaluate (← childAt children 2)
  | .sequence | .keywordSequence => inFrame .locals [] none (sequence engine .nil children)

/-- Notes that the evaluation of a tree begins. -/
def visit (tree : Tree) : Run Unit :=
  change fun machine => machine.noted (.visit tree machine.evaluator)

/-- Makes a node the one evaluated last. -/
def moveTo (tree : Tree) : Run Unit :=
  change fun machine =>
    { machine with evaluator := { machine.evaluator with current := some tree } }

/-- The meaning of a node that is no construct: the handler that was added for its tag is called with the
node. -/
def foreign (library : Library) (engine : Engine) (tag : String) (site : Site) : Run Value := do
  match (← look (·.handlers)).lookup tag with
  | none => refuseAt site.tree (.unsupportedConstruct tag)
  | some handler =>
    moveTo site.tree
    callValue library engine handler [site.toValue] none

/-- The meaning of a site on top of an engine for its parts. An absent tree is nil, and a leaf has no
meaning of its own. -/
def step (library : Library) (engine : Engine) (site : Site) : Run Value := do
  visit site.tree
  match site.tree with
  | .leaf .null => value .nil
  | .leaf scalar => refuse (.notANode scalar.kindName)
  | .node tag children =>
    match Construct.ofTag? tag with
    | none => foreign library engine tag site
    | some construct => do
      moveTo (.node tag children)
      node library engine construct site (Site.childrenOf site.mark children)

/-- The engine that evaluates and calls to a depth. -/
def engine (library : Library) : Nat → Engine
  | 0 => Engine.spent
  | depth + 1 =>
    { evaluate := step library (engine library depth)
      call := callValue library (engine library depth) }

end Treewalk.Eval
