import Treewalk.Yaml.Plain
import Treewalk.Yaml.Token

/-!
The structure of a document. `Node.ofTokens?` reads tokens as one document of nested scalars, sequences
and mappings; what is left out is an empty scalar. `Node.toRaw` is the raw data that a node describes:
plain scalars stand for what their text says, keys are scalars, a key that is given twice keeps its
first place and its last value, and merged mappings come before the entries of their own mapping.
-/

set_option autoImplicit false
set_option relaxedAutoImplicit false

namespace Treewalk.Yaml

/-- A node of a document. -/
inductive Node where
  | scalar (text : List Char) (isPlain : Bool)
  | sequence (items : List Node)
  | mapping (entries : List (Node × Node))
deriving Repr, Inhabited

namespace Node

/-- What stands for a node that is left out. -/
def empty : Node := scalar [] true

/-! ### From tokens to nodes -/

/-- Where a node stands: in a block collection, after a key of a block mapping, where a sequence need
not be indented, or in a flow collection. -/
inductive Place where
  | block
  | afterKey
  | flow
deriving DecidableEq, Repr, Inhabited

/-- What remains to be read, and the nodes that have names. -/
structure Remaining where
  tokens : List Token
  anchors : List (String × Node) := []
deriving Inhabited

/-- A reader of tokens. -/
abbrev Reader (α : Type) := StateT Remaining Option α

/-- The next token. -/
def peek : Reader (Option Token) := do
  return (← get).tokens.head?

/-- Passes over a token. -/
def advance : Reader Unit :=
  modify fun remaining => { remaining with tokens := remaining.tokens.drop 1 }

/-- Whether the next token is one of the given ones. -/
def nextIsIn (tokens : List Token) : Reader Bool := do
  return ((← peek).map tokens.contains).getD false

/-- Passes over a given token, if it is the next one. -/
def passes (token : Token) : Reader Bool := do
  if (← peek) == some token then
    advance
    return true
  else return false

/-- Fails. -/
def refuse {α : Type} : Reader α := fun _ => none

/-- The node of a name. -/
def named (name : String) : Reader Node := do
  match (← get).anchors.lookup name with
  | some node => return node
  | none => refuse

/-- Gives a node a name that is not taken. -/
def register (name : String) (node : Node) : Reader Unit := do
  if ((← get).anchors.lookup name).isSome then refuse
  else modify fun remaining => { remaining with anchors := (name, node) :: remaining.anchors }

/-- The anchor before a node, if there is one. -/
def anchor : Reader (Option String) := do
  match ← peek with
  | some (.anchor name) =>
    advance
    return some name
  | _ => return none

/-- The anchor and the tag before a node, in either order. -/
def properties : Reader (Option String × Bool) := do
  let first ← anchor
  let isTagged ← passes .tag
  let second ← if isTagged && first.isNone then anchor else pure none
  return (first.orElse fun _ => second, isTagged)

/-- Whether an entry of a flow collection may begin here: the first may at once, any other after a
comma, which is passed over. -/
def mayBegin (isFirst : Bool) : Reader Bool :=
  if isFirst then pure true else passes .flowEntry

mutual

/-- Reads a node. The first argument bounds the number of steps. -/
def read : Nat → Place → Reader Node
  | 0, _ => refuse
  | fuel + 1, place => do
    match ← peek with
    | some (.alias name) =>
      advance
      named name
    | _ =>
      let (name, isTagged) ← properties
      let node ← content fuel place (name.isSome || isTagged) isTagged
      match name with
      | some label => register label node
      | none => pure ()
      return node

/-- Reads the content of a node, which may be left out if the flag allows it. Under a tag a quoted
scalar counts as plain. -/
def content : Nat → Place → Bool → Bool → Reader Node
  | 0, _, _, _ => refuse
  | fuel + 1, place, mayBeEmpty, isTagged => do
    match ← peek with
    | some (.scalar text isPlain) =>
      advance
      return scalar text (isPlain || isTagged)
    | some .flowSequenceStart =>
      advance
      return sequence (← flowItems fuel true)
    | some .flowMappingStart =>
      advance
      return mapping (← flowEntries fuel true)
    | some .entry =>
      if place = .afterKey then return sequence (← looseItems fuel)
      else if mayBeEmpty then return empty
      else refuse
    | some .sequenceStart =>
      if place ≠ .flow then
        advance
        return sequence (← blockItems fuel)
      else if mayBeEmpty then return empty
      else refuse
    | some .mappingStart =>
      if place ≠ .flow then
        advance
        return mapping (← blockEntries fuel)
      else if mayBeEmpty then return empty
      else refuse
    | _ => if mayBeEmpty then return empty else refuse

/-- Reads a node, or nothing before one of the given tokens. -/
def readBefore : Nat → Place → List Token → Reader Node
  | 0, _, _ => refuse
  | fuel + 1, place, stops => do
    if ← nextIsIn stops then return empty else read fuel place

/-- Reads the items of a block sequence. -/
def blockItems : Nat → Reader (List Node)
  | 0 => refuse
  | fuel + 1 => do
    if ← passes .entry then
      let item ← readBefore fuel .block [.entry, .blockEnd]
      return item :: (← blockItems fuel)
    else if ← passes .blockEnd then return []
    else refuse

/-- Reads the items of a sequence that is not indented. -/
def looseItems : Nat → Reader (List Node)
  | 0 => refuse
  | fuel + 1 => do
    if ← passes .entry then
      let item ← readBefore fuel .block [.entry, .key, .value, .blockEnd]
      return item :: (← looseItems fuel)
    else return []

/-- Reads the entries of a block mapping. -/
def blockEntries : Nat → Reader (List (Node × Node))
  | 0 => refuse
  | fuel + 1 => do
    if ← passes .key then
      let key ← readBefore fuel .afterKey [.key, .value, .blockEnd]
      let value ←
        if ← passes .value then readBefore fuel .afterKey [.key, .value, .blockEnd]
        else pure empty
      return (key, value) :: (← blockEntries fuel)
    else if ← passes .blockEnd then return []
    else refuse

/-- Reads the items of a flow sequence. An item that begins with a key is a mapping of one entry. -/
def flowItems : Nat → Bool → Reader (List Node)
  | 0, _ => refuse
  | fuel + 1, isFirst => do
    if ← passes .flowSequenceEnd then return []
    else if ← mayBegin isFirst then
      if ← passes .flowSequenceEnd then return []
      else
        let item ←
          if ← passes .key then
            let key ← readBefore fuel .flow [.value, .flowEntry, .flowSequenceEnd]
            let value ←
              if ← passes .value then readBefore fuel .flow [.flowEntry, .flowSequenceEnd]
              else pure empty
            pure (mapping [(key, value)])
          else read fuel .flow
        return item :: (← flowItems fuel false)
    else refuse

/-- Reads the entries of a flow mapping; a value may be left out. -/
def flowEntries : Nat → Bool → Reader (List (Node × Node))
  | 0, _ => refuse
  | fuel + 1, isFirst => do
    if ← passes .flowMappingEnd then return []
    else if ← mayBegin isFirst then
      if ← passes .flowMappingEnd then return []
      else
        let entry ←
          if ← passes .key then
            let key ← readBefore fuel .flow [.value, .flowEntry, .flowMappingEnd]
            let value ←
              if ← passes .value then readBefore fuel .flow [.flowEntry, .flowMappingEnd]
              else pure empty
            pure (key, value)
          else
            let key ← read fuel .flow
            pure (key, empty)
        return entry :: (← flowEntries fuel false)
    else refuse

end

/-- Passes over the directives before a document, of which one gives the version at most. The flag
says whether there was any. -/
def directives : Nat → Bool → Reader Bool
  | 0, _ => refuse
  | fuel + 1, hasVersion => do
    match ← peek with
    | some (.directive name) =>
      if hasVersion && name = "YAML" then refuse
      else
        advance
        let _ ← directives fuel (hasVersion || name = "YAML")
        return true
    | _ => return false

/-- Reads one document and nothing after it but marks of its end; an empty text has no document. -/
def document (fuel : Nat) : Reader (Option Node) := do
  match ← peek with
  | none => return none
  | some _ =>
    let isDirected ← directives fuel false
    let isExplicit ← passes .documentStart
    if isDirected && !isExplicit then refuse
    else
      let next ← peek
      let isEmpty := isExplicit &&
        match next with
        | none | some .documentStart | some .documentEnd | some (.directive _) => true
        | _ => false
      let node ← if isEmpty then pure empty else read fuel .block
      modify fun remaining =>
        { remaining with tokens := remaining.tokens.dropWhile (· == .documentEnd) }
      match ← peek with
      | none => return some node
      | some _ => refuse

/-- The document that tokens spell, if it is one; without any document the result is nothing. -/
def ofTokens? (tokens : List Token) : Option (Option Node) :=
  ((document (3 * tokens.length + 4)).run { tokens := tokens }).map Prod.fst

/-! ### From nodes to raw data -/

/-- The key of a scalar of raw data; collections are no keys. In a document there is only one
not-a-number. -/
def keyOf? : Raw → Option Key
  | .null => some (Scalar.null.key .common)
  | .bool b => some ((Scalar.bool b).key .common)
  | .int i => some ((Scalar.int i).key .common)
  | .float x => some ((Scalar.float x).key .common)
  | .text s => some ((Scalar.text s).key .common)
  | _ => none

/-- Adds an entry; a key that is there keeps its place and takes the new value. -/
def insertEntry (key : Key) (name value : Raw) : List (Key × Raw × Raw) → List (Key × Raw × Raw)
  | [] => [(key, name, value)]
  | (own, ownName, old) :: rest =>
    if own = key then (own, ownName, value) :: rest
    else (own, ownName, old) :: insertEntry key name value rest

/-- The entries of a map in order, each key once; every key has to be a scalar. -/
def collect : List (Key × Raw × Raw) → List (Raw × Raw) → Except Cause (List (Raw × Raw))
  | entries, [] => .ok (entries.map fun entry => entry.2)
  | entries, (name, value) :: rest =>
    match keyOf? name with
    | some key => collect (insertEntry key name value entries) rest
    | none => .error (.plain .document)

/-- Whether a node as a key has a mapping merged in. -/
def isMerge : Node → Bool
  | scalar text true => Plain.sense text == .merge
  | _ => false

/-- The raw data of a scalar as a key, where the mark of a default value is text. -/
def scalarKey (text : List Char) (isPlain : Bool) : Except Cause Raw :=
  if isPlain && Plain.sense text != .default then Plain.value text
  else .ok (.text (String.ofList text))

mutual

/-- The raw data that a node describes. -/
def toRaw : Node → Except Cause Raw
  | scalar text isPlain =>
    if isPlain then Plain.value text else .ok (.text (String.ofList text))
  | sequence items => do return .list (← toRaws items)
  | mapping entries => do
    let (merged, own) ← toEntries entries
    return .map (← collect [] (merged ++ own))

/-- The raw data that several nodes describe. -/
def toRaws : List Node → Except Cause (List Raw)
  | [] => .ok []
  | item :: rest => do
    let first ← toRaw item
    return first :: (← toRaws rest)

/-- The entries merged into a mapping and its own entries. -/
def toEntries : List (Node × Node) → Except Cause (List (Raw × Raw) × List (Raw × Raw))
  | [] => .ok ([], [])
  | (key, value) :: rest => do
    if isMerge key then
      let first ← mergedEntries value
      let (merged, own) ← toEntries rest
      return (first ++ merged, own)
    else
      let name ←
        match key with
        | scalar text isPlain => scalarKey text isPlain
        | _ => .error (.plain .document)
      let stored ← toRaw value
      let (merged, own) ← toEntries rest
      return (merged, (name, stored) :: own)

/-- The entries that a merged node contributes: those of a mapping, or of a sequence of mappings, the
last mapping first. -/
def mergedEntries : Node → Except Cause (List (Raw × Raw))
  | scalar _ _ => .error (.plain .document)
  | mapping entries => do
    let (merged, own) ← toEntries entries
    return merged ++ own
  | sequence items => mergedItems items

/-- The entries of several merged mappings, the last mapping first. -/
def mergedItems : List Node → Except Cause (List (Raw × Raw))
  | [] => .ok []
  | item :: rest => do
    match item with
    | mapping entries =>
      let (merged, own) ← toEntries entries
      let others ← mergedItems rest
      return others ++ merged ++ own
    | _ => .error (.plain .document)

end

end Node

/-- Reads a document; an empty text describes nothing. -/
def read (s : String) : Except Cause Raw :=
  match (Token.scan? s.toList).bind Node.ofTokens? with
  | some (some node) => node.toRaw
  | some none => .ok .null
  | none => .error (.plain .document)

end Treewalk.Yaml
