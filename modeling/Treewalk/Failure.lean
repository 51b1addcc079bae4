import Treewalk.Raw
import Treewalk.Value

/-!
Failures. A cause says what went wrong; its kind groups causes for reports, and its message, where
the library words one, is derived from the cause in one place. Causes that only the platform words
have a kind and no message. A failure of the interpreter proper may carry the node it concerns.
-/

set_option autoImplicit false
set_option relaxedAutoImplicit false

namespace Treewalk

/-- The kinds of failures. The first six are the interpreter's own. -/
inductive Kind where
  | undefinedVariable
  | unsupportedConstruct
  | blockConflict
  | authorizationDenied
  | dispatch
  | interpreter
  | type
  | value
  | member
  | position
  | entry
  | division
  | overflow
  | runtime
  | recursion
  | lookup
  | decoding
  | encoding
  | missingFile
  | directory
  | notDirectory
  | pattern
  | document
  | connection
  | timeout
  | protocol
  | redirects
deriving DecidableEq, Repr, Inhabited

namespace Kind

/-- The name of a kind in logs and reports. -/
def label : Kind → String
  | undefinedVariable => "UndefinedVariable"
  | unsupportedConstruct => "UnsupportedConstruct"
  | blockConflict => "BlockConflict"
  | authorizationDenied => "AuthorizationDenied"
  | dispatch => "HostDispatchError"
  | interpreter => "InterpretrError"
  | type => "TypeError"
  | value => "ValueError"
  | member => "AttributeError"
  | position => "IndexError"
  | entry => "KeyError"
  | division => "ZeroDivisionError"
  | overflow => "OverflowError"
  | runtime => "RuntimeError"
  | recursion => "RecursionError"
  | lookup => "LookupError"
  | decoding => "UnicodeDecodeError"
  | encoding => "UnicodeEncodeError"
  | missingFile => "FileNotFoundError"
  | directory => "IsADirectoryError"
  | notDirectory => "NotADirectoryError"
  | pattern => "error"
  | document => "YAMLError"
  | connection => "ConnectError"
  | timeout => "ReadTimeout"
  | protocol => "UnsupportedProtocol"
  | redirects => "TooManyRedirects"

/-- Whether failures of a kind are the interpreter's own, and so may carry a node. -/
def isInterpreter : Kind → Bool
  | undefinedVariable | unsupportedConstruct | blockConflict | authorizationDenied | dispatch
  | interpreter => true
  | _ => false

/-- Whether failures of a kind count as bad values when a document is read. -/
def isValue : Kind → Bool
  | value | decoding | encoding => true
  | _ => false

end Kind

/-- The kind of failure that a flaw in printing is. -/
def Flaw.kind : Flaw → Kind
  | .malformed => .member
  | .lengthy => .value
  | .endless => .recursion

theorem Flaw.isInterpreter_kind (flaw : Flaw) : flaw.kind.isInterpreter = false := by
  cases flaw <;> rfl

/-- What went wrong. -/
inductive Cause where
  /-- A variable of a namespace was read before any frame bound it. -/
  | undefinedVariable (space name : String)
  /-- A node has a tag that is not handled where it stands. -/
  | unsupportedConstruct (tag : String)
  /-- A call was given a block argument and an attached block. -/
  | blockConflict
  /-- The policy refused a member of a receiver, which is of the named kind. -/
  | denied (receiver : Value) (kind : String) (member : Tree)
  /-- A receiver, described in words, has no such member. -/
  | undefinedMember (member receiver : String)
  /-- A member that is not callable was given arguments or a block. -/
  | notCallable (member receiver : String)
  /-- No constant is found under the path. -/
  | uninitializedConstant (path : String)
  /-- Dispatch failed for a reason of the host's own. -/
  | dispatch (reason : String)
  /-- The interpreter failed for a reason of the host's own. -/
  | interpreter (reason : String)
  /-- A key of a table literal is of a kind that cannot be a key. -/
  | unhashableKey (kind : String)
  /-- A block was called with a block. -/
  | blockToBlock
  /-- A leaf stands where a node is evaluated. -/
  | notANode (kind : String)
  /-- A range is enumerated whose bounds are not integers; its first bound is of the named kind. -/
  | notEnumerable (kind : String)
  /-- A value of the named kind was to be changed that never changes. -/
  | immutable (kind : String)
  /-- A namespace has no frame to bind a name in. -/
  | noFrame (space name : String)
  /-- A session was started while another one runs. -/
  | sessionRunning
  /-- Raw data that is no tree: neither a tag-headed list nor a tagged map. -/
  | notASpelling (raw : Raw)
  /-- A map without a text tag. -/
  | untagged (raw : Raw)
  /-- A document that describes a scalar. -/
  | notATree (raw : Raw)
  /-- A parser that returned a scalar. -/
  | notParsed (raw : Raw)
  /-- A format that documents are not read from. -/
  | unreadableFormat (format : Option String)
  /-- A format that documents are not written in. -/
  | unwritableFormat (format : Option String)
  /-- A name that is no log level. -/
  | unknownLevel (name : String)
  /-- A response whose status is not a success. -/
  | badStatus (status : Int) (url preview : String)
  /-- A host failure with a message of its own. -/
  | worded (kind : Kind) (message : String)
  /-- A platform failure, which has no message of this library's wording. -/
  | plain (kind : Kind)
deriving Repr, Inhabited

namespace Cause

/-- A format name as it stands in messages. -/
def formatLiteral : Option String → String
  | none => "None"
  | some name => Text.literal name

/-- The kind of a cause. -/
def kind : Cause → Kind
  | undefinedVariable _ _ => .undefinedVariable
  | unsupportedConstruct _ => .unsupportedConstruct
  | blockConflict => .blockConflict
  | denied _ _ _ => .authorizationDenied
  | undefinedMember _ _ => .dispatch
  | notCallable _ _ => .dispatch
  | uninitializedConstant _ => .dispatch
  | dispatch _ => .dispatch
  | interpreter _ => .interpreter
  | unhashableKey _ => .interpreter
  | blockToBlock => .interpreter
  | notANode _ => .type
  | notEnumerable _ => .type
  | immutable _ => .member
  | noFrame _ _ => .runtime
  | sessionRunning => .runtime
  | notASpelling _ => .value
  | untagged _ => .value
  | notATree _ => .value
  | notParsed _ => .value
  | unreadableFormat _ => .value
  | unwritableFormat _ => .value
  | unknownLevel _ => .value
  | badStatus _ _ _ => .runtime
  | worded kind _ => kind
  | plain kind => kind

/-- The message of a cause, if this library words one. -/
def message? : Cause → Option String
  | undefinedVariable space name => some s!"undefined {space} variable `{name}'"
  | unsupportedConstruct tag => some s!"unsupported node type: {tag}"
  | blockConflict => some "both block arg and actual block given"
  | denied _ kind member => some s!"not authorized: {kind}#{member.plain}"
  | undefinedMember member receiver => some s!"undefined method `{member}' for {receiver}"
  | notCallable member receiver => some s!"`{member}' of {receiver} is not callable"
  | uninitializedConstant path => some s!"uninitialized constant {path}"
  | dispatch reason => some reason
  | interpreter reason => some reason
  | unhashableKey kind => some s!"unhashable hash key: {kind}"
  | blockToBlock => some "a block cannot be given to a block"
  | notANode kind => some s!"expected a Node, got {kind}"
  | notEnumerable kind => some s!"can't iterate from {kind}"
  | immutable kind => some s!"{kind} is immutable"
  | noFrame space name => some s!"no active {space} frame to bind `{name}' in"
  | sessionRunning => some "evaluator is already running a session"
  | notASpelling raw => some ("not an s-expression: " ++ raw.literal)
  | untagged raw => some ("parse tree node without a tag: " ++ raw.literal)
  | notATree raw => some ("document does not describe an AST node: " ++ raw.literal)
  | notParsed raw => some ("parser did not produce an AST node: " ++ raw.literal)
  | unreadableFormat format => some ("Unsupported document format: " ++ formatLiteral format)
  | unwritableFormat format =>
    some ("Unsupported serialization format: " ++ formatLiteral format)
  | unknownLevel name => some ("unknown log level: " ++ Text.literal name)
  | badStatus status url preview =>
    some ("HTTP " ++ integerText status ++ " for " ++ url ++ ": " ++ preview)
  | worded _ message => some message
  | plain _ => none

end Cause

/-- A failure: its cause, and the node it concerns if one is known. -/
structure Failure where
  cause : Cause
  node : Option Tree := none
deriving Repr, Inhabited

namespace Failure

/-- Whether a failure is the interpreter's own. -/
def isInterpreter (failure : Failure) : Bool := failure.cause.kind.isInterpreter

/-- Attaches a node to a failure of the interpreter's own that has none. -/
def locate (node : Tree) (failure : Failure) : Failure :=
  if failure.isInterpreter && failure.node.isNone then { failure with node := some node }
  else failure

end Failure

end Treewalk
