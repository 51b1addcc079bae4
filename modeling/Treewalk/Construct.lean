/-!
The constructs that scripts are made of, each named by the tag of its nodes.
-/

set_option autoImplicit false
set_option relaxedAutoImplicit false

namespace Treewalk

/-- The constructs that are evaluated. -/
inductive Construct where
  | context
  | send
  | safeSend
  | blockPass
  | constant
  | block
  | textLiteral
  | intLiteral
  | floatLiteral
  | symbolLiteral
  | trueLiteral
  | falseLiteral
  | nilLiteral
  | textParts
  | symbolParts
  | pattern
  | patternOptions
  | spread
  | array
  | pair
  | hash
  | inclusiveRange
  | exclusiveRange
  | localRead
  | globalRead
  | localWrite
  | targets
  | destructure
  | parameters
  | parameter
  | restParameter
  | soleParameter
  | conjunction
  | disjunction
  | conditional
  | rescue
  | rescueClause
  | sequence
  | keywordSequence
deriving DecidableEq, Repr, Inhabited

namespace Construct

/-- All constructs. -/
def all : List Construct :=
  [context, send, safeSend, blockPass, constant, block, textLiteral, intLiteral, floatLiteral,
    symbolLiteral, trueLiteral, falseLiteral, nilLiteral, textParts, symbolParts, pattern,
    patternOptions, spread, array, pair, hash, inclusiveRange, exclusiveRange, localRead,
    globalRead, localWrite, targets, destructure, parameters, parameter, restParameter,
    soleParameter, conjunction, disjunction, conditional, rescue, rescueClause, sequence,
    keywordSequence]

/-- The tag of a construct's nodes. -/
def tag : Construct → String
  | context => "self"
  | send => "send"
  | safeSend => "csend"
  | blockPass => "block_pass"
  | constant => "const"
  | block => "block"
  | textLiteral => "str"
  | intLiteral => "int"
  | floatLiteral => "float"
  | symbolLiteral => "sym"
  | trueLiteral => "true"
  | falseLiteral => "false"
  | nilLiteral => "nil"
  | textParts => "dstr"
  | symbolParts => "dsym"
  | pattern => "regexp"
  | patternOptions => "regopt"
  | spread => "splat"
  | array => "array"
  | pair => "pair"
  | hash => "hash"
  | inclusiveRange => "irange"
  | exclusiveRange => "erange"
  | localRead => "lvar"
  | globalRead => "gvar"
  | localWrite => "lvasgn"
  | targets => "mlhs"
  | destructure => "masgn"
  | parameters => "args"
  | parameter => "arg"
  | restParameter => "restarg"
  | soleParameter => "procarg0"
  | conjunction => "and"
  | disjunction => "or"
  | conditional => "if"
  | rescue => "rescue"
  | rescueClause => "resbody"
  | sequence => "begin"
  | keywordSequence => "kwbegin"

/-- The construct of a tag. -/
def ofTag? (s : String) : Option Construct := all.find? fun construct => construct.tag == s

end Construct

end Treewalk
