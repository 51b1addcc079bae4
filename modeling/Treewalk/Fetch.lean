import Treewalk.Locator
import Treewalk.Number.Arithmetic

/-!
Fetching a document from the web. A request is made again after a transport failure or a server error,
up to a number of times and after pauses that double; a success or any other answer decides at once.
`Fetch.run` is that loop over the replies that the requests get. What makes the pauses is a parameter,
since a pause can be refused; `Fetch.sleep` says which ones are.
-/

set_option autoImplicit false
set_option relaxedAutoImplicit false

namespace Treewalk.Fetch

/-- What a request gets: a response, or a failure of the named kind. -/
inductive Reply where
  | response (status : Int) (body : String) (contentType : Option String)
  | failure (cause : Cause)
deriving Repr, Inhabited

/-- Whether a failure is one of the transport, which is worth another request. -/
def isTransport : Kind → Bool
  | .connection => true
  | .timeout => true
  | .protocol => true
  | _ => false

/-- The settings of a fetch. -/
structure Settings where
  retries : Nat := 2
  backoff : Binary64
  headers : List (String × Raw) := []
deriving Repr, Inhabited

/-- What a fetch gives. -/
structure Page where
  body : String
  contentType : Option String
deriving DecidableEq, Repr, Inhabited

/-- The record of a fetch: how many requests were made, the pauses between them, and the outcome. -/
structure Record where
  requests : Nat
  pauses : List Binary64
  outcome : Except Cause Page
deriving Inhabited

/-! ### Settings -/

/-- Raw data as a floating-point setting. -/
def floatSetting : Raw → Except Cause Binary64
  | .bool b => .ok (Binary64.ofInt (if b then 1 else 0))
  | .int i => Number.toBinary64 (.int i)
  | .float x => .ok x
  | .text s =>
    match Numeral.float? s with
    | some x => .ok x
    | none => .error (.plain .value)
  | _ => .error (.plain .type)

/-- Raw data as an integer setting. -/
def intSetting : Raw → Except Cause Int
  | .bool b => .ok (if b then 1 else 0)
  | .int i => .ok i
  | .float x => Number.truncate (.float x)
  | .text s =>
    match Numeral.int? s with
    | some i => .ok i
    | none => .error (.plain .value)
  | _ => .error (.plain .type)

/-- The two items of what stands for an entry. -/
def pairOf : Raw → Except Cause (Raw × Raw)
  | .list [name, value] => .ok (name, value)
  | .map [(name, _), (value, _)] => .ok (name, value)
  | .text s =>
    match s.toList with
    | [a, b] => .ok (.text (String.ofList [a]), .text (String.ofList [b]))
    | _ => .error (.plain .value)
  | .list _ => .error (.plain .value)
  | .map _ => .error (.plain .value)
  | _ => .error (.plain .type)

/-- Raw data as headers: a map, or a list of pairs. -/
def headersSetting : Raw → Except Cause (List (String × Raw))
  | .map entries => .ok (entries.map fun entry => (Document.textOf entry.1, entry.2))
  | .list items => do
    let pairs ← items.mapM pairOf
    return pairs.map fun pair => (Document.textOf pair.1, pair.2)
  | .text s => if s.isEmpty then .ok [] else .error (.plain .value)
  | _ => .error (.plain .type)

/-- The pause before the second request, in seconds, unless it is set. -/
def standardBackoff : Binary64 := Decimal.value false 2 (-1)

/-- Reads settings: how long to wait for an answer, how often to try again, how long to pause, and the
headers, in this order. -/
def settings (config : List (Raw × Raw)) : Except Cause Settings := do
  let _ ← floatSetting ((Raw.lookup "timeout" config).getD (.int 5))
  let retries ← intSetting ((Raw.lookup "retries" config).getD (.int 2))
  let backoff ← floatSetting ((Raw.lookup "backoff" config).getD (.float standardBackoff))
  let headers ← headersSetting ((Raw.lookup "headers" config).getD (.map []))
  return { retries := retries.toNat, backoff := backoff, headers := headers }

/-- The kinds of content that the headers ask for; without any, every kind. -/
def accept (headers : List (String × Raw)) : String :=
  let values := headers.filterMap fun header =>
    if Text.lower header.1.toList = "accept".toList then some (Document.textOf header.2) else none
  if values.isEmpty then "*/*" else ", ".intercalate values

/-! ### Requests -/

/-- Whether a status is a success. -/
def isSuccess (status : Int) : Bool := 200 ≤ status && status < 300

/-- Whether a reply is worth another request. -/
def isRetried : Reply → Bool
  | .response status _ _ => 500 ≤ status
  | .failure cause => isTransport cause.kind

/-- How much of a body stands in a message. -/
def previewLength : Nat := 200

/-- What a deciding reply means. -/
def verdict (url : String) : Reply → Except Cause Page
  | .response status body contentType =>
    if isSuccess status then .ok ⟨body, contentType⟩
    else .error (.badStatus status url (String.ofList (body.toList.take previewLength)))
  | .failure cause => .error cause

/-- The pause after an attempt, which doubles from each to the next. -/
def pause (backoff : Binary64) (attempt : Nat) : Except Cause Binary64 := do
  match ← Number.mul (.float backoff) (.int (Int.pow 2 attempt)) with
  | .float x => return x
  | .int i => return Binary64.ofInt i

/-- How many seconds a pause may last: their thousand-millionths are counted by a word. -/
def longestSleep : Int := 9223372036

/-- What comes of a pause of so many seconds, which may be neither too many nor negative. -/
def sleep (seconds : Binary64) : Except Cause Unit :=
  match seconds.compareInt? (-longestSleep), seconds.compareInt? longestSleep with
  | some .lt, _ => .error (.plain .overflow)
  | _, some .gt => .error (.plain .overflow)
  | _, _ =>
    match seconds.compareInt? 0 with
    | none | some .lt => .error (.plain .value)
    | some _ => .ok ()

/-- Pauses after an attempt, and says for how long. -/
def rest (wait : Binary64 → Except Cause Unit) (backoff : Binary64) (attempt : Nat) :
    Except Cause Binary64 := do
  let seconds ← pause backoff attempt
  wait seconds
  return seconds

/-- Requests from an attempt on, with so many tries left after it. -/
def attempts (wait : Binary64 → Except Cause Unit) (url : String) (backoff : Binary64)
    (reply : Nat → Reply) : Nat → Nat → Record
  | attempt, 0 => ⟨1, [], verdict url (reply attempt)⟩
  | attempt, left + 1 =>
    if isRetried (reply attempt) then
      match rest wait backoff attempt with
      | .error cause => ⟨1, [], .error cause⟩
      | .ok seconds =>
        let later := attempts wait url backoff reply (attempt + 1) left
        ⟨later.requests + 1, seconds :: later.pauses, later.outcome⟩
    else ⟨1, [], verdict url (reply attempt)⟩

/-- Fetches a page, given what makes the pauses and the reply that each request gets. -/
def run (wait : Binary64 → Except Cause Unit) (settings : Settings) (url : String)
    (reply : Nat → Reply) : Record :=
  attempts wait url settings.backoff reply 0 settings.retries

/-- The tree of a fetched document, whose content type or address names its format. -/
def treeOf (loader : Document.Loader) (url : String) (page : Page) : Except Cause (Option Tree) :=
  let path := String.ofList (url.toList.takeWhile (· != '?'))
  let format := (Document.detect? page.contentType none (some path)).map Document.Format.name
  Document.tree? loader format page.contentType page.body

end Treewalk.Fetch
