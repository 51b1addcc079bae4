import Treewalk.Charset
import Treewalk.Datum
import Treewalk.Json.Reader
import Treewalk.Json.Writer
import Treewalk.Text.Case
import Treewalk.Yaml.Node
import Treewalk.Yaml.Writer

/-!
Documents: text in one of two formats that describes raw data. The format is named, or follows from the
content type, the path or the text itself. Text that is expected in the first format and is not in it
is read in the second, which contains it. What reads the two formats is a loader. `Document.tree?` reads
the tree that a document spells, and `Document.write` writes raw data.
-/

set_option autoImplicit false
set_option relaxedAutoImplicit false

namespace Treewalk.Document

/-- The formats of documents. -/
inductive Format where
  | json
  | yaml
deriving DecidableEq, Repr, Inhabited

namespace Format

/-- The name of a format. -/
def name : Format → String
  | json => "json"
  | yaml => "yaml"

/-- The format of a name, in lower case. -/
def ofName? (name : String) : Option Format :=
  if name = "json" then some json else if name = "yaml" then some yaml else none

end Format

/-! ### Detection -/

/-- A setting that is not empty. -/
def given? : Option String → Option String
  | some "" => none
  | setting => setting

/-- Whether a word stands in a text. -/
def holds (word : String) (cs : List Char) : Bool := (Text.find? word.toList cs).isSome

/-- The format that a content type names. -/
def ofContentType? (contentType : Option String) : Option Format :=
  let cs := Text.lower (contentType.getD "").toList
  if holds "json" cs then some .json else if holds "yaml" cs then some .yaml else none

/-- The format that the ending of a path names. -/
def ofPath? (path : Option String) : Option Format :=
  let cs := Text.lower (path.getD "").toList
  if Text.endsWith ".json".toList cs then some .json
  else if Text.endsWith ".yaml".toList cs || Text.endsWith ".yml".toList cs then some .yaml
  else none

/-- The format that text looks like, unless it is blank. -/
def ofText? (hint : Option String) : Option Format :=
  match Text.trimLeft (hint.getD "").toList with
  | [] => none
  | c :: _ => if c = '[' || c = '\x7b' then some .json else some .yaml

/-- The format of a document, from its content type, else from its path, else from its text. -/
def detect? (contentType hint path : Option String) : Option Format :=
  (ofContentType? contentType).orElse fun _ => (ofPath? path).orElse fun _ => ofText? hint

/-! ### Reading -/

/-- What reads raw data from text. Text in the first format may be none, and text in either format may
be bad in other ways. What is read has no texts with unpaired surrogates. -/
structure Loader where
  json : String → Except Cause (Option Raw)
  yaml : String → Except Cause Raw

instance : Inhabited Loader := ⟨⟨fun _ => .ok none, fun _ => .ok .null⟩⟩

/-- The loader that documents are read with unless another one is given. -/
def Loader.standard : Loader where
  json s := .ok (Json.read? s)
  yaml := Yaml.read

/-- Reads text in a format. -/
def readAs (loader : Loader) : Format → String → Except Cause Raw
  | .json, s => do
    match ← loader.json s with
    | some raw => .ok raw
    | none => loader.yaml s
  | .yaml, s => loader.yaml s

/-- The raw data that a document describes. A format that is named has to be known. -/
def read (loader : Loader) (format contentType : Option String) (s : String) : Except Cause Raw :=
  match given? format with
  | some name =>
    match Format.ofName? name with
    | some known => readAs loader known s
    | none => .error (.unreadableFormat format)
  | none => readAs loader ((detect? contentType (some s) none).getD .yaml) s

/-- The tree that raw data of a document spells; null spells none, and a scalar is no tree. -/
def treeOf? (raw : Raw) : Except Cause (Option Tree) :=
  match raw with
  | .null => .ok none
  | _ => do
    match ← Tree.ofRaw raw with
    | .leaf _ => throw (.notATree raw)
    | tree => return some tree

/-- The tree that a document spells, if it is not empty. -/
def tree? (loader : Loader) (format contentType : Option String) (s : String) :
    Except Cause (Option Tree) := do
  treeOf? (← read loader format contentType s)

/-- The tree that a document of unknown format spells; an empty one spells the null leaf. -/
def parse (loader : Loader) (s : String) : Except Cause Tree := do
  return (← tree? loader none none s).getD (.leaf .null)

/-- The text of raw data that stands where a document is expected. -/
def textOf : Raw → String
  | .text s => s
  | raw => raw.literal

/-! ### Writing -/

/-- The failure of data that a format has no place for. -/
def unfit : Format → Cause
  | .json => .plain .type
  | .yaml => .plain .document

mutual

/-- A datum as raw data for a format. Symbols are text in the first format only. -/
def rawOf (format : Format) : Datum → Except Cause Raw
  | .nil => .ok .null
  | .bool b => .ok (.bool b)
  | .int i => .ok (.int i)
  | .float x => .ok (.float x)
  | .text s => .ok (.text s)
  | .symbol s =>
    match format with
    | .json => .ok (.text s)
    | .yaml => .error (unfit format)
  | .tuple items => do return .list (← rawsOf format items)
  | .list items => do return .list (← rawsOf format items)
  | .table entries => do return .map (← entriesOf format entries)
  | _ => .error (unfit format)

/-- Several data as raw data for a format. -/
def rawsOf (format : Format) : List Datum → Except Cause (List Raw)
  | [] => .ok []
  | item :: rest => do
    let first ← rawOf format item
    return first :: (← rawsOf format rest)

/-- Entries as raw data for a format. The keys of the first format are scalars. -/
def entriesOf (format : Format) : List (Datum × Datum) → Except Cause (List (Raw × Raw))
  | [] => .ok []
  | (key, value) :: rest => do
    let name ← rawOf format key
    let isCompound :=
      match name with
      | .list _ | .map _ => true
      | _ => false
    if format = .json && isCompound then throw (unfit format)
    let stored ← rawOf format value
    return (name, stored) :: (← entriesOf format rest)

end

/-- Writes raw data in a format, laid out or not. -/
def writeAs (format : Format) (isLaidOut : Bool) (raw : Raw) : String :=
  match format with
  | .json => Json.write isLaidOut raw
  | .yaml => Yaml.write isLaidOut raw

/-- The format to write in, named in any case. -/
def target (format : Option String) : Except Cause Format :=
  match Format.ofName? (String.ofList (Text.lower (format.getD "").toList)) with
  | some known => .ok known
  | none => .error (.unwritableFormat format)

/-- Writes raw data. -/
def write (format : Option String) (isLaidOut : Bool) (raw : Raw) : Except Cause String := do
  return writeAs (← target format) isLaidOut raw

/-- Writes the list spelling of a tree. -/
def writeTree (format : Option String) (isLaidOut : Bool) (tree : Tree) : Except Cause String :=
  write format isLaidOut tree.toRaw

/-- Writes a datum. -/
def writeDatum (format : Option String) (isLaidOut : Bool) (datum : Datum) :
    Except Cause String := do
  let known ← target format
  return writeAs known isLaidOut (← rawOf known datum)

end Treewalk.Document
