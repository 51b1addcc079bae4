import Treewalk.Failure
import Treewalk.Text.Blank

/-!
Charsets, which say what text bytes stand for. The charset of a document that is given as bytes is named
in its content type; without a name it is UTF-8. In a document, bytes that do not decode become
replacement characters, one for each longest part that begins a character; elsewhere a `Remedy` says
what becomes of them, and of characters that have no bytes.
-/

set_option autoImplicit false
set_option relaxedAutoImplicit false

namespace Treewalk

/-- The charsets that texts are read and written in. -/
inductive Charset where
  | utf8
  | latin1
  | ascii
deriving DecidableEq, Repr, Inhabited

namespace Charset

/-! ### Names -/

/-- The first names of charsets, in lower case with underscores. -/
def firstNames : List (String × Charset) :=
  [("utf_8", utf8), ("latin_1", latin1), ("ascii", ascii)]

/-- The other names of charsets, in lower case with underscores. -/
def otherNames : List (String × Charset) :=
  [("utf8", utf8), ("utf", utf8), ("u8", utf8), ("cp65001", utf8), ("utf8_ucs2", utf8),
    ("utf8_ucs4", utf8), ("latin1", latin1), ("latin", latin1), ("l1", latin1),
    ("iso_8859_1", latin1), ("iso_8859_1_1987", latin1), ("iso8859_1", latin1),
    ("iso8859", latin1), ("8859", latin1), ("cp819", latin1), ("ibm819", latin1),
    ("iso_ir_100", latin1), ("csisolatin1", latin1), ("us_ascii", ascii), ("us", ascii),
    ("646", ascii), ("cp367", ascii), ("ibm367", ascii), ("iso646_us", ascii),
    ("iso_646.irv_1991", ascii), ("iso_ir_6", ascii), ("csascii", ascii),
    ("ansi_x3.4_1968", ascii), ("ansi_x3.4_1986", ascii), ("ansi_x3_4_1968", ascii)]

/-- Whether a character is kept in the name of a charset: an ASCII letter or digit, or a point. -/
def isNamePart (c : Char) : Bool := c.isAlphanum || c == '.'

/-- A name in lower case with an underscore for each run of other characters between kept ones. The flag
says whether such a run stands before the rest. -/
def normalizeFrom : Bool → List Char → List Char
  | _, [] => []
  | isPending, c :: rest =>
    if isNamePart c then
      (if isPending then ['_', c.toLower] else [c.toLower]) ++ normalizeFrom false rest
    else normalizeFrom true rest

/-- The charset of a name. In the other names a point may stand for an underscore. -/
def ofName? (name : String) : Option Charset :=
  let plain := normalizeFrom false (name.toList.dropWhile fun c => !isNamePart c)
  let loose := plain.map fun c => if c = '.' then '_' else c
  (otherNames.lookup (String.ofList plain)).orElse fun _ =>
    (otherNames.lookup (String.ofList loose)).orElse fun _ =>
      firstNames.lookup (String.ofList plain)

/-! ### Content types -/

/-- The word before the name of a charset. -/
def parameterWord : List Char := "charset".toList

/-- A letter of that word in lower case; the long s counts as an s. -/
def foldCase (c : Char) : Char := if c.toNat = 0x17F then 's' else c.toLower

/-- The name after the word for a charset: blanks, an equality sign, blanks, and then what stands
before the next blank or semicolon. -/
def nameAfter? (cs : List Char) : Option (List Char) :=
  match Text.trimLeft cs with
  | '=' :: rest =>
    let name := (Text.trimLeft rest).takeWhile fun c => !Text.isBlank c && c != ';'
    if name.isEmpty then none else some name
  | _ => none

/-- The first name of a charset in a content type. -/
def search? : List Char → Option (List Char)
  | [] => none
  | c :: rest =>
    let word := (c :: rest).take parameterWord.length
    if word.map foldCase = parameterWord then
      match nameAfter? ((c :: rest).drop parameterWord.length) with
      | some name => some name
      | none => search? rest
    else search? rest

/-- A text without the given character at its ends. -/
def stripMark (mark : Char) (cs : List Char) : List Char :=
  ((cs.dropWhile (· == mark)).reverse.dropWhile (· == mark)).reverse

/-- The charset name in a content type, without quotation marks. -/
def nameIn? (contentType : Option String) : Option String :=
  match (contentType.bind fun s => search? s.toList) with
  | some name =>
    let bare := stripMark Text.singleQuote (stripMark Text.doubleQuote name)
    if bare.isEmpty then none else some (String.ofList bare)
  | none => none

/-! ### Decoding -/

/-- The replacement character. -/
def replacement : Char := Char.ofNat 0xFFFD

/-- A character that has begun: its code so far, how many bytes are missing, and the range of the next
one. -/
structure Begun where
  code : Nat
  missing : Nat
  low : Nat
  high : Nat
deriving Repr, Inhabited

/-- What a byte begins: characters, or one that needs more bytes. A missing character stands for bytes
that do not decode. -/
def start (byte : Nat) : List (Option Char) × Option Begun :=
  if byte < 0x80 then ([some (Char.ofNat byte)], none)
  else if 0xC2 ≤ byte && byte < 0xE0 then ([], some ⟨byte - 0xC0, 1, 0x80, 0xBF⟩)
  else if 0xE0 ≤ byte && byte < 0xF0 then
    ([], some ⟨byte - 0xE0, 2, if byte = 0xE0 then 0xA0 else 0x80,
      if byte = 0xED then 0x9F else 0xBF⟩)
  else if 0xF0 ≤ byte && byte < 0xF5 then
    ([], some ⟨byte - 0xF0, 3, if byte = 0xF0 then 0x90 else 0x80,
      if byte = 0xF4 then 0x8F else 0xBF⟩)
  else ([none], none)

/-- Decodes UTF-8, after a character that may have begun. -/
def utf8From : Option Begun → List UInt8 → List (Option Char)
  | none, [] => []
  | some _, [] => [none]
  | none, byte :: rest =>
    let (found, begun) := start byte.toNat
    found ++ utf8From begun rest
  | some begun, byte :: rest =>
    if begun.low ≤ byte.toNat && byte.toNat ≤ begun.high then
      let code := begun.code * 64 + (byte.toNat - 0x80)
      if begun.missing ≤ 1 then some (Char.ofNat code) :: utf8From none rest
      else utf8From (some ⟨code, begun.missing - 1, 0x80, 0xBF⟩) rest
    else
      let (found, next) := start byte.toNat
      none :: found ++ utf8From next rest

/-- The characters that bytes stand for; a missing one stands for bytes that do not decode. -/
def characters : Charset → List UInt8 → List (Option Char)
  | utf8, data => utf8From none data
  | latin1, data => data.map fun byte => some (Char.ofNat byte.toNat)
  | ascii, data =>
    data.map fun byte => if byte.toNat < 0x80 then some (Char.ofNat byte.toNat) else none

/-- Decodes bytes, with replacement characters for those that do not decode. -/
def decode (charset : Charset) (data : List UInt8) : List Char :=
  (charset.characters data).map fun c => c.getD replacement

/-! ### Remedies -/

/-- What becomes of a part that has no counterpart: it fails, is left out, or is replaced. -/
inductive Remedy where
  | fail
  | leaveOut
  | replace
deriving DecidableEq, Repr, Inhabited

/-- The names of remedies. -/
def Remedy.names : List (String × Remedy) :=
  [("strict", .fail), ("ignore", .leaveOut), ("replace", .replace)]

/-- The counterparts of parts, where the named remedy is looked up only when a part has none. -/
def remedied {α : Type} (failure : Kind) (substitute : α) (remedy : String) (parts : List (Option α)) :
    Except Cause (List α) :=
  if parts.all Option.isSome then .ok (parts.filterMap id)
  else
    match Remedy.names.lookup remedy with
    | some .fail => .error (.plain failure)
    | some .leaveOut => .ok (parts.filterMap id)
    | some .replace => .ok (parts.map fun part => part.getD substitute)
    | none => .error (.plain .lookup)

/-- The text that bytes stand for in a named charset. Where there are no bytes, the names do not
matter. -/
def read (charset remedy : String) (data : List UInt8) : Except Cause String :=
  if data.isEmpty then .ok ""
  else
    match ofName? charset with
    | some known => (remedied .decoding replacement remedy (known.characters data)).map String.ofList
    | none => .error (.plain .lookup)

/-- The bytes of a character in a charset, if it has any. -/
def bytes? (charset : Charset) (c : Char) : Option (List UInt8) :=
  match charset with
  | utf8 => some (String.singleton c).toUTF8.toList
  | latin1 => if c.toNat < 0x100 then some [c.toNat.toUInt8] else none
  | ascii => if c.toNat < 0x80 then some [c.toNat.toUInt8] else none

/-- The bytes of a text in a named charset. -/
def write (charset remedy : String) (s : String) : Except Cause (List UInt8) :=
  match ofName? charset with
  | some known =>
    (remedied .encoding ['?'.toNat.toUInt8] remedy (s.toList.map known.bytes?)).map List.flatten
  | none => .error (.plain .lookup)

/-! ### Documents -/

/-- The text of bytes with the given content type; its charset has to be a known one. -/
def text (contentType : Option String) (data : List UInt8) : Except Cause String :=
  match nameIn? contentType with
  | none => .ok (String.ofList (decode utf8 data))
  | some name =>
    match ofName? name with
    | some charset => .ok (String.ofList (decode charset data))
    | none => .error (.plain .lookup)

end Charset

end Treewalk
