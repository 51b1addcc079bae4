import Treewalk.Console
import Treewalk.Proofs.History
import Treewalk.Proofs.SteadyWalk

/-!
Scripts in files. What becomes of a file is what becomes of its text when a runner handles it as a script
(`Console.settles_runFile`), whatever it is that reads documents, as long as that does not fail for want
of a file. But the command line reports neither a document that is bad for another reason than a bad
value, nor that a value or a report cannot be printed.

The loader that documents are read with by default has all it needs in the text
(`Document.Loader.standard_missesNoFile`).
-/

set_option autoImplicit false
set_option relaxedAutoImplicit false

namespace Treewalk

/-! ### Bad documents -/

/-- A result that is missing for reasons of some kinds only. -/
def FailsAs {α : Type} (kinds : List Kind) (ended : Except Cause α) : Prop :=
  ∀ cause, ended = .error cause → cause.kind ∈ kinds

namespace FailsAs

variable {α β : Type} {kinds : List Kind}

theorem ok (result : α) : FailsAs kinds (.ok result : Except Cause α) := nofun

theorem error {cause : Cause} (hkind : cause.kind ∈ kinds) :
    FailsAs kinds (.error cause : Except Cause α) := by
  rintro _ ⟨⟩
  exact hkind

theorem bind {first : Except Cause α} {next : α → Except Cause β} (hfirst : FailsAs kinds first)
    (hnext : ∀ result, FailsAs kinds (next result)) : FailsAs kinds (first >>= next) := by
  cases first with
  | ok result => exact hnext result
  | error cause => exact .error (hfirst cause rfl)

theorem map {first : Except Cause α} (f : α → β) (hfirst : FailsAs kinds first) :
    FailsAs kinds (first.map f) := by
  cases first with
  | ok result => exact .ok _
  | error cause => exact .error (hfirst cause rfl)

theorem mono {others : List Kind} (hsubset : kinds ⊆ others) {ended : Except Cause α}
    (hended : FailsAs kinds ended) : FailsAs others ended :=
  fun cause hcause ↦ hsubset (hended cause hcause)

end FailsAs

namespace Yaml

/-- The kinds of reasons for which text is no raw data: it does not follow the rules of the format, or
has a bad value. -/
def badKinds : List Kind := [.document, .value]

theorem Plain.failsAs_value (cs : List Char) : FailsAs badKinds (Plain.value cs) := by
  unfold Plain.value
  split
  · exact .ok _
  · split
    · exact .ok _
    · exact .error (by decide)
  · split
    · exact .ok _
    · exact .error (by decide)
  · exact .ok _
  · exact .error (by decide)
  · exact .error (by decide)
  · exact .ok _
  · exact .ok _

namespace Node

theorem failsAs_collect (entries : List (Key × Raw × Raw)) (added : List (Raw × Raw)) :
    FailsAs badKinds (collect entries added) := by
  induction added generalizing entries with
  | nil => exact .ok _
  | cons entry rest ih =>
    obtain ⟨name, value⟩ := entry
    unfold collect
    split
    · exact ih _
    · exact .error (by decide)

theorem failsAs_scalarKey (text : List Char) (isPlain : Bool) :
    FailsAs badKinds (scalarKey text isPlain) := by
  unfold scalarKey
  split
  · exact Plain.failsAs_value text
  · exact .ok _

mutual

theorem failsAs_toRaw (node : Node) : FailsAs badKinds node.toRaw := by
  match node with
  | .scalar text isPlain =>
    unfold toRaw
    split
    · exact Plain.failsAs_value text
    · exact .ok _
  | .sequence items => exact (failsAs_toRaws items).bind fun _ ↦ .ok _
  | .mapping entries =>
    exact (failsAs_toEntries entries).bind fun _ ↦ (failsAs_collect _ _).bind fun _ ↦ .ok _

theorem failsAs_toRaws (items : List Node) : FailsAs badKinds (toRaws items) := by
  match items with
  | [] => exact .ok _
  | item :: rest => exact (failsAs_toRaw item).bind fun _ ↦ (failsAs_toRaws rest).bind fun _ ↦ .ok _

theorem failsAs_toEntries (entries : List (Node × Node)) : FailsAs badKinds (toEntries entries) := by
  match entries with
  | [] => exact .ok _
  | (key, value) :: rest =>
    have hrest := failsAs_toEntries rest
    unfold toEntries
    split
    · exact (failsAs_mergedEntries value).bind fun _ ↦ hrest.bind fun _ ↦ .ok _
    · dsimp only
      split
      · exact (failsAs_scalarKey _ _).bind fun _ ↦ (failsAs_toRaw value).bind fun _ ↦
          hrest.bind fun _ ↦ .ok _
      · exact FailsAs.bind (.error (by decide)) fun _ ↦ (failsAs_toRaw value).bind fun _ ↦
          hrest.bind fun _ ↦ .ok _

theorem failsAs_mergedEntries (node : Node) : FailsAs badKinds (mergedEntries node) := by
  match node with
  | .scalar text isPlain => exact .error (by decide)
  | .mapping entries => exact (failsAs_toEntries entries).bind fun _ ↦ .ok _
  | .sequence items => exact failsAs_mergedItems items

theorem failsAs_mergedItems (items : List Node) : FailsAs badKinds (mergedItems items) := by
  match items with
  | [] => exact .ok _
  | .mapping entries :: rest =>
    exact (failsAs_toEntries entries).bind fun _ ↦ (failsAs_mergedItems rest).bind fun _ ↦ .ok _
  | .scalar text isPlain :: rest => exact .error (by decide)
  | .sequence inner :: rest => exact .error (by decide)

end

end Node

theorem failsAs_read (s : String) : FailsAs badKinds (read s) := by
  unfold read
  split
  · exact Node.failsAs_toRaw _
  · exact .ok _
  · exact .error (by decide)

end Yaml

namespace Tree

/-- The kinds of reasons for which raw data spells no tree: it has a bad value, or something that lists
no children where children are listed. -/
def badKinds : List Kind := [.value, .type]

theorem failsAs_payload (tag : String) (scalar : Scalar) : FailsAs badKinds (payload tag scalar) := by
  unfold payload
  split
  · split
    · exact .ok _
    · exact .error (by decide)
  · split
    · split
      · exact .ok _
      · exact .error (by decide)
    · split
      · exact .ok _
      · exact .error (by decide)
    · exact .ok _

theorem failsAs_adopted (tag : String) (children : List Tree) :
    FailsAs badKinds (adopted tag children) := by
  induction children with
  | nil => exact .ok _
  | cons child rest ih =>
    cases child with
    | leaf scalar => exact (failsAs_payload tag scalar).bind fun _ ↦ ih.bind fun _ ↦ .ok _
    | node inner children => exact ih.bind fun _ ↦ .ok _

theorem failsAs_characters (tag : String) (cs : List Char) :
    FailsAs badKinds (characters tag cs) := by
  induction cs with
  | nil => exact .ok _
  | cons c rest ih => exact (failsAs_payload _ _).bind fun _ ↦ ih.bind fun _ ↦ .ok _

theorem failsAs_scalarBelow (parent : Option String) (scalar : Scalar) :
    FailsAs badKinds (scalarBelow parent scalar) := by
  cases parent with
  | none => exact .ok _
  | some tag => exact failsAs_payload tag scalar

mutual

theorem failsAs_read (parent : Option String) (raw : Raw) : FailsAs badKinds (read parent raw) := by
  match raw with
  | .null | .bool _ | .int _ | .float _ | .text _ | .built (.leaf _) =>
    exact failsAs_scalarBelow _ _
  | .built (.node _ _) => exact .ok _
  | .list [] => exact .error (by decide)
  | .list (head :: rest) =>
    unfold read
    split
    · exact (failsAs_childrenOfItems _ rest).map _
    · exact (failsAs_childrenOfItems _ rest).map _
    · exact .error (show Kind.value ∈ badKinds by decide)
  | .map entries =>
    have hunder (tag name : String) {found : Except Cause (List Tree)}
        (hfound : childrenUnder tag name entries = some found) : FailsAs badKinds found :=
      failsAs_childrenUnder tag name entries found hfound
    have honly (tag name : String) {found : Except Cause Tree}
        (hfound : childUnder tag name entries = some found) : FailsAs badKinds found :=
      failsAs_childUnder tag name entries found hfound
    unfold read
    split
    · refine .map _ ?_
      split
      · next hfound => exact hunder _ _ hfound
      · split
        · next hfound => exact (honly _ _ hfound).map _
        · split
          · next hfound => exact (honly _ _ hfound).map _
          · exact .ok _
    · exact .error (show Kind.value ∈ badKinds by decide)

theorem failsAs_childrenOfItems (tag : String) (items : List Raw) :
    FailsAs badKinds (childrenOfItems tag items) := by
  match items with
  | [] => exact .ok _
  | item :: rest =>
    exact (failsAs_read _ item).bind fun _ ↦ (failsAs_childrenOfItems tag rest).bind fun _ ↦ .ok _

theorem failsAs_childrenOfKeys (tag : String) (entries : List (Raw × Raw)) :
    FailsAs badKinds (childrenOfKeys tag entries) := by
  match entries with
  | [] => exact .ok _
  | (key, _) :: rest =>
    exact (failsAs_read _ key).bind fun _ ↦ (failsAs_childrenOfKeys tag rest).bind fun _ ↦ .ok _

theorem failsAs_childrenOf (tag : String) (raw : Raw) : FailsAs badKinds (childrenOf tag raw) := by
  match raw with
  | .null => exact .ok _
  | .bool b =>
    cases b with
    | true => exact .error (by decide)
    | false => exact .ok _
  | .int i =>
    unfold childrenOf
    split
    · exact .ok _
    · exact .error (by decide)
  | .float x =>
    unfold childrenOf
    split
    · exact .ok _
    · exact .error (by decide)
  | .text s => exact failsAs_characters tag s.toList
  | .list items => exact failsAs_childrenOfItems tag items
  | .map entries => exact failsAs_childrenOfKeys tag entries
  | .built (.node _ children) => exact failsAs_adopted tag children
  | .built (.leaf _) => exact .error (by decide)

theorem failsAs_childrenUnder (tag name : String) (entries : List (Raw × Raw))
    (found : Except Cause (List Tree)) (hfound : childrenUnder tag name entries = some found) :
    FailsAs badKinds found := by
  match entries with
  | [] => cases hfound
  | (key, value) :: rest =>
    unfold childrenUnder at hfound
    split at hfound
    · split at hfound
      · obtain rfl := Option.some.inj hfound
        exact failsAs_childrenOf tag value
      · exact failsAs_childrenUnder tag name rest found hfound
    · exact failsAs_childrenUnder tag name rest found hfound

theorem failsAs_childUnder (tag name : String) (entries : List (Raw × Raw))
    (found : Except Cause Tree) (hfound : childUnder tag name entries = some found) :
    FailsAs badKinds found := by
  match entries with
  | [] => cases hfound
  | (key, value) :: rest =>
    unfold childUnder at hfound
    split at hfound
    · split at hfound
      · obtain rfl := Option.some.inj hfound
        exact failsAs_read _ value
      · exact failsAs_childUnder tag name rest found hfound
    · exact failsAs_childUnder tag name rest found hfound

end

end Tree

namespace Document

/-- A loader that does not fail for want of a file. -/
def Loader.MissesNoFile (loader : Loader) : Prop :=
  ∀ s cause, loader.json s = .error cause ∨ loader.yaml s = .error cause → cause.kind ≠ .missingFile

/-- The loader that documents are read with by default has all it needs in the text. -/
theorem Loader.standard_missesNoFile : standard.MissesNoFile := by
  rintro s cause (hjson | hyaml) hkind
  · cases hjson
  · have hbad := Yaml.failsAs_read s cause hyaml
    rw [hkind] at hbad
    exact absurd hbad (by decide)

variable {loader : Loader}

theorem kind_readAs (hloader : loader.MissesNoFile) {format : Format} {s : String} {cause : Cause}
    (hread : readAs loader format s = .error cause) : cause.kind ≠ .missingFile := by
  cases format with
  | yaml => exact hloader s cause (Or.inr hread)
  | json =>
    unfold readAs at hread
    dsimp only at hread
    rcases hjson : loader.json s with found | _ | raw
    · rw [hjson] at hread
      obtain rfl := Except.error.inj hread
      exact hloader s _ (Or.inl hjson)
    · rw [hjson] at hread
      exact hloader s cause (Or.inr hread)
    · rw [hjson] at hread
      cases hread

theorem kind_read (hloader : loader.MissesNoFile) {format contentType : Option String} {s : String}
    {cause : Cause} (hread : read loader format contentType s = .error cause) :
    cause.kind ≠ .missingFile := by
  unfold read at hread
  cases hgiven : given? format with
  | none =>
    rw [hgiven] at hread
    exact kind_readAs hloader hread
  | some name =>
    rw [hgiven] at hread
    dsimp only at hread
    cases hname : Format.ofName? name with
    | some known =>
      rw [hname] at hread
      exact kind_readAs hloader hread
    | none =>
      rw [hname] at hread
      obtain rfl := Except.error.inj hread
      exact nofun

/-- The kinds of reasons for which raw data spell no document. -/
theorem failsAs_treeOf? (raw : Raw) : FailsAs Tree.badKinds (treeOf? raw) := by
  have hspelled : FailsAs Tree.badKinds (Tree.ofRaw raw) := Tree.failsAs_read none raw
  unfold treeOf?
  split
  · exact .ok _
  · refine hspelled.bind fun tree ↦ ?_
    cases tree with
    | leaf scalar => exact .error (show Kind.value ∈ Tree.badKinds by decide)
    | node tag children => exact .ok _

theorem kind_tree? (hloader : loader.MissesNoFile) {format contentType : Option String} {s : String}
    {cause : Cause} (htree : tree? loader format contentType s = .error cause) :
    cause.kind ≠ .missingFile := by
  unfold tree? at htree
  cases hread : read loader format contentType s with
  | error found =>
    rw [hread] at htree
    obtain rfl := Except.error.inj htree
    exact kind_read hloader hread
  | ok raw =>
    rw [hread] at htree
    intro hkind
    have hbad := failsAs_treeOf? raw cause htree
    rw [hkind] at hbad
    exact absurd hbad (by decide)

end Document

/-! ### Files -/

namespace Console

/-- Reads text as the document in the file at a path is read: the ending of the path names its format. -/
def readerFor (loader : Document.Loader) (path s : String) : Except Cause Tree := do
  let format := (Document.detect? none none (some path)).map Document.Format.name
  return (← Document.tree? loader format none s).getD (.leaf .null)

/-- The text of a file, with the line ends that a reader sees, handled as a script by the runner of a
command line that reads documents so. -/
def handleFile (loader : Document.Loader) (path s : String) : Outcome Report × Machine :=
  ({ (start loader).1 with parser := readerFor loader path } : Runner).handle Host.kernelLibrary none
    (.text (String.ofList (Locator.lineFeeds s.toList))) (start loader).2

/-- What becomes of a file, given what becomes of its text when it is handled as a script. It should end
in one of two ways: a value is printed, or a report is. But a document that is bad for another reason
than a bad value is not reported, and neither is it that a value or a report cannot be printed. There is
no host code that would abort a script. -/
inductive Settles (handled : Outcome Report × Machine) : Transcript × Ending → Prop where
  | printed {value : Value} {shown : String} (success : handled.1 = .value (.success value))
      (shows : (handled.2.memory.view value).inspect = .ok shown) :
      Settles handled ({ output := shown ++ "\n" }, .exited 0)
  | failed {failure : Failure} {shown : String} (failed : handled.1 = .value (.failed failure))
      (shows : (Report.failed failure).formatIn wording = .ok shown) :
      Settles handled ({ errors := shown ++ "\n" }, .exited 1)
  | unparsed {cause : Cause} (unparsed : handled.1 = .value (.unparsed cause))
      (bad : cause.kind.isValue = true) :
      Settles handled ({ errors := Report.labelled wording "ParseError" cause ++ "\n" }, .exited 1)
  | malformed {cause : Cause} (unparsed : handled.1 = .value (.unparsed cause))
      (bad : cause.kind.isValue = false) : Settles handled ({}, .escaped ⟨cause, none⟩)
  | unprintable {value : Value} {flaw : Flaw} (success : handled.1 = .value (.success value))
      (hides : (handled.2.memory.view value).inspect = .error flaw) :
      Settles handled ({}, .escaped ⟨.plain flaw.kind, none⟩)
  | unreported {failure : Failure} {flaw : Flaw} (failed : handled.1 = .value (.failed failure))
      (hides : (Report.failed failure).formatIn wording = .error flaw) :
      Settles handled ({}, .escaped ⟨.plain flaw.kind, none⟩)

section

variable {loader : Document.Loader}

theorem readerFor_eq (path s : String) :
    readerFor loader path s = (Document.tree? loader ((Document.detect? none none (some path)).map
      Document.Format.name) none s).map fun tree ↦ tree.getD (.leaf .null) := by
  unfold readerFor
  dsimp only
  cases Document.tree? _ _ none s <;> rfl

theorem load_eq {store : Locator.Store} {path s : String} (hread : store path = .ok s) :
    Locator.load loader store path =
      Document.tree? loader ((Document.detect? none none (some path)).map Document.Format.name) none
        (String.ofList (Locator.lineFeeds s.toList)) := by
  unfold Locator.load
  rw [hread]
  rfl

theorem complain_blank (s : String) : Transcript.complain s {} = { errors := s ++ "\n" } := by
  simp [Transcript.complain]

theorem say_blank (s : String) : Transcript.say s {} = { output := s ++ "\n" } := by
  simp [Transcript.say, Transcript.write]

theorem settles_error {handled : Outcome Report × Machine} {cause : Cause}
    (hhandled : handled.1 = .value (.unparsed cause)) (hkind : cause.kind ≠ .missingFile)
    (written : String) : Settles handled
      (if cause.kind = .missingFile then
        (Transcript.complain ("Error: file not found: " ++ written) {}, .exited 1)
      else if cause.kind.isValue then
        (Transcript.complain (Report.labelled wording "ParseError" cause) {}, .exited 1)
      else ({}, .escaped ⟨cause, none⟩)) := by
  rw [if_neg hkind]
  split
  · next hvalue =>
    rw [complain_blank]
    exact .unparsed hhandled hvalue
  · next hvalue => exact .malformed hhandled (Bool.eq_false_iff.mpr hvalue)

/-- What becomes of a file that can be read. -/
theorem settles_runFile (hloader : loader.MissesNoFile) {store : Locator.Store} {path s : String}
    (hread : store path = .ok s) (written : String) :
    Settles (handleFile loader path s) (runFile loader store written path) := by
  have hreader : readerFor loader path (String.ofList (Locator.lineFeeds s.toList)) = _ :=
    readerFor_eq path _
  unfold runFile
  rw [load_eq hread]
  rcases hloaded : Document.tree? loader _ none _ with cause | tree
  · rw [hloaded] at hreader
    refine settles_error ?_ (Document.kind_tree? hloader hloaded) written
    unfold handleFile Runner.handle Runner.parse
    dsimp only
    rw [hreader]
    rfl
  · rw [hloaded] at hreader
    have hhandled : handleFile loader path s = (start loader).1.handle Host.kernelLibrary none
        (.tree (tree.getD (.leaf .null))) (start loader).2 := by
      unfold handleFile Runner.handle Runner.parse
      dsimp only
      rw [hreader]
      rfl
    obtain ⟨outcome, after, hended⟩ :
        ∃ outcome after, handleFile loader path s = Runner.reported (outcome, after) :=
      ⟨_, _, hhandled.trans (Runner.evaluate_apply _ _ _ _ _)⟩
    dsimp only [react]
    rw [← hhandled, hended]
    have hfailed (failure : Failure) (last : Machine) :
        Settles (.value (.failed failure), last)
          (settle (reactionTo (.value (.failed failure)) last.memory)) := by
      dsimp only [reactionTo]
      cases hshown : (Report.failed failure).formatIn wording with
      | ok shown =>
        dsimp only [printing, settle]
        rw [complain_blank]
        exact .failed rfl hshown
      | error flaw => exact .unreported rfl hshown
    cases outcome with
    | value value =>
      dsimp only [Runner.reported, reactionTo]
      cases hshown : (after.memory.view value).inspect with
      | ok shown =>
        dsimp only [printing, settle]
        rw [say_blank]
        exact .printed rfl hshown
      | error flaw => exact .unprintable rfl hshown
    | failed failure => exact hfailed failure _
    | exhausted => exact hfailed _ _
    | aborted message =>
      have haborted : (handleFile loader path s).1 = .aborted message := congrArg Prod.fst hended
      exact absurd haborted (Runner.not_aborted_handle Host.steady_kernelLibrary _ _ _ _
        (Policy.steady_permissive _) message)

end

namespace Settles

variable {handled : Outcome Report × Machine} {ended : Transcript × Ending}

/-- A file ends with success exactly when its text is a script that succeeds with a value that can be
printed. -/
theorem exited_zero_iff (hsettles : Settles handled ended) :
    ended.2 = .exited 0 ↔ ∃ value shown, handled.1 = .value (.success value) ∧
      (handled.2.memory.view value).inspect = .ok shown := by
  constructor
  · intro hended
    cases hsettles with
    | printed success shows => exact ⟨_, _, success, shows⟩
    | _ => cases hended
  · rintro ⟨value, shown, hvalue, hshown⟩
    cases hsettles with
    | printed success shows => rfl
    | unprintable success hides =>
      obtain ⟨⟩ := success.symm.trans hvalue
      cases hides.symm.trans hshown
    | failed other | unparsed other | malformed other | unreported other =>
      cases other.symm.trans hvalue

/-- A file ends with a report exactly when its text is a script that fails with a report that can be
printed, or no document because of a bad value. -/
theorem exited_one_iff (hsettles : Settles handled ended) :
    ended.2 = .exited 1 ↔
      (∃ failure shown, handled.1 = .value (.failed failure) ∧
        (Report.failed failure).formatIn wording = .ok shown) ∨
      ∃ cause, handled.1 = .value (.unparsed cause) ∧ cause.kind.isValue = true := by
  constructor
  · intro hended
    cases hsettles with
    | failed failed shows => exact Or.inl ⟨_, _, failed, shows⟩
    | unparsed unparsed bad => exact Or.inr ⟨_, unparsed, bad⟩
    | _ => cases hended
  · rintro (⟨failure, shown, hfailed, hshown⟩ | ⟨cause, hunparsed, hbad⟩)
    · cases hsettles with
      | failed failed shows => rfl
      | unreported failed hides =>
        obtain ⟨⟩ := failed.symm.trans hfailed
        cases hides.symm.trans hshown
      | printed other | unparsed other | malformed other | unprintable other =>
        cases other.symm.trans hfailed
    · cases hsettles with
      | unparsed unparsed bad => rfl
      | malformed unparsed bad =>
        obtain ⟨⟩ := unparsed.symm.trans hunparsed
        cases bad.symm.trans hbad
      | printed other | failed other | unprintable other | unreported other =>
        cases other.symm.trans hunparsed

/-- A failure escapes exactly when the text is no document for another reason than a bad value, or when
its value or the report of its failure cannot be printed. -/
theorem escaped_iff (hsettles : Settles handled ended) :
    (∃ failure, ended.2 = .escaped failure) ↔
      (∃ cause, handled.1 = .value (.unparsed cause) ∧ cause.kind.isValue = false) ∨
      (∃ value flaw, handled.1 = .value (.success value) ∧
        (handled.2.memory.view value).inspect = .error flaw) ∨
      ∃ failure flaw, handled.1 = .value (.failed failure) ∧
        (Report.failed failure).formatIn wording = .error flaw := by
  constructor
  · rintro ⟨failure, hended⟩
    cases hsettles with
    | malformed unparsed bad => exact Or.inl ⟨_, unparsed, bad⟩
    | unprintable success hides => exact Or.inr (Or.inl ⟨_, _, success, hides⟩)
    | unreported failed hides => exact Or.inr (Or.inr ⟨_, _, failed, hides⟩)
    | _ => cases hended
  · rintro (⟨cause, hunparsed, hbad⟩ | ⟨value, flaw, hvalue, hhidden⟩ | ⟨failure, flaw, hfailed, hhidden⟩)
    · cases hsettles with
      | malformed unparsed bad => exact ⟨_, rfl⟩
      | unparsed unparsed bad =>
        obtain ⟨⟩ := unparsed.symm.trans hunparsed
        cases bad.symm.trans hbad
      | printed other | failed other | unprintable other | unreported other =>
        cases other.symm.trans hunparsed
    · cases hsettles with
      | unprintable success hides => exact ⟨_, rfl⟩
      | printed success shows =>
        obtain ⟨⟩ := success.symm.trans hvalue
        cases shows.symm.trans hhidden
      | failed other | unparsed other | malformed other | unreported other =>
        cases other.symm.trans hvalue
    · cases hsettles with
      | unreported failed hides => exact ⟨_, rfl⟩
      | failed failed shows =>
        obtain ⟨⟩ := failed.symm.trans hfailed
        cases shows.symm.trans hhidden
      | printed other | unparsed other | malformed other | unprintable other =>
        cases other.symm.trans hfailed

end Settles

/-- The status of an ending. -/
def Ending.status? : Ending → Option Nat
  | .exited status => some status
  | _ => none

/-- The kind of failure that an ending lets escape. -/
def Ending.escapedKind? : Ending → Option Kind
  | .escaped failure => some failure.cause.kind
  | _ => none

/-- A store with one file. -/
def lone (s : String) : Locator.Store := Locator.Store.ofFiles "/" [("/tree.json", s)]

end Console

end Treewalk
