import Treewalk.Proofs.Forgetting
import Treewalk.Proofs.ScriptFiles

/-!
Dialogues. Line after line is answered, with nothing, a value or a report (`Console.Answers`), and
no line leaves anything running behind or changes the default context. `Console.Heard` is the run of
such steps; a dialogue hears its lines up to one that leaves, and then ends well
(`Console.lines_answered`). What can break it off is a value that cannot be printed, or a failure
that cannot be reported (`Console.Breaks`). All this is so whatever it is that reads documents, and
as long as no line reaches for the interpreter itself. Between lines all is ready for the next one
(`Console.Ready`), and what lines have bound and stored is forgotten (`Console.Ready.forgotten`).
-/

set_option autoImplicit false
set_option relaxedAutoImplicit false

namespace Treewalk.Console

/-- What a dialogue reads of a line. -/
def sourceOf (line : String) : String := String.ofList (Text.trim line.toList)

/-- Whether a line leaves the dialogue. -/
def leaves (line : String) : Prop := sourceOf line = "exit"

/-- The step over a line that is answered: a blank one with nothing, and any other one with its value or
the report of why it has none. -/
inductive Answers (runner : Runner) (line : String) (machine : Machine) : Reaction → Machine → Prop where
  | blank (blank : sourceOf line = "") : Answers runner line machine .none machine
  | value {value : Value} {shown : String} {changed : Machine} (source : sourceOf line ≠ "")
      (success : runner.handle Host.kernelLibrary none (.text (sourceOf line)) machine =
        (.value (.success value), changed))
      (shows : (changed.memory.view value).inspect = .ok shown) :
      Answers runner line machine (.value shown) changed
  | unparsed {cause : Cause} {changed : Machine} (source : sourceOf line ≠ "")
      (unparsed : runner.handle Host.kernelLibrary none (.text (sourceOf line)) machine =
        (.value (.unparsed cause), changed)) :
      Answers runner line machine (.report (Report.labelled wording "ParseError" cause)) changed
  | failed {failure : Failure} {shown : String} {changed : Machine} (source : sourceOf line ≠ "")
      (failed : runner.handle Host.kernelLibrary none (.text (sourceOf line)) machine =
        (.value (.failed failure), changed))
      (shows : (Report.failed failure).formatIn wording = .ok shown) :
      Answers runner line machine (.report shown) changed

/-- A line that breaks a dialogue off, and how: its value cannot be printed, or the report of why it has
none cannot. -/
inductive Breaks (runner : Runner) (line : String) (machine : Machine) : Ending → Prop where
  | unprintable {value : Value} {flaw : Flaw} {changed : Machine}
      (success : runner.handle Host.kernelLibrary none (.text (sourceOf line)) machine =
        (.value (.success value), changed))
      (hides : (changed.memory.view value).inspect = .error flaw) :
      Breaks runner line machine (.escaped ⟨.plain flaw.kind, none⟩)
  | unreported {failure : Failure} {flaw : Flaw} {changed : Machine}
      (failed : runner.handle Host.kernelLibrary none (.text (sourceOf line)) machine =
        (.value (.failed failure), changed))
      (hides : (Report.failed failure).formatIn wording = .error flaw) :
      Breaks runner line machine (.escaped ⟨.plain flaw.kind, none⟩)

/-- The run over lines that are all answered, none of which leaves, and with which nothing of the
interpreter itself is reached for. -/
inductive Heard (runner : Runner) : Machine → List String → List Reaction → Machine → Prop where
  | nil (machine : Machine) : Heard runner machine [] [] machine
  | cons {machine changed after : Machine} {line : String} {rest : List String} {reaction : Reaction}
      {reactions : List Reaction} (stays : ¬ leaves line)
      (answers : Answers runner line machine reaction changed)
      (unreached : machine.Unreached changed)
      (next : Heard runner changed rest reactions after) :
      Heard runner machine (line :: rest) (reaction :: reactions) after

/-! ### One line -/

section

variable {runner : Runner} {line : String} {machine : Machine}

theorem reactToLine_of_leaves (hleaves : leaves line) :
    reactToLine runner line machine = (.leave, machine) := by
  unfold leaves sourceOf at hleaves
  unfold reactToLine
  rw [hleaves]
  rfl

theorem reactToLine_of_blank (hblank : sourceOf line = "") :
    reactToLine runner line machine = (.none, machine) := by
  unfold sourceOf at hblank
  unfold reactToLine
  rw [hblank]
  rfl

theorem reactToLine_of_source (hsource : sourceOf line ≠ "") (hstays : ¬ leaves line) :
    reactToLine runner line machine = react runner (.text (sourceOf line)) machine := by
  unfold leaves sourceOf at hstays
  unfold reactToLine
  rw [if_neg (by simpa [sourceOf] using hsource), if_neg hstays]
  rfl

/-- A script is handled with a report, unless the host aborts it. -/
theorem report_or_aborted (library : Library) (locals : Option Nat) (script : Script) :
    (∃ report changed, runner.handle library locals script machine = (.value report, changed)) ∨
      ∃ message, (runner.handle library locals script machine).1 = .aborted message := by
  unfold Runner.handle
  cases runner.parse script with
  | error cause => exact Or.inl ⟨_, _, rfl⟩
  | ok tree =>
    dsimp only
    rw [Runner.evaluate_apply]
    generalize Session.run _ _ _ _ = ended
    obtain ⟨value | failure | message | _, after⟩ := ended
    · exact Or.inl ⟨_, _, rfl⟩
    · exact Or.inl ⟨_, _, rfl⟩
    · exact Or.inr ⟨message, rfl⟩
    · exact Or.inl ⟨_, _, rfl⟩

/-- A line that does not leave is answered, or it breaks the dialogue off. -/
theorem answers_or_breaks (hpolicy : (runner.policy.getD Policy.permissive).Steady Host.kernelLibrary)
    (hstays : ¬ leaves line) :
    (∃ reaction changed, Answers runner line machine reaction changed ∧
      reactToLine runner line machine = (reaction, changed)) ∨
    ∃ ending changed, Breaks runner line machine ending ∧
      reactToLine runner line machine = (.give ending, changed) := by
  by_cases hblank : sourceOf line = ""
  · exact Or.inl ⟨_, _, .blank hblank, reactToLine_of_blank hblank⟩
  have haborted := runner.not_aborted_handle Host.steady_kernelLibrary none (.text (sourceOf line))
    machine hpolicy
  obtain ⟨report, changed, hended⟩ := (@report_or_aborted runner machine Host.kernelLibrary none
    (.text (sourceOf line))).resolve_right fun ⟨message, h⟩ ↦ haborted message h
  rw [reactToLine_of_source hblank hstays]
  unfold react
  rw [hended]
  cases report with
  | success value =>
    cases hshown : (changed.memory.view value).inspect with
    | ok shown =>
      refine Or.inl ⟨_, _, .value hblank hended hshown, ?_⟩
      simp only [reactionTo, hshown, printing]
    | error flaw =>
      refine Or.inr ⟨_, changed, .unprintable hended hshown, ?_⟩
      simp only [reactionTo, hshown, printing]
  | unparsed cause => exact Or.inl ⟨_, _, .unparsed hblank hended, rfl⟩
  | failed failure =>
    cases hshown : (Report.failed failure).formatIn wording with
    | ok shown =>
      refine Or.inl ⟨_, _, .failed hblank hended hshown, ?_⟩
      simp only [reactionTo, hshown, printing]
    | error flaw =>
      refine Or.inr ⟨_, changed, .unreported hended hshown, ?_⟩
      simp only [reactionTo, hshown, printing]

theorem Answers.reactToLine_eq {reaction : Reaction} {changed : Machine}
    (hanswers : Answers runner line machine reaction changed) (hstays : ¬ leaves line) :
    reactToLine runner line machine = (reaction, changed) := by
  cases hanswers with
  | blank hblank => exact reactToLine_of_blank hblank
  | value hsource hsuccess hshows =>
    rw [reactToLine_of_source hsource hstays, react, hsuccess]
    simp only [reactionTo, hshows, printing]
  | unparsed hsource hunparsed =>
    rw [reactToLine_of_source hsource hstays, react, hunparsed]
    rfl
  | failed hsource hfailed hshows =>
    rw [reactToLine_of_source hsource hstays, react, hfailed]
    simp only [reactionTo, hshows, printing]

end

/-! ### Many lines -/

/-- A transcript with the answer to a line. -/
def Transcript.answer (asked : Transcript) : Reaction → Transcript
  | .value s => asked.say s
  | .report s => asked.complain s
  | _ => asked

/-- A transcript with prompts and the answers to lines. -/
def recite (transcript : Transcript) (reactions : List Reaction) : Transcript :=
  reactions.foldl (fun transcript reaction ↦ (transcript.write prompt).answer reaction) transcript

/-- A transcript with nothing but the greeting. -/
def greeted : Transcript := greeting.foldl (fun transcript line ↦ transcript.say line) {}

@[simp] theorem Transcript.append_blank (transcript : Transcript) : transcript.append {} = transcript := by
  simp [append]

@[simp] theorem Transcript.append_say (transcript : Transcript) (s : String) :
    transcript.append (say s {}) = transcript.say s := by
  simp [append, say, write]

@[simp] theorem Transcript.append_complain (transcript : Transcript) (s : String) :
    transcript.append (complain s {}) = transcript.complain s := by
  simp [append, complain, String.append_assoc]

section

variable {runner : Runner} {line : String} {machine changed : Machine}

theorem Answers.converse_eq {reaction : Reaction} (hanswers : Answers runner line machine reaction changed)
    (hstays : ¬ leaves line) (rest : List String) (transcript : Transcript) :
    converse runner (line :: rest) machine transcript =
      converse runner rest changed ((transcript.write prompt).answer reaction) := by
  have hreacts := hanswers.reactToLine_eq hstays
  rw [converse]
  cases hanswers <;>
    simp only [turn, List.head?_cons, hreacts, Transcript.answer, Transcript.append_blank,
      Transcript.append_say, Transcript.append_complain]

theorem converse_of_leave (hleaves : leaves line) (rest : List String) (transcript : Transcript) :
    converse runner (line :: rest) machine transcript = (transcript.write prompt, .exited 0) := by
  rw [converse]
  simp only [turn, List.head?_cons, reactToLine_of_leaves hleaves, Transcript.append_blank]

theorem converse_of_give {ending : Ending}
    (hgives : reactToLine runner line machine = (.give ending, changed)) (rest : List String)
    (transcript : Transcript) :
    converse runner (line :: rest) machine transcript = (transcript.write prompt, ending) := by
  rw [converse]
  simp only [turn, List.head?_cons, hgives, Transcript.append_blank]

theorem converse_nil (transcript : Transcript) :
    converse runner [] machine transcript = ((transcript.write prompt).say farewell, .exited 0) := by
  rw [converse]
  simp only [turn, List.head?_nil, Transcript.append_say]

end

namespace Heard

variable {runner : Runner} {machine after : Machine} {heard : List String} {reactions : List Reaction}

/-- What was heard is written, and the dialogue goes on from there. -/
theorem converse_eq (hheard : Heard runner machine heard reactions after) (rest : List String)
    (transcript : Transcript) :
    converse runner (heard ++ rest) machine transcript =
      converse runner rest after (recite transcript reactions) := by
  induction hheard generalizing transcript with
  | nil machine => rfl
  | cons hstays hanswers _ _ ih =>
    rw [List.cons_append, hanswers.converse_eq hstays, ih]
    rfl

end Heard

/-- How a dialogue comes to its end after the lines that were heard. How it goes on from a line with
which something of the interpreter itself is reached for is left open. -/
inductive Ends (runner : Runner) (after : Machine) (recited : Transcript) :
    List String → Transcript × Ending → Prop where
  | silent : Ends runner after recited [] ((recited.write prompt).say farewell, .exited 0)
  | left {line : String} (rest : List String) (leaves : leaves line) :
      Ends runner after recited (line :: rest) (recited.write prompt, .exited 0)
  | broken {line : String} {ending : Ending} (rest : List String) (stays : ¬ leaves line)
      (breaks : Breaks runner line after ending) :
      Ends runner after recited (line :: rest) (recited.write prompt, ending)
  | reached {line : String} (rest : List String) (stays : ¬ leaves line)
      (reached : ¬ after.Unreached (reactToLine runner line after).2) (ended : Transcript × Ending) :
      Ends runner after recited (line :: rest) ended

theorem heard_and_ends {runner : Runner}
    (hpolicy : (runner.policy.getD Policy.permissive).Steady Host.kernelLibrary) (lines : List String)
    (machine : Machine) (transcript : Transcript) :
    ∃ heard rest reactions after, lines = heard ++ rest ∧ Heard runner machine heard reactions after ∧
      Ends runner after (recite transcript reactions) rest (converse runner lines machine transcript) := by
  induction lines generalizing machine transcript with
  | nil => exact ⟨[], [], [], machine, rfl, .nil machine, converse_nil transcript ▸ .silent⟩
  | cons line rest ih =>
    by_cases hleaves : leaves line
    · exact ⟨[], line :: rest, [], machine, rfl, .nil machine,
        converse_of_leave hleaves rest transcript ▸ .left rest hleaves⟩
    · by_cases hunreached : machine.Unreached (reactToLine runner line machine).2
      case neg =>
        exact ⟨[], line :: rest, [], machine, rfl, .nil machine, .reached rest hleaves hunreached _⟩
      rcases @answers_or_breaks runner line machine hpolicy hleaves with
        ⟨reaction, changed, hanswers, hreacts⟩ | ⟨ending, changed, hbreaks, hreacts⟩
      · rw [hreacts] at hunreached
        obtain ⟨heard, others, reactions, after, hlines, hheard, hends⟩ :=
          ih changed ((transcript.write prompt).answer reaction)
        refine ⟨line :: heard, others, reaction :: reactions, after, ?_,
          .cons hleaves hanswers hunreached hheard, ?_⟩
        · rw [hlines, List.cons_append]
        · rw [hanswers.converse_eq hleaves]
          exact hends
      · exact ⟨[], line :: rest, [], machine, rfl, .nil machine,
          converse_of_give hreacts rest transcript ▸ .broken rest hleaves hbreaks⟩

/-! ### Between lines -/

/-- A machine between lines: no session is running, no handler was added, and the default context and the
globals are what they were at the start. -/
structure Ready (machine : Machine) : Prop where
  stocked : machine.memory.Stocked
  idle : machine.evaluator.running = false
  handlers : machine.handlers = []

section

variable {loader : Document.Loader} {machine : Machine}

theorem ready_start : Ready (start loader).2 := ⟨⟨rfl, rfl⟩, rfl, rfl⟩

/-- A script is given the default context, which leads nowhere. -/
theorem Ready.detached (hready : Ready machine) :
    ((start loader).1.session none machine).Detached Host.kernelLibrary machine
      (fun address ↦ address = 0) fun _ ↦ False := by
  rw [session_eq hready.stocked]
  exact Session.detached_of_isBare (by rw [hready.stocked.context]; rfl)

/-- A script does not reach the globals, and so they stay what they were. -/
theorem Ready.handle (hready : Ready machine) {script : Script}
    (hunreached :
      machine.Unreached ((start loader).1.handle Host.kernelLibrary none script machine).2) :
    Ready ((start loader).1.handle Host.kernelLibrary none script machine).2 := by
  have hdetached : ((start loader).1.session none machine).Detached Host.kernelLibrary machine _ _ :=
    hready.detached
  have hclosed := hdetached.closedOn (hready.handlers ▸ within_nil)
  have hspares := ((start loader).1.secluded_handle hclosed hdetached.confined
    ⟨rfl, rfl, fun _ _ ↦ rfl, rfl, rfl⟩ hready.idle hready.idle script).2
  have hobjects := (start loader).1.keepsObjects_handle Host.steady_kernelLibrary none script machine
    (Policy.steady_permissive _)
  have hhandlers := (Runner.precedes_handle Host.kernelLibrary _ none script machine).handlers hunreached
  refine ⟨⟨hobjects 0 _ rfl hready.stocked.context, ?_⟩, Runner.running_handle _ _ _ _ hready.idle,
    hhandlers.trans hready.handlers⟩
  have hsize : 1 < machine.memory.heap.size :=
    (Array.getElem?_eq_some_iff.mp hready.stocked.globals).1
  have houtside : ¬ (machine.extent (fun address ↦ address = 0) fun _ ↦ False).cell 1 := by
    rintro (hfirst | hnew)
    · cases hfirst
    · exact absurd hsize (Nat.not_lt.mpr hnew)
  exact (hspares.cells 1 houtside).trans hready.stocked.globals

theorem Ready.answers (hready : Ready machine) {line : String} {reaction : Reaction}
    {changed : Machine} (hanswers : Answers (start loader).1 line machine reaction changed)
    (hunreached : machine.Unreached changed) : Ready changed := by
  have hhandled (ended : Outcome Report × Machine)
      (hended : (start loader).1.handle Host.kernelLibrary none (.text (sourceOf line)) machine = ended)
      (hunreached : machine.Unreached ended.2) : Ready ended.2 := by
    subst hended
    exact hready.handle hunreached
  cases hanswers with
  | blank hblank => exact hready
  | value hsource hended hshows => exact hhandled _ hended hunreached
  | unparsed hsource hended => exact hhandled _ hended hunreached
  | failed hsource hended hshows => exact hhandled _ hended hunreached

theorem Ready.heard (hready : Ready machine) {heard : List String} {reactions : List Reaction}
    {after : Machine} (hheard : Heard (start loader).1 machine heard reactions after) : Ready after := by
  induction hheard with
  | nil machine => exact hready
  | cons hstays hanswers hunreached _ ih => exact ih (hready.answers hanswers hunreached)

/-- Between lines a script comes to the same whatever variables lines before it have bound. -/
theorem Ready.independent (hready : Ready machine) (script : Script) :
    ((start loader).1.handle Host.kernelLibrary none script).Independent machine :=
  Session.Detached.independent_handle hready.detached hready.handlers hready.idle script

/-- And what is written about a line is the same whatever they have stored. -/
theorem Ready.forgotten (hready : Ready machine) (line : String) :
    (reactToLine (start loader).1 line machine).1 =
      (reactToLine (start loader).1 line machine.wiped).1 := by
  by_cases hleaves : leaves line
  · rw [reactToLine_of_leaves hleaves, reactToLine_of_leaves hleaves]
  by_cases hblank : sourceOf line = ""
  · rw [reactToLine_of_blank hblank, reactToLine_of_blank hblank]
  have hindependent : ((start loader).1.handle Host.kernelLibrary none
      (.text (sourceOf line))).Independent machine := hready.independent _
  have halike := hindependent.alike _ (.renewed machine)
  rw [reactToLine_of_source hblank hleaves, reactToLine_of_source hblank hleaves,
    react_wiped hready.stocked, react_fst, react_fst, halike.outcome, halike.memory]

end

/-- A number and a division by zero are both answered, and leaving ends the dialogue well. -/
example : (interact .standard
      ["[\"int\", 1]", " ", "[\"send\", [\"int\", 1], \"/\", [\"int\", 0]]", "exit", "[]"]).1 =
    { output := greeted.output ++ ">> 1\n>> >> >> "
      errors := "ZeroDivisionError: division by zero\n" } := by
  decide +kernel

end Treewalk.Console
