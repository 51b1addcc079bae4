import Treewalk.Host.Kernel
import Treewalk.Proofs.Escape
import Treewalk.Proofs.Lockstep
import Treewalk.Proofs.Sequences

/-!
What a destructuring assignment means. A pattern is made of local and global names, spreads and
nested patterns (`Target`). At each level the value is taken apart once, and the place of a target
says what it gets: an item for each target before the first spread and nil where there is none, all
items that are left for the first spread, nothing for what comes behind it (`Portion`). A name is read
back with what it got, whatever is written after it, since the names are distinct (`Target.Receives`).

The writes of a pattern go through one chain for each namespace. They are read back as long as the
frames of the chain are there and no frame is in both chains (`Machine.Settled`), which holds of every
machine that comes up (`Machine.Arises.settled`). Without a frame nothing can be written, and a value
that is endless cannot be taken apart; the assignment fails then (`Target.Endless`).
-/

set_option autoImplicit false
set_option relaxedAutoImplicit false

namespace Treewalk

/-! ### Patterns -/

/-- The tag of a write of one name in a namespace. -/
def Space.writer : Space → String
  | .locals => "lvasgn"
  | .globals => "gvasgn"

/-- The tag of a read in a namespace. -/
def Space.reader : Space → String
  | .locals => "lvar"
  | .globals => "gvar"

/-- A target of a destructuring assignment: a name in a namespace, a spread without a target or with
one of any kind, or a nested pattern. -/
inductive Target where
  | named (space : Space) (name : String)
  | bare
  | spread (inner : Target)
  | nested (targets : List Target)

namespace Target

mutual

/-- A target as a tree. -/
def asTree : Target → Tree
  | named space name => .node space.writer [.leaf (.text name)]
  | bare => .node "splat" []
  | spread inner => .node "splat" [asTree inner]
  | nested targets => .node "mlhs" (asTrees targets)

/-- Targets as trees. -/
def asTrees : List Target → List Tree
  | [] => []
  | target :: rest => asTree target :: asTrees rest

end

mutual

/-- The names that a target writes, in order, with their namespaces. -/
def names : Target → List (Space × String)
  | named space name => [(space, name)]
  | bare => []
  | spread inner => names inner
  | nested targets => allNames targets

/-- The names that targets write, in order, with their namespaces. -/
def allNames : List Target → List (Space × String)
  | [] => []
  | target :: rest => names target ++ allNames rest

end

/-- Whether a target takes all values that are left. -/
def isSpread : Target → Bool
  | bare => true
  | spread _ => true
  | _ => false

end Target

/-! ### What a target receives -/

/-- What the target at a place of a level gets of the level's items. Before the first spread it is the
item at that place, or nil; the first spread gets a list of the items from its place on; behind it a
target gets nil, and a further spread an empty list. -/
def Portion (memory : Memory) (targets : List Target) (items : List Value) (place : Nat)
    (value : Value) : Prop :=
  let first := targets.findIdx Target.isSpread
  if place < first then value = items.getD place .nil
  else if place = first then memory.cell? value = some (.list (items.drop first))
  else if targets[place]?.any Target.isSpread then memory.cell? value = some (.list [])
  else value = .nil

/-- A name of a namespace is read with this value, wherever the read stands. -/
def Eval.ReadsBack (library : Library) (machine : Machine) (space : Space) (name : String)
    (value : Value) : Prop :=
  ∀ depth mark, ((engine library (depth + 1)).evaluate
    ⟨.node space.reader [.leaf (.text name)], mark⟩ machine).1 = .value value

namespace Target

section

variable (library : Library) (before : Memory) (after : Machine)

mutual

/-- After an assignment, a target has received a value: a name is read back with it, the target of a
spread has received it in turn, and the targets of a nested pattern have received their portions of
its items. -/
def Receives : Target → Value → Prop
  | named space name, value => Eval.ReadsBack library after space name value
  | bare, _ => True
  | spread inner, value => Receives inner value
  | nested targets, value => ∃ items, before.Lists after.memory value items ∧
      ReceiveFrom (Portion after.memory targets items) 0 targets

/-- Targets, counted from a place on, have received what their places say. -/
def ReceiveFrom (portion : Nat → Value → Prop) : Nat → List Target → Prop
  | _, [] => True
  | place, target :: rest =>
    (∃ value, portion place value ∧ Receives target value) ∧ ReceiveFrom portion (place + 1) rest

end

end

section

variable (before after : Memory)

mutual

/-- A target meets an endless value where it has to take a value apart. -/
def Endless : Target → Value → Prop
  | named _ _, _ => False
  | bare, _ => False
  | spread inner, value => Endless inner value
  | nested targets, value => value.isEndless = true ∨ ∃ items, before.Lists after value items ∧
      EndlessFrom (Portion after targets items) 0 targets

/-- One of several targets, counted from a place on, meets an endless value. -/
def EndlessFrom (portion : Nat → Value → Prop) : Nat → List Target → Prop
  | _, [] => False
  | place, target :: rest =>
    (∃ value, portion place value ∧ Endless target value) ∨ EndlessFrom portion (place + 1) rest

end

end

end Target

/-! ### Machines that come up -/

/-- A machine as it may come up: between sessions, seated in one, gone on from such a machine, or
inside a new local frame of such a machine. -/
inductive Machine.Arises (library : Library) : Machine → Prop where
  | reached {start machine : Machine} (fresh : start.Fresh)
      (reached : Reaches library start machine) : Arises library machine
  | seated (session : Session) {machine : Machine} (standing : Arises library machine) :
      Arises library (session.seat machine)
  | evolved {before after : Machine} {outcome : Outcome Unit} (standing : Arises library before)
      (evolves : Evolves library before outcome after) : Arises library after
  | entered {machine : Machine} (standing : Arises library machine) (bindings : Table)
      (base : Option Chain)
      (captured : ∀ chain, base = some chain → ∃ index parameters body,
        machine.memory.closure? index = some (.block parameters body chain)) :
      Arises library (machine.enter .locals bindings base).2

/-- Chains to write through: their frames are there, and none is in the chains of both
namespaces. -/
structure Machine.Settled (machine : Machine) : Prop where
  bounds : ∀ space, ∀ number ∈ machine.evaluator.chain space, number < machine.frames.size
  apart : ∀ space other, space ≠ other →
    ∀ number ∈ machine.evaluator.chain space, number ∉ machine.evaluator.chain other

namespace Machine

variable {library : Library} {machine : Machine}

/-- All chains around on a machine that comes up follow one scope tree. -/
theorem Arises.lexical (harises : machine.Arises library) : ∃ scope, machine.Lexical scope := by
  induction harises with
  | reached fresh reached => exact reached.inherits.lexical_of_fresh fresh
  | @seated session machine standing ih =>
    obtain ⟨scope, hscope⟩ := ih
    obtain ⟨extended, -, hextended⟩ := (session.inherits_seat machine).lexical scope hscope
    exact ⟨extended, hextended⟩
  | evolved standing evolves ih =>
    obtain ⟨scope, hscope⟩ := ih
    obtain ⟨extended, -, hextended⟩ := evolves.inherits.lexical scope hscope
    exact ⟨extended, hextended⟩
  | @entered machine standing bindings base captured ih =>
    obtain ⟨scope, hscope⟩ := ih
    have hbase : ∀ chain, base = some chain → machine.Holds .locals chain := by
      intro chain hchain
      obtain ⟨index, parameters, body, hclosure⟩ := captured chain hchain
      exact .captured hclosure
    obtain ⟨extended, -, hextended⟩ :=
      (Inherits.enter machine .locals bindings hbase).lexical scope hscope
    exact ⟨extended, hextended⟩

/-- The scope tree gives each frame one namespace, and the frames that it has are there. -/
theorem Arises.settled (harises : machine.Arises library) : machine.Settled := by
  obtain ⟨scope, hscope⟩ := harises.lexical
  have hfollows (space : Space) := hscope space _ (.active space)
  have hspace {space : Space} {number : Nat} (hnumber : number ∈ machine.evaluator.chain space) :
      (scope number).1 = space := by
    obtain ⟨inner, outer, hsplit⟩ := List.append_of_mem hnumber
    have hfollow := hfollows space
    rw [hsplit] at hfollow
    rw [hfollow.scope_eq]
  refine ⟨fun space number hnumber ↦ (hfollows space).lt_bound hnumber, ?_⟩
  intro space other hother number hfirst hsecond
  exact hother ((hspace hfirst).symm.trans (hspace hsecond))

end Machine

/-! ### Writing names -/

/-- The value of a key in a namespace. -/
def Machine.reading? (machine : Machine) (space : Space) (key : Key) : Option Value :=
  machine.frames.find? key (machine.evaluator.chain space)

/-- Whether an event is a write. -/
def Event.isWrite : Event → Bool
  | .write _ _ _ => true
  | _ => false

/-- A machine on which nothing but these names has been written since another one stood: other names
read as they did, memory has only grown, and the new events are writes. -/
structure Machine.Writes (before : Machine) (names : List (Space × String)) (after : Machine) :
    Prop where
  evaluator : after.evaluator = before.evaluator
  size : after.frames.size = before.frames.size
  memory : before.memory.Extends after.memory
  others : ∀ space key, (∀ name ∈ names, (space, key) ≠ (name.1, [.text name.2])) →
    after.reading? space key = before.reading? space key
  events : ∃ written, after.events = written ++ before.events ∧
    ∀ event ∈ written, event.isWrite = true

/-- A later machine has the memory of an earlier one, and reads these names as that one does. -/
structure Machine.Preserves (before : Machine) (names : List (Space × String)) (after : Machine) :
    Prop where
  memory : before.memory.Extends after.memory
  reads : ∀ name ∈ names,
    after.reading? name.1 [.text name.2] = before.reading? name.1 [.text name.2]

namespace Frames

variable {frames : Frames} {name : Name} {value : Value} {number : Nat}

/-- A write to a frame is not seen through a chain without that frame. -/
theorem find?_bind_of_not_mem {chain : Chain} (hnumber : number ∉ chain) (key : Key) :
    (frames.bind number name value).find? key chain = frames.find? key chain := by
  induction chain with
  | nil => rfl
  | cons first outer ih =>
    obtain ⟨hfirst, houter⟩ := not_or.mp (mt List.mem_cons.mpr hnumber)
    rw [find?, find?, frame_bind_of_ne hfirst, ih houter]

end Frames

namespace Machine

variable {before middle after : Machine} {names more : List (Space × String)}

theorem Settled.of_writes (hsettled : before.Settled) (hwrites : before.Writes names after) :
    after.Settled where
  bounds := by rw [hwrites.evaluator, hwrites.size]; exact hsettled.bounds
  apart := by rw [hwrites.evaluator]; exact hsettled.apart

theorem Settled.withMemory (hsettled : before.Settled) (memory : Memory) :
    ({ before with memory := memory } : Machine).Settled :=
  ⟨hsettled.bounds, hsettled.apart⟩

namespace Writes

theorem refl (machine : Machine) : machine.Writes [] machine :=
  ⟨rfl, rfl, .refl _, fun _ _ _ ↦ rfl, [], rfl, nofun⟩

theorem trans (hfirst : before.Writes names middle) (hlast : middle.Writes more after) :
    before.Writes (names ++ more) after where
  evaluator := hlast.evaluator.trans hfirst.evaluator
  size := hlast.size.trans hfirst.size
  memory := hfirst.memory.trans hlast.memory
  others space key hkey := by
    have hmore := hlast.others space key fun name hname ↦ hkey name (List.mem_append_right _ hname)
    exact hmore.trans
      (hfirst.others space key fun name hname ↦ hkey name (List.mem_append_left _ hname))
  events := by
    obtain ⟨early, hearly, hall⟩ := hfirst.events
    obtain ⟨late, hlate, hothers⟩ := hlast.events
    refine ⟨late ++ early, by rw [hlate, hearly, List.append_assoc], fun event hevent ↦ ?_⟩
    exact (List.mem_append.mp hevent).elim (hothers event) (hall event)

/-- What is made in memory is no write. -/
theorem withMemory (machine : Machine) {memory : Memory} (hmemory : machine.memory.Extends memory) :
    machine.Writes [] { machine with memory := memory } :=
  ⟨rfl, rfl, hmemory, fun _ _ _ ↦ rfl, [], rfl, nofun⟩

/-- More names may be allowed for. -/
theorem mono (hwrites : before.Writes names after) (hmore : names ⊆ more) :
    before.Writes more after :=
  { hwrites with
    others := fun space key hkey ↦ hwrites.others space key fun name hname ↦ hkey name (hmore hname) }

end Writes

namespace Preserves

theorem refl (machine : Machine) (names : List (Space × String)) : machine.Preserves names machine :=
  ⟨.refl _, fun _ _ ↦ rfl⟩

/-- What was read before other names were written is still read after. -/
theorem of_writes {last : Machine} (hpreserves : after.Preserves (names ++ more) last)
    (hwrites : middle.Writes more after) (hdistinct : ∀ name ∈ names, name ∉ more) :
    middle.Preserves names last where
  memory := hwrites.memory.trans hpreserves.memory
  reads name hname := by
    refine (hpreserves.reads name (List.mem_append_left _ hname)).trans
      (hwrites.others _ _ fun other hother heq ↦ ?_)
    obtain ⟨hspace, hkey⟩ := Prod.mk.inj heq
    have htext : name.2 = other.2 := by simpa using hkey
    exact hdistinct name hname (Prod.ext hspace htext ▸ hother)

end Preserves

/-- A write through a chain with a frame is read back, and is all that is written. -/
theorem run_write (hsettled : before.Settled) {space : Space}
    (hchain : before.evaluator.chain space ≠ []) (name : String) (own : Value) (text : String)
    (item : Value) :
    ∃ after, Run.write space ⟨[.text name], own, text⟩ item before = (.value (), after) ∧
      before.Writes [(space, name)] after ∧ after.memory = before.memory ∧
      after.reading? space [.text name] = some item := by
  unfold Run.write
  rcases htarget : before.frames.target? [.text name] (before.evaluator.chain space) with _ | number
  · exact absurd htarget (Frames.target?_ne_none _ _ hchain)
  · have hread (key : Key) :
        (before.frames.bind number ⟨[.text name], own, text⟩ item).find? key
            (before.evaluator.chain space) =
          if [.text name] = key then some item
          else before.frames.find? key (before.evaluator.chain space) :=
      Frames.find?_bind_target (hsettled.bounds space) htarget key
    refine ⟨_, rfl, ⟨rfl, Array.size_setIfInBounds, .refl _, fun other key hkey ↦ ?_, ?_⟩, rfl, ?_⟩
    · by_cases hother : space = other
      · subst hother
        have hname : ([.text name] : Key) ≠ key := fun heq ↦
          hkey (space, name) List.mem_cons_self (by rw [heq])
        exact (hread key).trans (if_neg hname)
      · exact Frames.find?_bind_of_not_mem
          (hsettled.apart space other hother number (Frames.mem_of_target? htarget)) key
    · exact ⟨[_], rfl, fun event hevent ↦ by rw [List.mem_singleton.mp hevent]; rfl⟩
    · exact (hread _).trans (if_pos rfl)

end Machine

/-! ### Reading back -/

/-- What is found through the chain of a namespace is read there. -/
theorem Eval.readsBack_of_reading? (library : Library) {machine : Machine} {space : Space}
    {name : String} {value : Value} (hfound : machine.reading? space [.text name] = some value) :
    ReadsBack library machine space name value := by
  cases space with
  | locals => exact reads_of_find? library hfound
  | globals =>
    intro depth mark
    let begun := begun (.node "gvar" [.leaf (.text name)]) machine
    let child : Site := ⟨.leaf (.text name), mark.child 0⟩
    have hchild : childAt [child] 0 begun = (.value child, begun) := rfl
    have hread : Run.read? .globals child.toName begun = (.value (some value), begun) :=
      congrArg (fun found ↦ (Outcome.value found, begun)) hfound
    have hstep : (engine library (depth + 1)).evaluate
        ⟨.node "gvar" [.leaf (.text name)], mark⟩ machine = readGlobal [child] begun := rfl
    rw [Space.reader, hstep, readGlobal, Run.bind_of_value hchild, Run.bind_of_value hread]
    rfl

/-! ### Portions -/

section

variable {memory : Memory} {target : Target} {rest : List Target} {values : List Value}
  {value : Value}

open Target (isSpread)

theorem portion_spread (hspread : target.isSpread = true)
    (hcell : memory.cell? value = some (.list values)) :
    Portion memory (target :: rest) values 0 value := by
  simp [Portion, List.findIdx_cons, hspread, hcell]

theorem portion_plain (hplain : target.isSpread = false) :
    Portion memory (target :: rest) values 0 (values.headD .nil) := by
  have hfirst : values.headD .nil = values.getD 0 .nil := by cases values <;> rfl
  simp only [Portion, List.findIdx_cons, hplain, cond_false, Nat.succ_pos, if_true, hfirst]

/-- Behind a plain target the portions are those of the items without the first. -/
theorem portion_succ_of_plain (hplain : target.isSpread = false) {place : Nat}
    (hportion : Portion memory rest values.tail place value) :
    Portion memory (target :: rest) values (place + 1) value := by
  have hitem : values.getD (place + 1) .nil = values.tail.getD place .nil := by
    cases values <;> rfl
  simp only [Portion, List.findIdx_cons, hplain, cond_false, Nat.add_lt_add_iff_right,
    Nat.add_right_cancel_iff, List.getElem?_cons_succ, hitem] at hportion ⊢
  simpa using hportion

/-- Behind a spread nothing is left. -/
theorem portion_succ_of_spread (hspread : target.isSpread = true) {place : Nat}
    (hplace : place < rest.length) (hportion : Portion memory rest [] place value) :
    Portion memory (target :: rest) values (place + 1) value := by
  have hget : (target :: rest)[place + 1]? = some rest[place] := List.getElem?_eq_getElem hplace
  simp only [Portion, List.findIdx_cons, hspread, cond_true, hget, Option.any_some,
    Nat.not_lt_zero, Nat.add_eq_zero_iff, Nat.one_ne_zero, and_false, if_false]
  simp only [Portion, List.getElem?_eq_getElem hplace, Option.any_some] at hportion
  rcases Nat.lt_trichotomy place (rest.findIdx isSpread) with hbefore | hat | hbehind
  · rw [if_pos hbefore] at hportion
    have hplain : ¬ isSpread rest[place] = true := by
      rw [List.not_of_lt_findIdx hbefore]
      exact Bool.false_ne_true
    rw [if_neg hplain, hportion]
    rfl
  · have hfirst : isSpread rest[place] = true := by
      subst hat
      exact List.findIdx_getElem
    rw [if_neg (by omega), if_pos hat, List.drop_nil] at hportion
    rw [if_pos hfirst, hportion]
  · rw [if_neg (by omega), if_neg (by omega)] at hportion
    exact hportion

end

/-! ### Assigning -/

/-- How assigning may end: done, so that these names were written and whoever preserves them has
received what was meant; or stopped at an endless value. -/
inductive Assigning (machine : Machine) (names : List (Space × String))
    (received : Machine → Prop) (endless : Memory → Prop) : Outcome Unit × Machine → Prop where
  | done {after : Machine} (writes : machine.Writes names after)
      (hreceived : ∀ last, after.Preserves names last → received last) :
      Assigning machine names received endless (.value (), after)
  | stopped {after : Machine} (writes : machine.Writes names after)
      (hendless : ∀ last, after.memory.Extends last → endless last) :
      Assigning machine names received endless (.failed .tooMany, after)

namespace Assigning

variable {machine : Machine} {names more : List (Space × String)} {received others : Machine → Prop}
  {endless further : Memory → Prop}

/-- One assignment after another, of other names. -/
theorem bind {first next : Run Unit} (hfirst : Assigning machine names received endless (first machine))
    (hnext : ∀ middle, machine.Writes names middle →
      Assigning middle more others further (next middle))
    (hdistinct : ∀ name ∈ names, name ∉ more) :
    Assigning machine (names ++ more) (fun last ↦ received last ∧ others last)
      (fun memory ↦ endless memory ∨ further memory) ((first >>= fun _ ↦ next) machine) := by
  rw [Run.bind_apply]
  generalize first machine = ended at hfirst ⊢
  cases hfirst with
  | stopped hwrites hendless =>
    exact .stopped (hwrites.mono (List.subset_append_left _ _)) fun last hlast ↦
      Or.inl (hendless last hlast)
  | @done middle hwrites hreceived =>
    dsimp only
    have hrest := hnext middle hwrites
    generalize next middle = ended at hrest ⊢
    cases hrest with
    | stopped hmore hfurther =>
      exact .stopped (hwrites.trans hmore) fun last hlast ↦ Or.inr (hfurther last hlast)
    | done hmore hothers =>
      refine .done (hwrites.trans hmore) fun last hlast ↦
        ⟨hreceived last (hlast.of_writes hmore hdistinct), hothers last ⟨hlast.memory, ?_⟩⟩
      exact fun name hname ↦ hlast.reads name (List.mem_append_right _ hname)

/-- Memory may grow first. -/
theorem of_grown {memory : Memory} {ended : Outcome Unit × Machine}
    (hmemory : machine.memory.Extends memory)
    (hended : Assigning { machine with memory := memory } names received endless ended) :
    Assigning machine names received endless ended := by
  cases hended with
  | done hwrites hdone => exact .done ((Machine.Writes.withMemory machine hmemory).trans hwrites) hdone
  | stopped hwrites hstopped =>
    exact .stopped ((Machine.Writes.withMemory machine hmemory).trans hwrites) hstopped

/-- What is meant may be put in other words, which may make use of what is in memory. -/
theorem imp {ended : Outcome Unit × Machine} (hended : Assigning machine names received endless ended)
    (hreceived : ∀ last : Machine, machine.memory.Extends last.memory → received last → others last)
    (hendless : ∀ memory, machine.memory.Extends memory → endless memory → further memory) :
    Assigning machine names others further ended := by
  cases hended with
  | done hwrites hdone =>
    exact .done hwrites fun last hlast ↦
      hreceived last (hwrites.memory.trans hlast.memory) (hdone last hlast)
  | stopped hwrites hstopped =>
    exact .stopped hwrites fun last hlast ↦
      hendless last (hwrites.memory.trans hlast) (hstopped last hlast)

end Assigning

namespace Target

theorem assignAll_cons (mark : Mark) (place : Nat) (target : Target) (rest : List Tree)
    (values : List Value) :
    Run.assignAll mark place (target.asTree :: rest) values =
      (if target.isSpread then do
        let list ← Run.newList values
        Run.assign (mark.child place) target.asTree list
        Run.assignAll mark (place + 1) rest []
      else do
        Run.assign (mark.child place) target.asTree (values.headD .nil)
        Run.assignAll mark (place + 1) rest values.tail) := by
  match target with
  | named .locals _ | named .globals _ | bare | spread _ | nested _ =>
    rw [asTree, Run.assignAll]
    rfl

variable (library : Library) {before : Memory}

mutual

/-- Assigning a target: the induction is on the pattern, and memory and the chains stay what the
names of the pattern need. -/
theorem assigning_one (target : Target) {machine : Machine} (hsettled : machine.Settled)
    (hgrown : before.Extends machine.memory)
    (hframes : ∀ name ∈ target.names, machine.evaluator.chain name.1 ≠ [])
    (hdistinct : target.names.Nodup) (mark : Mark) (item : Value) :
    Assigning machine target.names (fun last ↦ Receives library before last target item)
      (fun memory ↦ Endless before memory target item)
      (Run.assign mark target.asTree item machine) := by
  match target with
  | named space name =>
    have hassign : Run.assign mark (named space name).asTree item =
        Run.write space ⟨[.text name], (Site.mk (.leaf (.text name)) (mark.child 0)).toValue, name⟩
          item := by
      cases space <;> (rw [asTree, Run.assign]; rfl)
    rw [names] at hframes ⊢
    obtain ⟨after, hwrite, hwrites, hmemory, hread⟩ := Machine.run_write hsettled
      (hframes (space, name) List.mem_cons_self) name _ name item
    rw [hassign, hwrite]
    refine .done hwrites fun last hlast ↦ Eval.readsBack_of_reading? library ?_
    exact (hlast.reads (space, name) List.mem_cons_self).trans hread
  | bare =>
    rw [asTree, Run.assign]
    exact .done (.refl machine) fun _ _ ↦ trivial
  | spread inner =>
    have hassign : Run.assign mark (spread inner).asTree item =
        Run.assign (mark.child 0) inner.asTree item := by
      rw [asTree, Run.assign.eq_def]
      rfl
    rw [hassign]
    exact assigning_one inner hsettled hgrown hframes hdistinct (mark.child 0) item
  | nested targets =>
    have hassign : Run.assign mark (nested targets).asTree item =
        (Run.compute item.toSequence >>= Run.assignAll mark 0 (asTrees targets)) := by
      rw [asTree, Run.assign.eq_def]
      rfl
    rw [hassign, Run.bind_apply, Run.compute_apply]
    rcases item.toSequence_cases hgrown with
      ⟨items, changed, hrun, hextends, hlists⟩ | ⟨changed, hrun, hextends, hendless⟩
    · rw [hrun]
      refine .of_grown hextends ((assigning_all targets (Portion · targets items)
        (hsettled.withMemory changed) (hgrown.trans hextends) hframes hdistinct mark 0 items 0
        ?_).imp ?_ ?_)
      · intro memory place value _ hportion
        rwa [Nat.zero_add]
      · exact fun last hlast hreceived ↦ ⟨items, hlists last.memory hlast, hreceived⟩
      · exact fun memory hmemory hendless ↦ Or.inr ⟨items, hlists memory hmemory, hendless⟩
    · rw [hrun]
      exact .stopped ((Machine.Writes.withMemory machine hextends).mono (List.nil_subset _))
        fun _ _ ↦ Or.inl hendless

/-- Assigning targets from left to right. The portions are those of the whole level, of which the
targets stand from a place on. -/
theorem assigning_all (targets : List Target) (portion : Memory → Nat → Value → Prop)
    {machine : Machine} (hsettled : machine.Settled) (hgrown : before.Extends machine.memory)
    (hframes : ∀ name ∈ allNames targets, machine.evaluator.chain name.1 ≠ [])
    (hdistinct : (allNames targets).Nodup) (mark : Mark) (place : Nat) (values : List Value)
    (position : Nat)
    (hportion : ∀ memory offset value, offset < targets.length →
      Portion memory targets values offset value → portion memory (position + offset) value) :
    Assigning machine (allNames targets)
      (fun last ↦ ReceiveFrom library before last (portion last.memory) position targets)
      (fun memory ↦ EndlessFrom before memory (portion memory) position targets)
      (Run.assignAll mark place (asTrees targets) values machine) := by
  match targets with
  | [] => exact .done (.refl machine) fun _ _ ↦ trivial
  | target :: rest =>
    obtain ⟨hfirst, hrest, hapart⟩ := List.nodup_append.mp hdistinct
    -- One target gets a value, and the others get what is left.
    have hstep {standing : Machine} (hstanding : standing.Settled)
        (hthere : before.Extends standing.memory)
        (hchains : ∀ name ∈ allNames (target :: rest), standing.evaluator.chain name.1 ≠ [])
        (value : Value) (left : List Value)
        (hhead : ∀ later, standing.memory.Extends later → portion later position value)
        (htail : ∀ later offset item, offset < rest.length → Portion later rest left offset item →
          portion later (position + 1 + offset) item) :
        Assigning standing (allNames (target :: rest))
          (fun last ↦ ReceiveFrom library before last (portion last.memory) position (target :: rest))
          (fun later ↦ EndlessFrom before later (portion later) position (target :: rest))
          ((Run.assign (mark.child place) target.asTree value >>= fun _ ↦
            Run.assignAll mark (place + 1) (asTrees rest) left) standing) := by
      refine (Assigning.bind (assigning_one target hstanding hthere
        (fun name hname ↦ hchains name (List.mem_append_left _ hname)) hfirst _ value)
        (fun middle hwrites ↦ assigning_all rest portion (hstanding.of_writes hwrites)
          (hthere.trans hwrites.memory) ?_ hrest mark (place + 1) left (position + 1) htail)
        fun name hname hmore ↦ hapart name hname name hmore rfl).imp ?_ ?_
      · intro name hname
        rw [hwrites.evaluator]
        exact hchains name (List.mem_append_right _ hname)
      · rintro last hlast ⟨hreceived, hothers⟩
        exact ⟨⟨value, hhead last.memory hlast, hreceived⟩, hothers⟩
      · rintro memory hmemory (hendless | hothers)
        · exact Or.inl ⟨value, hhead memory hmemory, hendless⟩
        · exact Or.inr hothers
    have hoffset (memory : Memory) (offset : Nat) (item : Value) (hbound : offset < rest.length)
        (hitem : Portion memory (target :: rest) values (offset + 1) item) :
        portion memory (position + 1 + offset) item := by
      have hlater := hportion memory (offset + 1) item (Nat.succ_lt_succ hbound) hitem
      rwa [Nat.add_right_comm]
    rw [asTrees, assignAll_cons]
    split
    · next hspread =>
      have hnew : Run.newList values machine = (.value (machine.memory.allocate (.list values)).1,
          { machine with memory := (machine.memory.allocate (.list values)).2 }) := rfl
      rw [Run.bind_of_value hnew]
      have hmade : machine.memory.Extends (machine.memory.allocate (.list values)).2 :=
        .allocate machine.memory _
      refine .of_grown hmade (hstep (hsettled.withMemory _) (hgrown.trans hmade) hframes _ []
        (fun later hlater ↦ ?_) fun later offset item hbound hitem ↦
          hoffset later offset item hbound (portion_succ_of_spread hspread hbound hitem))
      exact hportion later 0 _ (Nat.succ_pos _)
        (portion_spread hspread (hlater.cell? (machine.memory.cell?_allocate (.list values))))
    · next hspread =>
      have hplain : target.isSpread = false := Bool.eq_false_iff.mpr hspread
      exact hstep hsettled hgrown hframes _ values.tail
        (fun later _ ↦ hportion later 0 _ (Nat.succ_pos _) (portion_plain hplain))
        fun later offset item hbound hitem ↦
          hoffset later offset item hbound (portion_succ_of_plain hplain hitem)

end

end Target

/-! ### The assignment -/

/-- A machine in a session is one that comes up. -/
theorem Machine.InSession.arises {library : Library} {machine : Machine}
    (hsession : machine.InSession library) : machine.Arises library := by
  induction hsession with
  | seated session fresh reached => exact .seated session (.reached fresh reached)
  | evolved _ evolves ih => exact ih.evolved evolves
  | entered _ bindings base captured ih => exact ih.entered bindings base captured

/-- In a session there is a frame of each namespace. -/
theorem Machine.InSession.chain_ne_nil {library : Library} {machine : Machine}
    (hsession : machine.InSession library) (space : Space) : machine.evaluator.chain space ≠ [] := by
  induction hsession with
  | @seated session start machine fresh reached =>
    obtain ⟨inner, outer, hlocals, hglobals⟩ := session.chains_seat machine
    cases space with
    | locals => exact fun hnil ↦ List.cons_ne_nil _ _ (hlocals.symm.trans hnil)
    | globals => exact fun hnil ↦ List.cons_ne_nil _ _ (hglobals.symm.trans hnil)
  | evolved _ evolves ih => exact (evolves.continues.chains space).symm ▸ ih
  | entered _ bindings base captured ih =>
    rw [Machine.evaluator_enter]
    cases space with
    | locals => exact List.cons_ne_nil _ _
    | globals => exact ih

end Treewalk
