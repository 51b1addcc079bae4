import Treewalk.Host.Kernel
import Treewalk.Policy
import Treewalk.Proofs.AlikeMembers

/-!
Host code on memories that are numbered differently. Host code is given all of memory, so that whether
it treats addresses as mere names is up to it: it does when on matching memories it makes the same
requests under other numbers, whatever matching memories they are answered with, and when it takes no
cell away (`Action.Alike`). It may look at where the evaluator stands, but not at the node evaluated
last, and host code that is blind not at the local variables either (`Observation.blurred`). A library
does alike when its methods, functions and classes do (`Library.Alike`), and then so does sending a
member, calling a value and looking up a constant.
-/

set_option autoImplicit false
set_option relaxedAutoImplicit false

namespace Treewalk

/-- What host code makes of where the evaluator stands: all but the node evaluated last, and if it is
blind to the local variables nothing but the number of global frames. -/
def Observation.blurred (blind : Bool) (seen : Observation) : Observation :=
  if blind then ⟨0, seen.globalDepth, none, none⟩ else { seen with current := none }

variable {numbering : Numbering} {blind : Bool} {limit : Nat}

/-! ### Actions -/

namespace Action

variable {α β : Type} [Renamable α] [Renamable β]

/-- Host code that takes no cell away when it starts on this memory. -/
def SwellsOn {α : Type} : Action α → Memory → Prop
  | .done _, _ | .fail _, _ | .abort _, _ | .exhaust, _ => True
  | .inspect next, memory => (next memory).SwellsOn memory
  | .update heap marks next, memory =>
    memory.heap.size ≤ heap.size ∧ next.SwellsOn { memory with heap := heap, marks := marks }
  | .call _ _ _ next, _ => ∀ result changed, (next result).SwellsOn changed
  | .attempt _ _ _ next _ recover, _ =>
    (∀ result changed, (next result).SwellsOn changed) ∧
      ∀ kind changed, (recover kind).SwellsOn changed
  | .parameters _ next, _ => ∀ names changed, (next names).SwellsOn changed
  | .observe next, memory => ∀ seen, (next seen).SwellsOn memory
  | .reenter next, memory => next.SwellsOn memory
  | .reach _ _ _ next, memory => ∀ answer, (next answer).SwellsOn memory

/-- Host code that makes the same requests on both sides, under other numbers, when it starts on these
memories. Where the left side comes to have more cells than the numbering is meant for, nothing more
is asked of it. -/
inductive AlikeOn (numbering : Numbering) (blind : Bool) (limit : Nat) :
    Memory → Memory → Action α → Action α → Prop where
  | done {left right : Memory} (result : α) :
    AlikeOn numbering blind limit left right (.done result) (.done (rename numbering result))
  | fail {left right : Memory} (failure : Failure) :
    AlikeOn numbering blind limit left right (.fail failure) (.fail (rename numbering failure))
  | abort {left right : Memory} (message : String) :
    AlikeOn numbering blind limit left right (.abort message) (.abort message)
  | exhaust {left right : Memory} : AlikeOn numbering blind limit left right .exhaust .exhaust
  | inspect {left right : Memory} {next next' : Memory → Action α}
    (alike : AlikeOn numbering blind limit left right (next left) (next' right)) :
    AlikeOn numbering blind limit left right (.inspect next) (.inspect next')
  | update {left right : Memory} {heap heap' : Array Cell} {marks marks' : Nat} {next next' : Action α}
    (matching : numbering.Matches limit { left with heap := heap, marks := marks }
      { right with heap := heap', marks := marks' })
    (alike : AlikeOn numbering blind limit { left with heap := heap, marks := marks }
      { right with heap := heap', marks := marks' } next next') :
    AlikeOn numbering blind limit left right (.update heap marks next) (.update heap' marks' next')
  | exceeded {left right : Memory} {heap : Array Cell} {marks : Nat} {next other : Action α}
    (exceeds : limit < heap.size) :
    AlikeOn numbering blind limit left right (.update heap marks next) other
  | call {left right : Memory} (callee : Value) (arguments : List Value) (block : Option Value)
    {next next' : Value → Action α}
    (alike : ∀ result changed changed', numbering.Matches limit changed changed' →
      AlikeOn numbering blind limit changed changed' (next result) (next' (rename numbering result))) :
    AlikeOn numbering blind limit left right (.call callee arguments block next)
      (.call (rename numbering callee) (rename numbering arguments) (rename numbering block) next')
  | attempt {left right : Memory} (callee : Value) (arguments : List Value) (block : Option Value)
    (catches : Kind → Bool) {next next' : Value → Action α} {recover recover' : Kind → Action α}
    (alike : ∀ result changed changed', numbering.Matches limit changed changed' →
      AlikeOn numbering blind limit changed changed' (next result) (next' (rename numbering result)))
    (recovers : ∀ kind changed changed', numbering.Matches limit changed changed' →
      AlikeOn numbering blind limit changed changed' (recover kind) (recover' kind)) :
    AlikeOn numbering blind limit left right (.attempt callee arguments block next catches recover)
      (.attempt (rename numbering callee) (rename numbering arguments) (rename numbering block) next'
        catches recover')
  | parameters {left right : Memory} (index : Nat) {next next' : Option Value → Action α}
    (alike : ∀ names changed changed', numbering.Matches limit changed changed' →
      AlikeOn numbering blind limit changed changed' (next names) (next' (rename numbering names))) :
    AlikeOn numbering blind limit left right (.parameters index next) (.parameters index next')
  | observe {left right : Memory} {next next' : Observation → Action α}
    (alike : ∀ seen seen', seen'.blurred blind = seen.blurred blind →
      AlikeOn numbering blind limit left right (next seen) (next' seen')) :
    AlikeOn numbering blind limit left right (.observe next) (.observe next')
  | reenter {left right : Memory} {next next' : Action α}
    (alike : AlikeOn numbering blind limit left right next next') :
    AlikeOn numbering blind limit left right (.reenter next) (.reenter next')
  | reach {left right : Memory} (receiver : Value) (name : String)
    (arguments : Option (List Value)) {next next' : Option Value → Action α}
    (alike : ∀ answer,
      AlikeOn numbering blind limit left right (next answer) (next' (rename numbering answer))) :
    AlikeOn numbering blind limit left right (.reach receiver name arguments next)
      (.reach (rename numbering receiver) name (rename numbering arguments) next')

/-- Host code that does alike on memories that are numbered differently. -/
structure Alike (numbering : Numbering) (blind : Bool) (first second : Action α) : Prop where
  swells : ∀ memory, first.SwellsOn memory
  ends : ∀ limit left right, numbering.Matches limit left right →
    AlikeOn numbering blind limit left right first second

theorem alike_done (result : α) :
    Alike numbering blind (done result) (done (rename numbering result)) :=
  ⟨fun _ ↦ trivial, fun _ _ _ _ ↦ .done result⟩

theorem alike_pure (result : α) :
    Alike numbering blind (pure result : Action α) (pure (rename numbering result)) :=
  alike_done result

theorem alike_done_of_eq {result other : α} (hother : other = rename numbering result) :
    Alike numbering blind (done result) (done other) :=
  hother ▸ alike_done result

theorem alike_fail (failure : Failure) :
    Alike numbering blind (fail failure : Action α) (fail (rename numbering failure)) :=
  ⟨fun _ ↦ trivial, fun _ _ _ _ ↦ .fail failure⟩

theorem alike_refuse (cause : Cause) :
    Alike numbering blind (refuse cause : Action α) (refuse (rename numbering cause)) :=
  alike_fail ⟨cause, none⟩

theorem alike_inspect {next next' : Memory → Action α}
    (hnext : ∀ left right, numbering.Mirrors left right →
      Alike numbering blind (next left) (next' right)) :
    Alike numbering blind (inspect next) (inspect next') where
  swells memory := by
    obtain ⟨right, hmirrors⟩ := numbering.exists_mirrors memory
    exact (hnext memory right hmirrors).swells memory
  ends limit left right hmatches :=
    .inspect ((hnext left right hmatches.toMirrors).ends limit left right hmatches)

omit [Renamable α] [Renamable β] in
theorem swellsOn_bind {action : Action α} {after : α → Action β} {memory : Memory}
    (haction : action.SwellsOn memory) (hafter : ∀ result changed, (after result).SwellsOn changed) :
    (action.bind after).SwellsOn memory := by
  induction action generalizing memory with
  | done result => exact hafter result memory
  | fail failure | abort message | exhaust => exact trivial
  | inspect next ih => exact ih memory haction
  | update heap marks next ih => exact ⟨haction.1, ih haction.2⟩
  | call callee arguments block next ih => exact fun result changed ↦ ih result (haction result changed)
  | attempt callee arguments block next catches recover ihnext ihrecover =>
    exact ⟨fun result changed ↦ ihnext result (haction.1 result changed),
      fun kind changed ↦ ihrecover kind (haction.2 kind changed)⟩
  | parameters index next ih => exact fun names changed ↦ ih names (haction names changed)
  | observe next ih => exact fun seen ↦ ih seen (haction seen)
  | reenter next ih => exact ih haction
  | reach receiver name arguments next ih => exact fun answer ↦ ih answer (haction answer)

theorem alikeOn_bind {action action' : Action α} {after after' : α → Action β} {left right : Memory}
    (haction : AlikeOn numbering blind limit left right action action')
    (hmatches : numbering.Matches limit left right)
    (hafter : ∀ result, Alike numbering blind (after result) (after' (rename numbering result))) :
    AlikeOn numbering blind limit left right (action.bind after) (action'.bind after') := by
  induction haction with
  | done result => exact (hafter result).ends limit _ _ hmatches
  | fail failure => exact .fail failure
  | abort message => exact .abort message
  | exhaust => exact .exhaust
  | inspect alike ih => exact .inspect (ih hmatches)
  | update matching alike ih => exact .update matching (ih matching)
  | exceeded exceeds => exact .exceeded exceeds
  | call callee arguments block alike ih =>
    exact .call callee arguments block fun result changed changed' hchanged ↦
      ih result changed changed' hchanged hchanged
  | attempt callee arguments block catches alike recovers ihnext ihrecover =>
    exact .attempt callee arguments block catches
      (fun result changed changed' hchanged ↦ ihnext result changed changed' hchanged hchanged)
      fun kind changed changed' hchanged ↦ ihrecover kind changed changed' hchanged hchanged
  | parameters index alike ih =>
    exact .parameters index fun names changed changed' hchanged ↦
      ih names changed changed' hchanged hchanged
  | observe alike ih => exact .observe fun seen seen' hseen ↦ ih seen seen' hseen hmatches
  | reenter alike ih => exact .reenter (ih hmatches)
  | reach receiver name arguments alike ih =>
    exact .reach receiver name arguments fun answer ↦ ih answer hmatches

theorem alike_bind {action action' : Action α} {after after' : α → Action β}
    (haction : Alike numbering blind action action')
    (hafter : ∀ result, Alike numbering blind (after result) (after' (rename numbering result))) :
    Alike numbering blind (action >>= after) (action' >>= after') :=
  ⟨fun memory ↦ swellsOn_bind (haction.swells memory) fun result changed ↦ (hafter result).swells changed,
    fun limit left right hmatches ↦ alikeOn_bind (haction.ends limit left right hmatches) hmatches hafter⟩

theorem alike_some {action action' : Action α} (haction : Alike numbering blind action action') :
    Alike numbering blind (some <$> action) (some <$> action') :=
  alike_bind haction fun item ↦ alike_done (some item)

theorem alike_call (callee : Value) (arguments : List Value) (block : Option Value) :
    Alike numbering blind (call callee arguments block done)
      (call (rename numbering callee) (rename numbering arguments) (rename numbering block) done) :=
  ⟨fun _ _ _ ↦ trivial, fun _ _ _ _ ↦ .call callee arguments block fun result _ _ _ ↦ .done result⟩

theorem alike_parameters (index : Nat) :
    Alike numbering blind (parameters index done) (parameters index done) :=
  ⟨fun _ _ _ ↦ trivial, fun _ _ _ _ ↦ .parameters index fun names _ _ _ ↦ .done names⟩

theorem alike_reach (receiver : Value) (name : String) (arguments : Option (List Value))
    {next next' : Option Value → Action α}
    (hnext : ∀ answer, Alike numbering blind (next answer) (next' (rename numbering answer))) :
    Alike numbering blind (reach receiver name arguments next)
      (reach (rename numbering receiver) name (rename numbering arguments) next') :=
  ⟨fun memory answer ↦ (hnext answer).swells memory,
    fun limit left right hmatches ↦ .reach receiver name arguments fun answer ↦
      (hnext answer).ends limit left right hmatches⟩

/-- Host code that is a computation does alike when the computation does. -/
theorem alike_compute {first second : Compute α} (hcompute : Compute.Alike numbering first second) :
    Alike numbering blind (compute first) (compute second) where
  swells memory := by
    have hswells := hcompute.swells memory
    generalize heq : first.run.run memory = ended at hswells
    obtain ⟨cause | result, changed⟩ := ended
    · simp only [compute, SwellsOn, heq]
      exact ⟨hswells.cells, trivial⟩
    · simp only [compute, SwellsOn, heq]
      exact ⟨hswells.cells, trivial⟩
  ends limit left right hmatches := by
    apply AlikeOn.inspect
    have hends := hcompute.ends limit left right hmatches
    generalize first.run.run left = ended at hends ⊢
    generalize second.run.run right = ended' at hends ⊢
    obtain ⟨outcome, changed⟩ := ended
    obtain ⟨outcome', changed'⟩ := ended'
    rcases hends with hover | ⟨hchanged, rfl⟩
    · cases outcome with
      | error cause => exact .exceeded hover
      | ok result => exact .exceeded hover
    -- The closures are those from before, whatever the computation made of them.
    · have hupdated : numbering.Matches limit { left with heap := changed.heap, marks := changed.marks }
          { right with heap := changed'.heap, marks := changed'.marks } :=
        { cells := hchanged.cells
          size := hchanged.size
          closures := hmatches.closures
          marks := hchanged.marks
          next := hchanged.next }
      cases outcome with
      | error cause => exact .update hupdated (.fail ⟨cause, none⟩)
      | ok result => exact .update hupdated (.done result)

end Action

/-! ### Libraries -/

/-- A class that does alike: its shared attributes and traps name no address that changes, and its
methods and what calling it does are alike. -/
structure HostClass.Alike (numbering : Numbering) (blind : Bool) (hostClass : HostClass) : Prop where
  shared : rename numbering hostClass.shared = hostClass.shared
  traps : rename numbering hostClass.traps = hostClass.traps
  methods : ∀ method ∈ hostClass.methods, ∀ self arguments block,
    Action.Alike numbering blind (method.body self arguments block)
      (method.body (rename numbering self) (rename numbering arguments) (rename numbering block))
  construct : ∀ arguments block,
    Action.Alike numbering blind (hostClass.construct arguments block)
      (hostClass.construct (rename numbering arguments) (rename numbering block))

/-- A library that does alike. -/
structure Library.Alike (numbering : Numbering) (blind : Bool) (library : Library) : Prop where
  classes : ∀ hostClass ∈ library.classes, hostClass.Alike numbering blind
  functions : ∀ function ∈ library.functions, ∀ arguments block,
    Action.Alike numbering blind (function.body arguments block)
      (function.body (rename numbering arguments) (rename numbering block))

theorem lookup_rename {α : Type} [Renamable α] (entries : List (String × α)) (name : String) :
    (rename numbering entries).lookup name = rename numbering (entries.lookup name) := by
  induction entries with
  | nil => rfl
  | cons entry rest ih =>
    obtain ⟨own, item⟩ := entry
    rw [rename_cons, rename_pair, rename_of_addressless, List.lookup_cons, List.lookup_cons, ih]
    split <;> rfl

namespace Library

open Treewalk.Action

variable {library : Library} (hlibrary : library.Alike numbering blind)

include hlibrary

theorem alike_class? {name : String} {hostClass : HostClass}
    (hfound : library.class? name = some hostClass) : hostClass.Alike numbering blind :=
  hlibrary.classes hostClass (List.mem_of_find?_eq_some hfound)

/-! ### Attributes -/

omit hlibrary in
theorem objectAttribute_rename {hostClass : HostClass} (hclass : hostClass.Alike numbering blind)
    (fields : List (String × Value)) (receiver : Value) (name : String) :
    objectAttribute hostClass (rename numbering fields) (rename numbering receiver) name =
      rename numbering (objectAttribute hostClass fields receiver name) := by
  have htraps : hostClass.traps.lookup name = rename numbering (hostClass.traps.lookup name) := by
    rw [← lookup_rename, hclass.traps]
  have hshared : hostClass.shared.lookup name = rename numbering (hostClass.shared.lookup name) := by
    rw [← lookup_rename, hclass.shared]
  unfold objectAttribute
  rw [lookup_rename]
  cases htrap : hostClass.traps.lookup name with
  | some failure =>
    rw [htrap] at htraps
    exact congrArg Attribute.trap (Option.some.inj htraps)
  | none =>
    cases fields.lookup name with
    | some value => rfl
    | none =>
      cases hvalue : hostClass.shared.lookup name with
      | some value =>
        rw [hvalue] at hshared
        exact congrArg Attribute.value (Option.some.inj hshared)
      | none => cases hostClass.method? name <;> rfl

/-- The attributes of a value are the same, under other numbers. -/
theorem attributeOf_rename {left right : Memory} (hmirrors : numbering.Mirrors left right)
    (receiver : Value) (name : String) :
    library.attributeOf right (rename numbering receiver) name =
      rename numbering (library.attributeOf left receiver name) := by
  have hplain : Member.attributeOf right (rename numbering receiver) name =
      rename numbering (Member.attributeOf left receiver name) :=
    Member.attributeOf_rename hmirrors receiver name
  cases receiver with
  | hostClass className =>
    simp only [attributeOf, Value.rename_hostClass] at hplain ⊢
    cases hfound : library.class? className with
    | none => exact hplain
    | some hostClass =>
      have hshared : hostClass.shared.lookup name =
          rename numbering (hostClass.shared.lookup name) := by
        rw [← lookup_rename, (alike_class? hlibrary hfound).shared]
      dsimp only
      cases hvalue : hostClass.shared.lookup name with
      | some value =>
        rw [hvalue] at hshared
        exact congrArg Attribute.value (Option.some.inj hshared)
      | none =>
        cases hostClass.method? name with
        | some method => rfl
        | none => exact hplain
  | cell address =>
    have hcell := hmirrors.cell?_rename (.cell address)
    simp only [attributeOf, Value.rename_cell] at hplain hcell ⊢
    rw [hcell]
    match left.cell? (.cell address) with
    | some (.object className title fields) =>
      simp only [rename_some, Cell.rename_object]
      cases hfound : library.class? className with
      | none => exact hplain
      | some hostClass =>
        have hattribute := objectAttribute_rename (alike_class? hlibrary hfound) fields
          (.cell address) name
        rw [Value.rename_cell] at hattribute
        dsimp only
        rw [hattribute]
        cases objectAttribute hostClass fields (.cell address) name with
        | absent => exact hplain
        | _ => rfl
    | some (.list _) | some (.table _ _) | some (.queue _ _) | some (.buffer _) | none => exact hplain
  | tuple items mark =>
    rw [Value.rename_tuple] at hplain ⊢
    exact hplain
  | _ => exact hplain

omit hlibrary in
/-- The mark of a method that may be missing. -/
theorem elim_marked (found : Option HostMethod) : found.elim false (·.marked) =
    match found with
    | some method => method.marked
    | none => false := by
  cases found <;> rfl

omit hlibrary in
theorem isMarked_rename {left right : Memory} (hmirrors : numbering.Mirrors left right)
    (value : Value) :
    library.isMarked right (rename numbering value) = library.isMarked left value := by
  cases value with
  | method receiver name mark =>
    have hmarked := congrArg
      (fun className ↦ ((library.class? className).bind (·.method? name)).elim false (·.marked))
      (hmirrors.kindName receiver)
    simp only [elim_marked] at hmarked
    cases receiver with
    | hostClass own => rfl
    | tuple items mark' =>
      rw [Value.rename_tuple] at hmarked
      rw [Value.rename_method, Value.rename_tuple]
      exact hmarked
    | _ => exact hmarked
  | tuple items mark =>
    rw [Value.rename_tuple]
    rfl
  | _ => rfl

theorem publishes_rename {left right : Memory} (hmirrors : numbering.Mirrors left right)
    (receiver : Value) (name : String) :
    library.publishes right (rename numbering receiver) name = library.publishes left receiver name := by
  unfold publishes
  rw [attributeOf_rename hlibrary hmirrors]
  cases library.attributeOf left receiver name with
  | value found => exact isMarked_rename hmirrors found
  | method owner own => exact isMarked_rename hmirrors (.method owner own .common)
  | _ => rfl

theorem alike_read (receiver : Value) (name : String) :
    Action.Alike numbering blind (library.read receiver name)
      (library.read (rename numbering receiver) name) := by
  apply alike_inspect
  intro left right hmirrors
  rw [attributeOf_rename hlibrary hmirrors]
  cases library.attributeOf left receiver name with
  | absent => exact alike_done none
  | value found => exact alike_done (some found)
  | number number =>
    exact alike_some (alike_compute (Compute.alike_newNumber number))
  | method owner own =>
    exact alike_some (alike_compute (Compute.alike_newMethod owner own))
  | trap failure => exact alike_fail failure
  | parameters index => exact alike_parameters index
  | inner => exact alike_reach receiver name none fun answer ↦ alike_done answer

theorem alike_hasAttribute (receiver : Value) (name : String) :
    Action.Alike numbering blind (library.hasAttribute receiver name)
      (library.hasAttribute (rename numbering receiver) name) := by
  refine alike_bind (alike_read hlibrary receiver name) fun found ↦ ?_
  rw [isSome_rename]
  exact alike_pure (Value.bool found.isSome)

theorem alike_respondsTo (receiver name : Value) :
    Action.Alike numbering blind (library.respondsTo receiver name)
      (library.respondsTo (rename numbering receiver) (rename numbering name)) := by
  refine alike_bind (alike_compute (Compute.alike_key name)) fun _ ↦ ?_
  rw [Value.text?_rename]
  cases name.text? with
  | none =>
    exact alike_bind (alike_compute (Compute.alike_plain name)) fun s ↦
      alike_hasAttribute hlibrary receiver s
  | some s =>
    dsimp only
    split
    · exact alike_done (Value.bool true)
    · exact alike_hasAttribute hlibrary receiver s

/-! ### Calls -/

omit hlibrary in
theorem alike_applyMethod {hostClass : HostClass} (hclass : hostClass.Alike numbering blind)
    (name : String) (self : Value) (arguments : List Value) (block : Option Value) :
    Action.Alike numbering blind (applyMethod hostClass name self arguments block)
      (applyMethod hostClass name (rename numbering self) (rename numbering arguments)
        (rename numbering block)) := by
  unfold applyMethod
  cases hfound : hostClass.method? name with
  | none => exact alike_refuse _
  | some method =>
    exact hclass.methods method (List.mem_of_find?_eq_some hfound) self arguments block

omit hlibrary in
theorem alike_applyPlain (className name : String) (self : Value) (arguments : List Value)
    (block : Option Value) :
    Action.Alike numbering blind (applyPlain className name self arguments block)
      (applyPlain className name (rename numbering self) (rename numbering arguments)
        (rename numbering block)) := by
  apply alike_inspect
  intro left right hmirrors
  rw [hmirrors.kindName]
  split
  · exact alike_refuse _
  · have hrun : Action.Alike numbering blind (Action.compute (Member.runWith self name arguments block))
        (Action.compute (Member.runWith (rename numbering self) name (rename numbering arguments)
          (rename numbering block))) :=
      alike_compute (Member.alike_runWith self name arguments block)
    cases self with
    | closure index => exact alike_call (.closure index) arguments block
    | tuple items mark =>
      rw [Value.rename_tuple] at hrun ⊢
      exact hrun
    | _ => exact hrun

theorem alike_applyBound (receiver : Value) (name : String) (arguments : List Value)
    (block : Option Value) :
    Action.Alike numbering blind (library.applyBound receiver name arguments block)
      (library.applyBound (rename numbering receiver) name (rename numbering arguments)
        (rename numbering block)) := by
  apply alike_inspect
  intro left right hmirrors
  rw [hmirrors.cell?_rename]
  match left.cell? receiver with
  | some (.object className title fields) =>
    simp only [rename_some, Cell.rename_object]
    cases hfound : library.class? className with
    | none => exact alike_refuse _
    | some hostClass =>
      exact alike_applyMethod (alike_class? hlibrary hfound) name receiver arguments block
  | some (.list _) | some (.table _ _) | some (.queue _ _) | some (.buffer _) | none =>
    exact alike_compute (Member.alike_runWith receiver name arguments block)

omit hlibrary in
theorem alike_applyInner (receiver : Value) (name : String) (arguments : List Value)
    (block : Option Value) :
    Action.Alike numbering blind (applyInner receiver name arguments block)
      (applyInner (rename numbering receiver) name (rename numbering arguments)
        (rename numbering block)) := by
  unfold applyInner
  rw [isSome_rename]
  split
  · exact alike_refuse _
  · refine alike_reach receiver name (some arguments) fun answer ↦ ?_
    cases answer with
    | none => exact alike_refuse _
    | some found => exact alike_done found

/-- Calling a value is alike, whatever the value is. -/
theorem alike_apply (callee : Value) (arguments : List Value) (block : Option Value) :
    Action.Alike numbering blind (library.apply callee arguments block)
      (library.apply (rename numbering callee) (rename numbering arguments)
        (rename numbering block)) := by
  cases callee with
  | closure index => exact alike_call (.closure index) arguments block
  | function name =>
    simp only [Value.rename_function, Library.apply]
    cases hfound : library.functions.find? fun function ↦ function.name == name with
    | none => exact alike_refuse _
    | some function =>
      exact hlibrary.functions function (List.mem_of_find?_eq_some hfound) arguments block
  | hostClass name =>
    simp only [Value.rename_hostClass, Library.apply]
    cases hfound : library.class? name with
    | none => exact alike_compute (Builder.alike_buildWith name arguments block)
    | some hostClass => exact (alike_class? hlibrary hfound).construct arguments block
  | method receiver name mark =>
    have hbound : Action.Alike numbering blind (library.applyBound receiver name arguments block)
        (library.applyBound (rename numbering receiver) name (rename numbering arguments)
          (rename numbering block)) :=
      alike_applyBound hlibrary receiver name arguments block
    cases receiver with
    | hostClass className =>
      match arguments with
      | [] =>
        simp only [Value.rename_method, Value.rename_hostClass, rename_nil, Library.apply]
        cases library.class? className <;> exact alike_refuse _
      | self :: rest =>
        simp only [Value.rename_method, Value.rename_hostClass, rename_cons, Library.apply]
        cases hfound : library.class? className with
        | none => exact alike_applyPlain className name self rest block
        | some hostClass =>
          exact alike_applyMethod (alike_class? hlibrary hfound) name self rest block
    | closure index => exact alike_call (.closure index) arguments block
    | inner index part => exact alike_applyInner (.inner index part) name arguments block
    | tuple items mark' =>
      rw [Value.rename_tuple] at hbound
      rw [Value.rename_method, Value.rename_tuple]
      exact hbound
    | _ => exact hbound
  | tuple items mark =>
    rw [Value.rename_tuple]
    exact alike_refuse _
  | _ => exact alike_refuse _

theorem alike_universal (member : Universal) (receiver : Value) (arguments : List Value)
    (block : Option Value) :
    Action.Alike numbering blind (library.universal member receiver arguments block)
      (library.universal member (rename numbering receiver) (rename numbering arguments)
        (rename numbering block)) := by
  cases member with
  | isNil =>
    rcases arguments with _ | ⟨_, _⟩
    · exact alike_done_of_eq (by rw [Value.isNil_rename]; rfl)
    · exact alike_refuse _
  | itself =>
    rcases arguments with _ | ⟨_, _⟩
    · exact alike_done receiver
    · exact alike_refuse _
  | isIdentical =>
    rcases arguments with _ | ⟨other, _ | ⟨_, _⟩⟩
    · exact alike_refuse _
    · exact alike_done_of_eq (by rw [Value.identical_rename]; rfl)
    · exact alike_refuse _
  | respondsTo =>
    rcases arguments with _ | ⟨name, _ | ⟨_, _⟩⟩
    · exact alike_refuse _
    · exact alike_respondsTo hlibrary receiver name
    · exact alike_refuse _
  | call =>
    simp only [universal, Value.isCallable_rename]
    split
    · exact alike_apply hlibrary receiver arguments block
    · apply alike_inspect
      intro left right hmirrors
      rw [hmirrors.kindName]
      exact alike_refuse (.undefinedMember _ _)

theorem alike_sendAttribute (receiver : Value) (name : String) (found : Value)
    (arguments : List Value) (block : Option Value) :
    Action.Alike numbering blind (library.sendAttribute receiver name found arguments block)
      (library.sendAttribute (rename numbering receiver) name (rename numbering found)
        (rename numbering arguments) (rename numbering block)) := by
  unfold sendAttribute
  rw [Value.isCallable_rename, isEmpty_rename, isNone_rename]
  split
  · exact alike_apply hlibrary found arguments block
  · split
    · exact alike_done found
    · apply alike_inspect
      intro left right hmirrors
      rw [hmirrors.describe]
      exact alike_refuse (.notCallable _ _)

theorem alike_sendUniversal (receiver : Value) (name : String) (arguments : List Value)
    (block : Option Value) :
    Action.Alike numbering blind (library.sendUniversal receiver name arguments block)
      (library.sendUniversal (rename numbering receiver) name (rename numbering arguments)
        (rename numbering block)) := by
  unfold sendUniversal
  cases Universal.ofName? name with
  | some member => exact alike_universal hlibrary member receiver arguments block
  | none =>
    apply alike_inspect
    intro left right hmirrors
    rw [hmirrors.describe]
    exact alike_refuse (.undefinedMember _ _)

omit hlibrary in
theorem alike_operate (operator : Operator) (receiver : Value) (arguments : List Value) :
    Action.Alike numbering blind (operate operator receiver arguments)
      (operate operator (rename numbering receiver) (rename numbering arguments)) := by
  have happly : Action.Alike numbering blind (Action.compute (operator.apply receiver arguments))
      (Action.compute (operator.apply (rename numbering receiver) (rename numbering arguments))) :=
    alike_compute (operator.alike_apply receiver arguments)
  cases receiver with
  | inner index part =>
    refine alike_reach (.inner index part) operator.name (some arguments) fun answer ↦ ?_
    cases answer with
    | none => exact happly
    | some found => exact alike_done found
  | tuple items mark =>
    rw [Value.rename_tuple] at happly ⊢
    exact happly
  | _ => exact happly

/-- Sending a member is alike. -/
theorem alike_invoke (receiver : Value) (name : String) (arguments : List Value)
    (block : Option Value) :
    Action.Alike numbering blind (library.invoke receiver name arguments block)
      (library.invoke (rename numbering receiver) name (rename numbering arguments)
        (rename numbering block)) := by
  unfold invoke
  cases Operator.ofName? name with
  | some operator => exact alike_operate operator receiver arguments
  | none =>
    refine alike_bind (alike_read hlibrary receiver name) fun found ↦ ?_
    cases found with
    | none => exact alike_sendUniversal hlibrary receiver name arguments block
    | some found => exact alike_sendAttribute hlibrary receiver name found arguments block

/-- A constant that is no entry of a table is an attribute. -/
theorem alike_readConstant (owner : Value) (name : Tree) (described : String) :
    Action.Alike numbering blind
      (match name.text? with
        | none => Action.refuse (.plain .type)
        | some s => do
          match ← library.read owner s with
          | some found => Action.done found
          | none => Action.refuse (.uninitializedConstant (described ++ "::" ++ s)))
      (match name.text? with
        | none => Action.refuse (.plain .type)
        | some s => do
          match ← library.read (rename numbering owner) s with
          | some found => Action.done found
          | none => Action.refuse (.uninitializedConstant (described ++ "::" ++ s))) := by
  cases name.text? with
  | none => exact alike_refuse _
  | some s =>
    refine alike_bind (alike_read hlibrary owner s) fun found ↦ ?_
    cases found with
    | none => exact alike_refuse (.uninitializedConstant _)
    | some found => exact alike_done found

/-- Looking up a constant is alike. -/
theorem alike_resolve (owner : Value) (name : Site) :
    Action.Alike numbering blind (library.resolve owner name)
      (library.resolve (rename numbering owner) name) := by
  apply alike_inspect
  intro left right hmirrors
  rw [hmirrors.cell?_rename, hmirrors.describe]
  have hread := alike_readConstant hlibrary owner name.tree (left.describe owner)
  rcases left.cell? owner with _ | cell
  · exact hread
  · cases cell with
    | table entries removals =>
      have hentry : (rename numbering entries).find? name.key =
          rename numbering (entries.find? name.key) := by
        rw [← Table.find?_rename, Site.rename_key]
      simp only [rename_some, Cell.rename_table, hentry]
      cases entries.find? name.key with
      | none => exact alike_refuse (.uninitializedConstant _)
      | some value => exact alike_done value
    | _ => exact hread

end Library

/-! ### Policies -/

/-- A policy that does alike, where it is asked by nodes that it is not to tell apart. -/
def Policy.Alike (numbering : Numbering) (blind : Bool) (seen : Tree → Tree) (library : Library)
    (policy : Policy) : Prop :=
  ∀ receiver member node node', seen node' = seen node →
    Action.Alike numbering blind (policy.authorize library receiver member node)
      (policy.authorize library (rename numbering receiver) member node')

namespace Policy

open Treewalk.Action

variable {seen : Tree → Tree} {library : Library}

theorem alike_permissive : permissive.Alike numbering blind seen library :=
  fun _ _ _ _ _ ↦ alike_done (Value.bool true)

end Policy

/-! ### The default context -/

namespace Host

open Treewalk.Action

/-- The library that lends only the default context names no address and looks at no stack. -/
theorem alike_kernelLibrary : kernelLibrary.Alike numbering blind := by
  refine ⟨fun hostClass hclass ↦ ?_, nofun⟩
  obtain rfl := List.mem_singleton.mp hclass
  refine ⟨rfl, rfl, fun method hmethod self arguments block ↦ ?_, fun arguments block ↦ ?_⟩
  · rcases List.mem_cons.mp hmethod with rfl | hmethod
    · match block, arguments with
      | none, _ => exact alike_refuse _
      | some given, [] => exact alike_done given
      | some given, _ :: _ => exact alike_refuse _
    · obtain rfl := List.mem_singleton.mp hmethod
      match block, arguments with
      | some given, _ => exact alike_refuse _
      | none, [] => exact alike_refuse _
      | none, [message] =>
        exact alike_bind (alike_compute (Compute.alike_plain message)) fun s ↦
          alike_refuse (.worded .runtime s)
      | none, _ :: _ :: _ => exact alike_refuse _
  · match arguments, block with
    | [], none => exact alike_compute (Compute.alike_allocate kernelCell)
    | [], some given => exact alike_refuse _
    | _ :: _, _ => exact alike_refuse _

end Host

end Treewalk
