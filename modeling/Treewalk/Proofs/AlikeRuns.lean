import Treewalk.Proofs.RenamedRequests

/-!
Runs on machines that are numbered differently. Two runs are alike when they end alike on twins and
leave twins (`Run.AlikeFor`). There are ways out: the left machine may come to hold more cells than the
limit, or a block whose parameter list is not one (`Comparison.Gone`); and a run that is given less
depth than the other may be exhausted before it. So that there is no way back from them, runs take no
cell and no closure away.

Being alike is stated once for each way of putting runs together. Host code that does alike is run
alike on engines that are (`Run.alike_perform`).
-/

set_option autoImplicit false
set_option relaxedAutoImplicit false

namespace Treewalk

/-! ### How runs end -/

/-- Nothing is taken away from the memory, the frames and the journal of a machine, and its policy
stays. -/
structure Machine.Swells (before after : Machine) : Prop where
  memory : before.memory.Swells after.memory
  frames : before.frames.size ≤ after.frames.size
  policy : after.evaluator.policy = before.evaluator.policy
  events : before.events <:+ after.events

namespace Machine.Swells

theorem refl (machine : Machine) : machine.Swells machine :=
  ⟨.refl machine.memory, Nat.le_refl _, rfl, List.suffix_rfl⟩

theorem trans {first middle last : Machine} (hfirst : first.Swells middle)
    (hlast : middle.Swells last) : first.Swells last :=
  ⟨hfirst.memory.trans hlast.memory, hfirst.frames.trans hlast.frames,
    hlast.policy.trans hfirst.policy, hfirst.events.trans hlast.events⟩

theorem noted (event : Event) (machine : Machine) : machine.Swells (machine.noted event) :=
  ⟨.refl machine.memory, Nat.le_refl _, rfl, List.suffix_cons event machine.events⟩

theorem affected (effect : Effect) (machine : Machine) :
    machine.Swells (machine.affected effect) := by
  cases effect with
  | bind | unbind =>
    exact ⟨.refl machine.memory, Array.size_setIfInBounds.ge, rfl, List.suffix_rfl⟩
  | _ => exact ⟨.refl machine.memory, Nat.le_refl _, rfl, List.suffix_rfl⟩

theorem logged (severity : Log.Severity) (source : Log.Source) (message : String)
    (machine : Machine) : machine.Swells (machine.logged severity source message) := by
  constructor
  · rw [Machine.memory_logged]
    exact .refl machine.memory
  · rw [Machine.frames_logged]
  · rw [Machine.evaluator_logged]
  · rw [Machine.events_logged]

end Machine.Swells

namespace Comparison

/-- There is no way back. -/
theorem Gone.mono {comparison : Comparison} {before after : Machine} (hgone : comparison.Gone before)
    (hswells : before.Swells after) : comparison.Gone after := by
  cases hgone with
  | cells exceeds => exact .cells (exceeds.trans_le hswells.memory.cells)
  | frames exceeds => exact .frames (exceeds.trans_le hswells.frames)
  | @parameters closure blind found improper listed =>
    refine .parameters blind (hswells.memory.closures.subset found) improper ?_
    cases closure with
    | block parameters body chain => exact listed.mono hswells.events
    | symbolProc name node => exact listed

/-- Failures that differ at most in the address of a receiver and in what is not seen of the node. -/
def SameFailure (comparison : Comparison) (failure failure' : Failure) : Prop :=
  failure'.blurred comparison.seen = (rename comparison.numbering failure).blurred comparison.seen

section

variable {comparison : Comparison} {failure failure' : Failure}

theorem SameFailure.refl (failure : Failure) :
    comparison.SameFailure failure (rename comparison.numbering failure) :=
  rfl

theorem SameFailure.cause (hsame : comparison.SameFailure failure failure') :
    failure'.cause = rename comparison.numbering failure.cause :=
  congrArg Failure.cause hsame

theorem SameFailure.kind (hsame : comparison.SameFailure failure failure') :
    failure'.cause.kind = failure.cause.kind := by
  rw [hsame.cause, Cause.kind_rename]

theorem SameFailure.node (hsame : comparison.SameFailure failure failure') :
    failure'.node.map comparison.seen = failure.node.map comparison.seen :=
  congrArg Failure.node hsame

/-- The node of a failure is missing on both sides or on neither. -/
theorem SameFailure.isNone_node (hsame : comparison.SameFailure failure failure') :
    failure'.node.isNone = failure.node.isNone := by
  rw [← Option.isNone_map (f := comparison.seen), hsame.node, Option.isNone_map]

/-- Nodes that are not told apart may be attached. -/
theorem SameFailure.locate (hsame : comparison.SameFailure failure failure') {node node' : Tree}
    (hnode : comparison.seen node' = comparison.seen node) :
    comparison.SameFailure (failure.locate node) (failure'.locate node') := by
  unfold Failure.locate Failure.isInterpreter
  rw [hsame.kind, hsame.isNone_node]
  split
  · change Failure.mk failure'.cause (some (comparison.seen node')) =
      Failure.mk (rename comparison.numbering failure.cause) (some (comparison.seen node))
    rw [hsame.cause, hnode]
  · exact hsame

end

variable {α : Type} [Renamable α]

/-- Two ends that are alike. -/
inductive EndsAlike (comparison : Comparison) : Outcome α → Outcome α → Prop where
  | value (result : α) :
    EndsAlike comparison (.value result) (.value (rename comparison.numbering result))
  | failed {failure failure' : Failure} (same : comparison.SameFailure failure failure') :
    EndsAlike comparison (.failed failure) (.failed failure')
  | aborted (message : String) : EndsAlike comparison (.aborted message) (.aborted message)
  | exhausted : EndsAlike comparison .exhausted .exhausted

theorem EndsAlike.eq_value {comparison : Comparison} {result : α} {outcome : Outcome α}
    (hends : comparison.EndsAlike (.value result) outcome) :
    outcome = .value (rename comparison.numbering result) := by
  cases hends
  rfl

/-- How two runs end: alike and on twins, or by one of the ways out. -/
inductive Meets (comparison : Comparison) (inScope : Bool) :
    Outcome α × Machine → Outcome α × Machine → Prop where
  | twins {outcome outcome' : Outcome α} {left right : Machine}
      (ends : comparison.EndsAlike outcome outcome') (twins : comparison.Twins inScope left right) :
      Meets comparison inScope (outcome, left) (outcome', right)
  | gone {first second : Outcome α × Machine} (gone : comparison.Gone first.2)
      (policy : first.2.evaluator.policy = comparison.left.evaluator.policy) :
      Meets comparison inScope first second
  | early {first second : Outcome α × Machine} (early : comparison.early)
      (exhausted : first.1 = .exhausted) : Meets comparison inScope first second
  | late {first second : Outcome α × Machine} (late : comparison.late)
      (exhausted : second.1 = .exhausted) : Meets comparison inScope first second

end Comparison

/-- A run that takes nothing away as long as the policy is the one that the comparison begins with. -/
def Run.Swells {α : Type} (comparison : Comparison) (run : Run α) : Prop :=
  ∀ machine : Machine, machine.evaluator.policy = comparison.left.evaluator.policy →
    machine.Swells (run machine).2

/-- Two runs that end alike on twins, of which the first takes nothing away. -/
structure Run.AlikeFor {α : Type} [Renamable α] (comparison : Comparison) (inScope : Bool)
    (first second : Run α) : Prop where
  swells : first.Swells comparison
  meets : ∀ left right, comparison.Twins inScope left right →
    comparison.Meets inScope (first left) (second right)

/-- Two engines that are alike. Values may be called, and parameters listed, wherever local variables
are in scope or host code is blind to them. Where they are out of scope, evaluation may come to
anything, but its beginning is noted unless it is exhausted before. -/
structure Engine.AlikeFor (comparison : Comparison) (engine engine' : Engine) : Prop where
  evaluate : ∀ site, Run.AlikeFor comparison true (engine.evaluate site) (engine'.evaluate site)
  call : ∀ inScope, comparison.Allows inScope → ∀ callee arguments block,
    Run.AlikeFor comparison inScope (engine.call callee arguments block)
      (engine'.call (rename comparison.numbering callee) (rename comparison.numbering arguments)
        (rename comparison.numbering block))
  list : ∀ inScope, comparison.Allows inScope → ∀ site : Site, site.tree.listsParameters = true →
    Run.AlikeFor comparison inScope (engine.evaluate site) (engine'.evaluate site)
  visits : ∀ inScope (site : Site) left right, comparison.Twins inScope left right →
    left.Visited (engine.evaluate site left).2 site.tree ∨
      comparison.Meets inScope (engine.evaluate site left) (engine'.evaluate site right)

namespace Run

variable {α β : Type} [Renamable α] [Renamable β] {comparison : Comparison} {inScope : Bool}

/-! ### Putting runs together -/

theorem alike_ended {outcome outcome' : Outcome α} (hends : comparison.EndsAlike outcome outcome') :
    AlikeFor comparison inScope (ended outcome) (ended outcome') where
  swells machine _ := .refl machine
  meets _ _ htwins := .twins hends htwins

theorem alike_value (result : α) :
    AlikeFor comparison inScope (value result) (value (rename comparison.numbering result)) :=
  alike_ended (.value result)

theorem alike_value_of_eq {result other : α} (hother : other = rename comparison.numbering result) :
    AlikeFor comparison inScope (value result) (value other) :=
  hother ▸ alike_value result

theorem alike_pure (result : α) :
    AlikeFor comparison inScope (pure result : Run α) (pure (rename comparison.numbering result)) :=
  alike_value result

theorem alike_fail {failure failure' : Failure} (hsame : comparison.SameFailure failure failure') :
    AlikeFor comparison inScope (fail failure : Run α) (fail failure') :=
  alike_ended (.failed hsame)

theorem alike_refuse (cause : Cause) :
    AlikeFor comparison inScope (refuse cause : Run α) (refuse (rename comparison.numbering cause)) :=
  alike_fail (.refl ⟨cause, none⟩)

theorem alike_refuseAt {node node' : Tree} (hnode : comparison.seen node' = comparison.seen node)
    (cause : Cause) :
    AlikeFor comparison inScope (refuseAt node cause : Run α)
      (refuseAt node' (rename comparison.numbering cause)) := by
  apply alike_fail
  change Failure.mk (rename comparison.numbering cause) (some (comparison.seen node')) =
    Failure.mk (rename comparison.numbering cause) (some (comparison.seen node))
  rw [hnode]

theorem alike_exhaust : AlikeFor comparison inScope (exhaust : Run α) exhaust :=
  alike_ended .exhausted

/-- A run that is exhausted at once is alike to any other that takes nothing away, if that is allowed. -/
theorem alike_exhaust_early (hearly : comparison.early) (second : Run α) :
    AlikeFor comparison inScope exhaust second where
  swells machine _ := .refl machine
  meets _ _ _ := .early hearly rfl

theorem alike_exhaust_late (hlate : comparison.late) {first : Run α}
    (hswells : first.Swells comparison) : AlikeFor comparison inScope first exhaust where
  swells := hswells
  meets _ _ _ := .late hlate rfl

/-- What comes after joined ends is joined again, as long as what has been exhausted stays so. -/
theorem meets_follow {first second : Outcome α × Machine} {next next' : Outcome α → Run β}
    (hjoined : comparison.Meets inScope first second)
    (hswells : ∀ outcome, (next outcome).Swells comparison)
    (hexhausted : next .exhausted = ended .exhausted) (hexhausted' : next' .exhausted = ended .exhausted)
    (hnext : ∀ outcome outcome' left right, comparison.EndsAlike outcome outcome' →
      comparison.Twins inScope left right →
        comparison.Meets inScope (next outcome left) (next' outcome' right)) :
    comparison.Meets inScope (next first.1 first.2) (next' second.1 second.2) := by
  cases hjoined with
  | twins ends twins => exact hnext _ _ _ _ ends twins
  | gone gone policy =>
    have hlater := hswells first.1 first.2 policy
    exact .gone (gone.mono hlater) (hlater.policy.trans policy)
  | early early exhausted =>
    refine .early early ?_
    rw [exhausted, hexhausted]
    rfl
  | late late exhausted =>
    refine .late late ?_
    rw [exhausted, hexhausted']
    rfl

omit [Renamable α] [Renamable β] in
theorem swells_follow {run : Run α} {next : Outcome α → Run β} (hrun : run.Swells comparison)
    (hnext : ∀ outcome, (next outcome).Swells comparison) :
    Swells comparison fun machine ↦ next (run machine).1 (run machine).2 :=
  fun machine hpolicy ↦ (hrun machine hpolicy).trans
    (hnext _ _ ((hrun machine hpolicy).policy.trans hpolicy))

omit [Renamable α] [Renamable β] in
/-- From where a run ends nothing is taken away by what comes after it. -/
theorem swells_after {run : Run α} {after : α → Run β}
    (hafter : ∀ result, (after result).Swells comparison) {machine : Machine}
    (hpolicy : (run machine).2.evaluator.policy = comparison.left.evaluator.policy) :
    (run machine).2.Swells ((run >>= after) machine).2 := by
  rw [bind_apply]
  rcases heq : run machine with ⟨outcome, changed⟩
  rw [heq] at hpolicy
  cases outcome with
  | value result => exact hafter result changed hpolicy
  | _ => exact .refl changed

omit [Renamable α] [Renamable β] in
theorem swells_bind {run : Run α} {after : α → Run β} (hrun : run.Swells comparison)
    (hafter : ∀ result, (after result).Swells comparison) : (run >>= after).Swells comparison :=
  fun machine hpolicy ↦ (hrun machine hpolicy).trans
    (swells_after hafter ((hrun machine hpolicy).policy.trans hpolicy))

omit [Renamable α] [Renamable β] in
theorem swells_onEnd {after : α → Run β} {recover : Failure → Run β}
    (hafter : ∀ result, (after result).Swells comparison)
    (hrecover : ∀ failure, (recover failure).Swells comparison) (outcome : Outcome α) :
    (onEnd after recover outcome).Swells comparison := by
  cases outcome with
  | value result => exact hafter result
  | failed failure => exact hrecover failure
  | _ => exact fun machine _ ↦ .refl machine

omit [Renamable α] [Renamable β] in
theorem swells_either {run : Run α} {after : α → Run β} {recover : Failure → Run β}
    (hrun : run.Swells comparison) (hafter : ∀ result, (after result).Swells comparison)
    (hrecover : ∀ failure, (recover failure).Swells comparison) :
    (either run after recover).Swells comparison := by
  rw [either_eq_follow]
  exact swells_follow hrun (swells_onEnd hafter hrecover)

/-- One run after another, whether the first one ends with a value or with a failure. -/
theorem meets_either {first second : Run α} {after after' : α → Run β}
    {recover recover' : Failure → Run β} {left right : Machine}
    (hrun : comparison.Meets inScope (first left) (second right))
    (hswells : ∀ result, (after result).Swells comparison)
    (hrecovers : ∀ failure, (recover failure).Swells comparison)
    (hafter : ∀ result changed changed', comparison.Twins inScope changed changed' →
      comparison.Meets inScope (after result changed)
        (after' (rename comparison.numbering result) changed'))
    (hrecover : ∀ failure failure' changed changed', comparison.SameFailure failure failure' →
      comparison.Twins inScope changed changed' →
        comparison.Meets inScope (recover failure changed) (recover' failure' changed')) :
    comparison.Meets inScope (either first after recover left) (either second after' recover' right) := by
  rw [either_eq_follow, either_eq_follow]
  refine meets_follow hrun (swells_onEnd hswells hrecovers) rfl rfl
    fun outcome outcome' changed changed' hends hchanged ↦ ?_
  cases hends with
  | value result => exact hafter result changed changed' hchanged
  | failed same => exact hrecover _ _ changed changed' same hchanged
  | aborted message => exact .twins (.aborted message) hchanged
  | exhausted => exact .twins .exhausted hchanged

theorem alike_either {first second : Run α} {after after' : α → Run β}
    {recover recover' : Failure → Run β} (hrun : AlikeFor comparison inScope first second)
    (hafter : ∀ result,
      AlikeFor comparison inScope (after result) (after' (rename comparison.numbering result)))
    (hrecover : ∀ failure failure', comparison.SameFailure failure failure' →
      AlikeFor comparison inScope (recover failure) (recover' failure')) :
    AlikeFor comparison inScope (either first after recover) (either second after' recover') where
  swells := swells_either hrun.swells (fun result ↦ (hafter result).swells)
    fun failure ↦ (hrecover failure _ (.refl failure)).swells
  meets left right htwins := meets_either (hrun.meets left right htwins)
    (fun result ↦ (hafter result).swells) (fun failure ↦ (hrecover failure _ (.refl failure)).swells)
    (fun result ↦ (hafter result).meets) fun failure failure' changed changed' hsame ↦
      (hrecover failure failure' hsame).meets changed changed'

theorem meets_bind {first second : Run α} {after after' : α → Run β} {left right : Machine}
    (hrun : comparison.Meets inScope (first left) (second right))
    (hswells : ∀ result, (after result).Swells comparison)
    (hafter : ∀ result changed changed', comparison.Twins inScope changed changed' →
      comparison.Meets inScope (after result changed)
        (after' (rename comparison.numbering result) changed')) :
    comparison.Meets inScope ((first >>= after) left) ((second >>= after') right) := by
  rw [bind_eq_either, bind_eq_either]
  exact meets_either hrun hswells (fun _ machine _ ↦ .refl machine) hafter
    fun _ _ _ _ hsame hchanged ↦ .twins (.failed hsame) hchanged

theorem alike_bind {first second : Run α} {after after' : α → Run β}
    (hrun : AlikeFor comparison inScope first second)
    (hafter : ∀ result,
      AlikeFor comparison inScope (after result) (after' (rename comparison.numbering result))) :
    AlikeFor comparison inScope (first >>= after) (second >>= after') where
  swells := swells_bind hrun.swells fun result ↦ (hafter result).swells
  meets left right htwins := meets_bind (hrun.meets left right htwins)
    (fun result ↦ (hafter result).swells) fun result ↦ (hafter result).meets

/-- What is done with things that were looked at may make use of how they are related. -/
theorem alike_look_bind {γ δ : Type} {view : Machine → γ} {view' : Machine → δ} {after : γ → Run β}
    {after' : δ → Run β} (related : γ → δ → Prop)
    (hview : ∀ left right, comparison.Twins inScope left right → related (view left) (view' right))
    (htotal : ∀ machine : Machine,
      machine.evaluator.policy = comparison.left.evaluator.policy → ∃ shown, related (view machine) shown)
    (hafter : ∀ shown shown', related shown shown' →
      AlikeFor comparison inScope (after shown) (after' shown')) :
    AlikeFor comparison inScope (look view >>= after) (look view' >>= after') where
  swells machine hpolicy := by
    obtain ⟨shown, hshown⟩ := htotal machine hpolicy
    exact (hafter _ _ hshown).swells machine hpolicy
  meets left right htwins := (hafter _ _ (hview left right htwins)).meets left right htwins

/-- What is looked at has to be the same under other numbers. -/
theorem alike_look {view view' : Machine → α}
    (hview : ∀ left right, comparison.Twins inScope left right →
      view' right = rename comparison.numbering (view left)) :
    AlikeFor comparison inScope (look view) (look view') where
  swells machine _ := .refl machine
  meets left right htwins := by
    unfold look
    rw [hview left right htwins]
    exact .twins (.value _) htwins

theorem alike_change {update update' : Machine → Machine}
    (hswells : ∀ machine : Machine, machine.Swells (update machine))
    (hupdate : ∀ left right, comparison.Twins inScope left right →
      comparison.Twins inScope (update left) (update' right)) :
    AlikeFor comparison inScope (change update) (change update') where
  swells machine _ := hswells machine
  meets left right htwins := .twins (.value ()) (hupdate left right htwins)

theorem alike_note {event event' : Event} (hdeed : event'.isDeed = event.isDeed)
    (hevent : event'.blurred comparison.seen =
      (rename comparison.numbering event).blurred comparison.seen) :
    AlikeFor comparison inScope (note event) (note event') :=
  alike_change (.noted event) fun _ _ htwins ↦ htwins.noted hdeed hevent

theorem alike_log (severity : Log.Severity) (source : Log.Source) (message message' : String) :
    AlikeFor comparison inScope (log severity source message) (log severity source message') :=
  alike_change (.logged severity source message) fun _ _ htwins ↦
    htwins.logged severity source message message'

theorem alike_map {γ : Type} [Renamable γ] {f : α → γ}
    (hf : ∀ item, f (rename comparison.numbering item) = rename comparison.numbering (f item))
    {first second : Run α} (hrun : AlikeFor comparison inScope first second) :
    AlikeFor comparison inScope (f <$> first) (f <$> second) :=
  alike_bind hrun fun result ↦ alike_value_of_eq (hf result)

theorem alike_mapFailure {adjust adjust' : Failure → Failure}
    (hadjust : ∀ failure failure', comparison.SameFailure failure failure' →
      comparison.SameFailure (adjust failure) (adjust' failure'))
    {first second : Run α} (hrun : AlikeFor comparison inScope first second) :
    AlikeFor comparison inScope (mapFailure adjust first) (mapFailure adjust' second) := by
  rw [mapFailure_eq_either, mapFailure_eq_either]
  exact alike_either hrun alike_value fun failure failure' hsame ↦
    alike_fail (hadjust failure failure' hsame)

/-! ### Memory -/

theorem alike_compute {first second : Compute α}
    (hcompute : Compute.Alike comparison.numbering first second) :
    AlikeFor comparison inScope (compute first) (compute second) where
  swells machine _ := by
    have hswells := hcompute.swells machine.memory
    rw [compute_apply]
    generalize first.run.run machine.memory = ended at hswells ⊢
    obtain ⟨cause | result, changed⟩ := ended
    · exact ⟨hswells, Nat.le_refl _, rfl, List.suffix_rfl⟩
    · exact ⟨hswells, Nat.le_refl _, rfl, List.suffix_rfl⟩
  meets left right htwins := by
    have hends := hcompute.ends comparison.limit left.memory right.memory htwins.memory
    rw [compute_apply, compute_apply]
    generalize first.run.run left.memory = ended at hends ⊢
    generalize second.run.run right.memory = ended' at hends ⊢
    obtain ⟨outcome, changed⟩ := ended
    obtain ⟨outcome', changed'⟩ := ended'
    rcases hends with hover | ⟨hchanged, rfl⟩
    · cases outcome with
      | error cause => exact .gone (.cells hover) htwins.policy
      | ok result => exact .gone (.cells hover) htwins.policy
    · cases outcome with
      | error cause => exact .twins (.failed (.refl ⟨cause, none⟩)) (htwins.withMemory hchanged)
      | ok result => exact .twins (.value result) (htwins.withMemory hchanged)

theorem alike_newList (items : List Value) :
    AlikeFor comparison inScope (newList items) (newList (rename comparison.numbering items)) :=
  alike_compute (Compute.alike_newList items)

theorem swells_close (closure : Closure) : (close closure).Swells comparison := by
  intro machine _
  refine ⟨⟨Nat.le_refl _, ?_⟩, Nat.le_refl _, rfl, List.suffix_rfl⟩
  change machine.memory.closures.toList <+: (machine.memory.closures.push closure).toList
  rw [Array.toList_push]
  exact List.prefix_append _ _

theorem meets_close (closure : Closure) {left right : Machine}
    (htwins : comparison.Twins inScope left right) :
    comparison.Meets inScope (close closure left)
      (close (rename comparison.numbering closure) right) := by
  obtain ⟨hvalue, hmemory⟩ := htwins.memory.close closure
  have hclose (machine : Machine) (closure : Closure) : close closure machine =
      (.value (machine.memory.close closure).1,
        { machine with memory := (machine.memory.close closure).2 }) := rfl
  rw [hclose, hclose, hvalue]
  exact .twins (.value (left.memory.close closure).1) (htwins.withMemory hmemory)

theorem alike_close (closure : Closure) :
    AlikeFor comparison inScope (close closure) (close (rename comparison.numbering closure)) :=
  ⟨swells_close closure, fun _ _ htwins ↦ meets_close closure htwins⟩

/-- A block captures the corresponding chain on both sides. -/
theorem alike_capture (parameters body : Site) {after after' : Value → Run β}
    (hafter : ∀ block, AlikeFor comparison true (after block) (after' (rename comparison.numbering block))) :
    AlikeFor comparison true
      (look (·.evaluator.locals) >>= fun chain ↦ close (.block parameters body chain) >>= after)
      (look (·.evaluator.locals) >>= fun chain ↦ close (.block parameters body chain) >>= after') where
  swells machine hpolicy :=
    swells_bind (swells_close _) (fun block ↦ (hafter block).swells) machine hpolicy
  meets left right htwins := by
    rw [look_bind_apply, look_bind_apply, htwins.locals rfl]
    exact meets_bind (meets_close (.block parameters body left.evaluator.locals) htwins)
      (fun block ↦ (hafter block).swells) fun block ↦ (hafter block).meets

/-! ### Variables -/

section

variable {space : Space} (hspace : space = .locals → inScope = true) (name : Site)

include hspace

theorem alike_read? :
    AlikeFor comparison inScope (read? space name.toName) (read? space name.toName) :=
  alike_look fun left _ htwins ↦ by
    have hfound := Frames.find?_renamed htwins.frames name.key (left.evaluator.chain space)
    rwa [Site.rename_key, ← htwins.chain hspace] at hfound

theorem alike_write (item : Value) :
    AlikeFor comparison inScope (write space name.toName item)
      (write space name.toName (rename comparison.numbering item)) where
  swells machine _ := by
    unfold write
    split
    · exact ⟨.refl machine.memory, Array.size_setIfInBounds.ge, rfl, List.suffix_cons _ _⟩
    · exact .noted _ machine
  meets left right htwins := by
    have htarget := Frames.target?_renamed htwins.frames (Site.rename_key name)
      (left.evaluator.chain space)
    rw [← htwins.chain hspace] at htarget
    change right.frames.target? name.toName.key (right.evaluator.chain space) =
      (left.frames.target? name.toName.key (left.evaluator.chain space)).map
        comparison.numbering.frame at htarget
    unfold write
    rw [htarget]
    cases left.frames.target? name.toName.key (left.evaluator.chain space) with
    | none => exact .twins (.failed (.refl _)) (htwins.noted rfl rfl)
    | some number =>
      have hname : name.toName.value = rename comparison.numbering name.toName.value :=
        (rename_toValue name).symm
      exact .twins (.value ())
        ((htwins.written (Site.rename_key name).symm hname number item).noted rfl rfl)

end

theorem swells_enter (bindings : Table) (base : Option Chain) (machine : Machine) :
    machine.Swells (machine.enter .locals bindings base).2 := by
  constructor
  · rw [Machine.memory_enter]
    exact .refl machine.memory
  · rw [Machine.frames_enter, Array.size_push]
    exact Nat.le_succ _
  · rw [Machine.evaluator_enter, Evaluator.policy_withChain]
  · rw [Machine.events_enter]
    exact List.suffix_cons _ _

omit [Renamable α] in
theorem swells_inFrame (bindings : Table) (base : Option Chain) {run : Run α}
    (hrun : run.Swells comparison) : (inFrame .locals bindings base run).Swells comparison := by
  intro machine hpolicy
  have hentered := swells_enter bindings base machine
  have hrun := hrun _ (hentered.policy.trans hpolicy)
  rw [inFrame_apply]
  exact hentered.trans ⟨hrun.memory, hrun.frames, hrun.policy, hrun.events⟩

/-- Runs that meet inside of a frame meet when it is left, provided that twins stay twins. -/
theorem meets_leave {ended ended' : Outcome α × Machine} {entered entered' : Entered}
    (hinside : comparison.Meets true ended ended')
    (hleave : ∀ left right, comparison.Twins true left right →
      comparison.Twins inScope (left.leave .locals entered) (right.leave .locals entered')) :
    comparison.Meets inScope (ended.1, ended.2.leave .locals entered)
      (ended'.1, ended'.2.leave .locals entered') := by
  cases hinside with
  | twins ends twins => exact .twins ends (hleave _ _ twins)
  | gone gone policy =>
    have hleft : ended.2.Swells (ended.2.leave .locals entered) :=
      ⟨.refl _, Nat.le_refl _, rfl, List.suffix_rfl⟩
    exact .gone (gone.mono hleft) policy
  | early early exhausted => exact .early early exhausted
  | late late exhausted => exact .late late exhausted

omit [Renamable α] in
/-- There may be no number left for a new frame. -/
theorem gone_inFrame (bindings : Table) (base : Option Chain) {run : Run α}
    (hrun : run.Swells comparison) {machine : Machine}
    (hpolicy : machine.evaluator.policy = comparison.left.evaluator.policy)
    (hlimit : ¬ machine.frames.size < comparison.frameLimit) :
    comparison.Gone (inFrame .locals bindings base run machine).2 := by
  have hentered := swells_enter bindings base machine
  have hrun := hrun _ (hentered.policy.trans hpolicy)
  have hsize := hrun.frames
  rw [Machine.frames_enter, Array.size_push] at hsize
  refine .frames (lt_of_lt_of_le ?_ hsize)
  omega

/-- A new frame on top of the local variables. -/
theorem alike_inNewFrame (bindings : Table) {first second : Run α}
    (hrun : AlikeFor comparison true first second) :
    AlikeFor comparison true (inFrame .locals bindings none first)
      (inFrame .locals (rename comparison.numbering bindings) none second) where
  swells := swells_inFrame bindings none hrun.swells
  meets left right htwins := by
    by_cases hlimit : left.frames.size < comparison.frameLimit
    · exact meets_leave (hrun.meets _ _ (htwins.enter_new hlimit bindings)) fun _ _ htwins' ↦
        htwins'.leave_new (htwins.newFrame hlimit)
    · exact .gone (gone_inFrame bindings none hrun.swells htwins.policy hlimit)
        ((swells_inFrame bindings none hrun.swells left htwins.policy).policy.trans htwins.policy)

/-- A new frame over a captured chain, in which local variables are in scope. Leaving it goes back to
the chains outside, which correspond if they did before. -/
theorem alike_inCaptured (bindings : Table) (chain : Chain) {first second : Run α}
    (hrun : AlikeFor comparison true first second) :
    AlikeFor comparison inScope (inFrame .locals bindings (some chain) first)
      (inFrame .locals (rename comparison.numbering bindings)
        (some (chain.map comparison.numbering.frame)) second) where
  swells := swells_inFrame bindings (some chain) hrun.swells
  meets left right htwins := by
    by_cases hlimit : left.frames.size < comparison.frameLimit
    · exact meets_leave (hrun.meets _ _ (htwins.enter_captured hlimit bindings chain))
        fun _ _ htwins' ↦ htwins'.withLocals htwins.locals
    · exact .gone (gone_inFrame bindings (some chain) hrun.swells htwins.policy hlimit)
        ((swells_inFrame bindings (some chain) hrun.swells left htwins.policy).policy.trans
          htwins.policy)

/-! ### Host actions -/

/-- What is made of a failure to list parameters. -/
def unlisted (failure : Failure) : Run (Option Value) :=
  match failure.cause.kind with
  | .member => value none
  | _ => fail failure

/-- The names in the parameter list of a block. -/
def listNames (engine : Engine) (parameters : Site) : Run (Option Value) := do
  if parameters.tree.isAbsent then return some (← newList [])
  else rescue (some <$> engine.evaluate parameters) unlisted

/-- The parameter names of a closure that was found. -/
def namesOf (engine : Engine) : Option Closure → Run (Option Value)
  | some (.block parameters _ _) => listNames engine parameters
  | _ => value none

theorem parameterNames_eq (engine : Engine) (index : Nat) :
    parameterNames engine index = look (·.memory.closure? index) >>= namesOf engine := by
  unfold parameterNames
  congr

section

variable {engine engine' : Engine} (hengine : engine.AlikeFor comparison engine')

include hengine

omit hengine in
theorem unlisted_apply (failure : Failure) (machine : Machine) :
    (unlisted failure machine).2 = machine := by
  unfold unlisted
  cases failure.cause.kind <;> rfl

omit hengine in
theorem alike_unlisted {failure failure' : Failure} (hsame : comparison.SameFailure failure failure') :
    AlikeFor comparison inScope (unlisted failure) (unlisted failure') := by
  unfold unlisted
  rw [hsame.kind]
  split
  · exact alike_value none
  · exact alike_fail hsame

omit hengine in
/-- Names are listed alike when the parameters are evaluated alike on the two machines. -/
theorem meets_listNames {parameters : Site} {left right : Machine}
    (htwins : comparison.Twins inScope left right)
    (hevaluate : comparison.Meets inScope (engine.evaluate parameters left)
      (engine'.evaluate parameters right)) :
    comparison.Meets inScope (listNames engine parameters left)
      (listNames engine' parameters right) := by
  unfold listNames
  split
  · have hlist : AlikeFor comparison inScope (some <$> newList []) (some <$> newList []) :=
      alike_map (f := some) (fun _ ↦ rfl) (alike_newList [])
    exact hlist.meets left right htwins
  · rw [rescue_eq_either, rescue_eq_either]
    refine meets_either (meets_bind hevaluate (fun names machine _ ↦ .refl machine)
      fun names changed changed' hchanged ↦ .twins (.value (some names)) hchanged)
      (fun names machine _ ↦ .refl machine) (fun failure ↦ ?_)
      (fun names changed changed' hchanged ↦ .twins (.value names) hchanged)
      fun failure failure' changed changed' hsame ↦ (alike_unlisted hsame).meets changed changed'
    have hunlisted : AlikeFor comparison true (unlisted failure)
        (unlisted (rename comparison.numbering failure)) := alike_unlisted (.refl failure)
    exact hunlisted.swells

omit hengine in
theorem swells_listNames {parameters : Site}
    (hevaluate : (engine.evaluate parameters).Swells comparison) :
    (listNames engine parameters).Swells comparison := by
  unfold listNames
  split
  · have hlist : AlikeFor comparison true (newList []) (newList []) := alike_newList []
    exact swells_bind hlist.swells fun list machine _ ↦ .refl machine
  · rw [rescue_eq_either]
    exact swells_either (swells_bind hevaluate fun names machine _ ↦ .refl machine)
      (fun names machine _ ↦ .refl machine) fun failure machine _ ↦
        (unlisted_apply failure machine).symm ▸ .refl machine

omit hengine in
theorem alike_listNames {parameters : Site}
    (hevaluate : AlikeFor comparison inScope (engine.evaluate parameters) (engine'.evaluate parameters)) :
    AlikeFor comparison inScope (listNames engine parameters) (listNames engine' parameters) :=
  ⟨swells_listNames hevaluate.swells, fun left right htwins ↦
    meets_listNames htwins (hevaluate.meets left right htwins)⟩

omit hengine in
/-- Listing the names does nothing but evaluate the parameters. -/
theorem listNames_apply {parameters : Site} (hpresent : parameters.tree.isAbsent = false)
    (machine : Machine) :
    (listNames engine parameters machine).2 = (engine.evaluate parameters machine).2 := by
  unfold listNames
  rw [hpresent, if_neg Bool.false_ne_true, rescue_eq_either, either_apply]
  rw [show (some <$> engine.evaluate parameters) =
    engine.evaluate parameters >>= fun names ↦ value (some names) from rfl, bind_apply]
  rcases engine.evaluate parameters machine with ⟨outcome, changed⟩
  cases outcome with
  | failed failure => exact unlisted_apply failure changed
  | _ => rfl

theorem alike_namesOf (hallows : comparison.Allows inScope) {found : Option Closure}
    (hfound : inScope = true ∨ ∀ closure, found = some closure → closure.isProper = true) :
    AlikeFor comparison inScope (namesOf engine found)
      (namesOf engine' (rename comparison.numbering found)) := by
  match found with
  | none => exact alike_value none
  | some (.symbolProc name node) => exact alike_value none
  | some (.block parameters body chain) =>
    refine alike_listNames ?_
    rcases hfound with rfl | hproper
    · exact hengine.evaluate parameters
    · exact hengine.list inScope hallows parameters (hproper _ rfl)

theorem swells_parameterNames (index : Nat) : (parameterNames engine index).Swells comparison := by
  rw [parameterNames_eq]
  exact fun machine ↦ (alike_namesOf hengine (Or.inl rfl) (Or.inl rfl)).swells machine

omit hengine in
/-- A parameter list that does more than list parameters is a tree. -/
theorem isAbsent_of_improper {tree : Tree} (himproper : tree.listsParameters = false) :
    tree.isAbsent = false := by
  cases tree with
  | leaf scalar => cases himproper
  | node tag children => rfl

/-- The names of a block are asked for alike, or else it is one whose parameters cannot be listed where
local variables are out of scope, and they are evaluated. -/
theorem alike_parameterNames (hallows : comparison.Allows inScope) (index : Nat) :
    AlikeFor comparison inScope (parameterNames engine index) (parameterNames engine' index) where
  swells := swells_parameterNames hengine index
  meets left right htwins := by
    by_cases hfound : inScope = true ∨
        ∀ closure, left.memory.closure? index = some closure → closure.isProper = true
    · rw [parameterNames_eq, parameterNames_eq, look_bind_apply, look_bind_apply,
        htwins.mirrors.closure?]
      exact (alike_namesOf hengine hallows hfound).meets left right htwins
    · push Not at hfound
      obtain ⟨hscope, closure, hclosure, hproper⟩ := hfound
      match closure with
      | .symbolProc name node => exact absurd rfl hproper
      | .block parameters body chain =>
        have himproper : parameters.tree.listsParameters = false := by
          simpa [Closure.isProper] using hproper
        have hlisted : (parameterNames engine index left).2 =
            (engine.evaluate parameters left).2 := by
          rw [parameterNames_eq, look_bind_apply, hclosure]
          exact listNames_apply (isAbsent_of_improper himproper) left
        rcases hengine.visits inScope parameters left right htwins with hvisited | hmeets
        · have hswells := swells_parameterNames hengine index left htwins.policy
          refine .gone (.parameters (hallows.resolve_left hscope) (hswells.memory.closures.subset
            (Array.mem_toList_iff.mpr (Array.mem_of_getElem? hclosure))) himproper ?_)
            (hswells.policy.trans htwins.policy)
          rw [hlisted]
          exact hvisited.since htwins.since
        · rw [parameterNames_eq, parameterNames_eq, look_bind_apply, look_bind_apply,
            htwins.mirrors.closure?, hclosure]
          exact meets_listNames htwins hmeets

omit hengine in
/-- Reaching for the interpreter takes nothing away. -/
theorem swells_reach (receiver : Value) (name : String) (arguments : Option (List Value)) :
    (reach receiver name arguments).Swells comparison := by
  intro machine _
  obtain ⟨effect, hreached⟩ := reach_snd receiver name arguments machine
  rw [hreached]
  exact (Machine.Swells.noted (.reach receiver name) machine).trans (.affected _ _)

omit [Renamable α] in
/-- Host code that takes no cell away takes none away while it runs. -/
theorem swells_perform {action : Action α} {machine : Machine}
    (haction : action.SwellsOn machine.memory)
    (hpolicy : machine.evaluator.policy = comparison.left.evaluator.policy) :
    machine.Swells (perform engine action machine).2 := by
  induction action generalizing machine with
  | done result => exact .refl machine
  | fail failure => exact .refl machine
  | abort message => exact .noted _ machine
  | exhaust => exact .refl machine
  | inspect next ih => exact ih machine.memory haction hpolicy
  | update heap marks next ih =>
    have hupdated : machine.Swells
        { machine with memory := { machine.memory with heap := heap, marks := marks } } :=
      ⟨⟨haction.1, List.prefix_rfl⟩, Nat.le_refl _, rfl, List.suffix_rfl⟩
    exact hupdated.trans (ih haction.2 hpolicy)
  | call callee arguments block next ih =>
    exact swells_bind (hengine.call true (Or.inl rfl) callee arguments block).swells
      (fun result changed hchanged ↦ ih result (haction result changed.memory) hchanged) machine hpolicy
  | attempt callee arguments block next catches recover ihnext ihrecover =>
    refine swells_either (hengine.call true (Or.inl rfl) callee arguments block).swells
      (fun result changed ↦ ihnext result (haction.1 result changed.memory))
      (fun failure changed hchanged ↦ ?_) machine hpolicy
    split
    · exact ihrecover _ (haction.2 _ changed.memory) hchanged
    · exact .refl changed
  | parameters index next ih =>
    exact swells_bind (swells_parameterNames hengine index)
      (fun names changed hchanged ↦ ih names (haction names changed.memory) hchanged) machine hpolicy
  | observe next ih => exact ih machine.observed (haction machine.observed) hpolicy
  | reenter next ih =>
    unfold perform
    split
    · exact .refl machine
    · exact ih haction hpolicy
  | reach receiver name arguments next ih =>
    have hreach := swells_reach receiver name arguments machine hpolicy
    have hmemory := memory_reach receiver name arguments machine
    change machine.Swells ((reach receiver name arguments >>= fun answer ↦
      perform engine (next answer)) machine).2
    rw [bind_apply]
    generalize reach receiver name arguments machine = ended at hreach hmemory ⊢
    obtain ⟨outcome, changed⟩ := ended
    cases outcome with
    | value answer =>
      exact hreach.trans (ih answer (hmemory ▸ haction answer) (hreach.policy.trans hpolicy))
    | _ => exact hreach

/-- Host code that makes the same requests under other numbers is run alike. The induction is on the
requests; what comes after a call depends on the memories that it leaves. -/
theorem meets_perform (hallows : comparison.Allows inScope) {memory memory' : Memory}
    {action action' : Action α}
    (haction : Action.AlikeOn comparison.numbering comparison.blind comparison.limit memory memory'
      action action')
    (hswells : action.SwellsOn memory) {left right : Machine} (hleft : left.memory = memory)
    (hright : right.memory = memory') (htwins : comparison.Twins inScope left right) :
    comparison.Meets inScope (perform engine action left) (perform engine' action' right) := by
  induction haction generalizing left right with
  | done result => exact .twins (.value result) htwins
  | fail failure => exact .twins (.failed (.refl failure)) htwins
  | abort message => exact .twins (.aborted message) (htwins.noted rfl rfl)
  | exhaust => exact .twins .exhausted htwins
  | inspect alike ih =>
    subst hleft hright
    exact ih hswells rfl rfl htwins
  | update matching alike ih =>
    subst hleft hright
    exact ih hswells.2 rfl rfl (htwins.withMemory matching)
  | @exceeded left' right' heap marks next other exceeds =>
    subst hleft
    have hlater : Machine.Swells _ (perform engine next
        { left with memory := { left.memory with heap := heap, marks := marks } }).2 :=
      swells_perform hengine hswells.2 htwins.policy
    exact .gone (Comparison.Gone.mono (.cells exceeds) hlater) (hlater.policy.trans htwins.policy)
  | call callee arguments block alike ih =>
    exact meets_bind ((hengine.call inScope hallows callee arguments block).meets left right htwins)
      (fun result changed hchanged ↦ swells_perform hengine (hswells result changed.memory) hchanged)
      fun result changed changed' hchanged ↦
        ih result changed.memory changed'.memory hchanged.memory (hswells result _) rfl rfl hchanged
  | attempt callee arguments block catches alike recovers ihnext ihrecover =>
    refine meets_either ((hengine.call inScope hallows callee arguments block).meets left right htwins)
      (fun result changed ↦ swells_perform hengine (hswells.1 result changed.memory))
      (fun failure changed hchanged ↦ ?_)
      (fun result changed changed' hchanged ↦
        ihnext result _ _ hchanged.memory (hswells.1 result _) rfl rfl hchanged)
      fun failure failure' changed changed' hsame hchanged ↦ ?_
    · split
      · exact swells_perform hengine (hswells.2 _ changed.memory) hchanged
      · exact .refl changed
    · rw [hsame.kind]
      split
      · exact ihrecover _ _ _ hchanged.memory (hswells.2 _ _) rfl rfl hchanged
      · exact .twins (.failed hsame) hchanged
  | parameters index alike ih =>
    exact meets_bind ((alike_parameterNames hengine hallows index).meets left right htwins)
      (fun names changed hchanged ↦ swells_perform hengine (hswells names changed.memory) hchanged)
      fun names changed changed' hchanged ↦
        ih names changed.memory changed'.memory hchanged.memory (hswells names _) rfl rfl hchanged
  | observe alike ih =>
    exact ih left.observed right.observed (htwins.observed hallows) (hswells _) hleft hright htwins
  | reenter alike ih =>
    unfold perform
    rw [htwins.running]
    split
    · exact .twins (.failed (.refl _)) htwins
    · exact ih hswells hleft hright htwins
  | reach receiver name arguments alike ih =>
    have hnoted : comparison.Twins inScope (left.noted (.reach receiver name))
        (right.noted (.reach (rename comparison.numbering receiver) name)) :=
      htwins.noted rfl rfl
    unfold perform bind reach
    rw [htwins.answer]
    cases left.answer receiver name arguments with
    | missing => exact ih none (hswells none) hleft hright hnoted
    | found item effect =>
      exact ih (some item) (hswells (some item)) ((Machine.memory_affected _ effect).trans hleft)
        ((Machine.memory_affected _ _).trans hright) (hnoted.affected effect)
    | refused cause => exact .twins (.failed (.refl ⟨cause, none⟩)) hnoted

theorem alike_perform (hallows : comparison.Allows inScope) {action action' : Action α}
    (haction : Action.Alike comparison.numbering comparison.blind action action') :
    AlikeFor comparison inScope (perform engine action) (perform engine' action') where
  swells machine hpolicy := swells_perform hengine (haction.swells machine.memory) hpolicy
  meets left right htwins := meets_perform hengine hallows
    (haction.ends comparison.limit left.memory right.memory htwins.memory)
    (haction.swells left.memory) rfl rfl htwins

end

end Run

end Treewalk
