import Treewalk.Proofs.AlikeRuns
import Treewalk.Proofs.LockstepWalk

/-!
The evaluator on machines that are numbered differently. There is one lemma for each function of the
evaluator, in the order of the modules that define them, and a function is opened in its own lemma and
nowhere else. All of them build on the same ground (`Eval.AlikeGround`): engines that are alike, and a
library and a policy that do alike. `Eval.alike_engine` climbs from the engine that can do nothing to
engines of any two depths, where the one that is given less depth is allowed to be exhausted first.
-/

set_option autoImplicit false
set_option relaxedAutoImplicit false

namespace Treewalk

namespace Run

variable {comparison : Comparison} {inScope : Bool}

/-! ### Parameters and targets -/

/-- The first of the values that are left, or nil. -/
theorem rename_firstLeft {numbering : Numbering} (values : List Value) :
    (rename numbering values).headD .nil = rename numbering (values.headD .nil) :=
  (rename_headD values .nil).symm

mutual

theorem alike_bindParameters (mark : Mark) (place : Nat) (parameters : List Tree)
    (values : List Value) (table : Table) :
    AlikeFor comparison inScope (bindParameters mark place parameters values table)
      (bindParameters mark place parameters (rename comparison.numbering values)
        (rename comparison.numbering table)) := by
  match parameters with
  | [] => exact alike_value table
  | .leaf _ :: _ => exact alike_refuse _
  | .node tag children :: rest =>
    unfold bindParameters
    split
    · exact alike_bind (alike_newList values) fun list ↦
        alike_bind (alike_bindParameter _ _ list table) fun bound ↦
          alike_bindParameters _ _ rest [] bound
    · rw [rename_firstLeft, ← rename_tail]
      exact alike_bind (alike_bindParameter _ _ (values.headD .nil) table) fun bound ↦
        alike_bindParameters _ _ rest values.tail bound

theorem alike_bindParameter (mark : Mark) (parameter : Tree) (item : Value) (table : Table) :
    AlikeFor comparison inScope (bindParameter mark parameter item table)
      (bindParameter mark parameter (rename comparison.numbering item)
        (rename comparison.numbering table)) := by
  have hinsert (name : Site) :
      (rename comparison.numbering table).insert name.key name.toValue
        (rename comparison.numbering item) =
        rename comparison.numbering (table.insert name.key name.toValue item) := by
    rw [Table.rename_insert, Site.rename_key, rename_toValue]
  match parameter with
  | .leaf _ => exact alike_refuse _
  | .node tag children =>
    unfold bindParameter
    split
    · split
      · exact alike_value table
      · exact alike_value_of_eq (hinsert _)
    · split
      · split
        · exact alike_refuse _
        · split
          · split
            · exact alike_bindParameters _ _ children [item] table
            · exact alike_bind (alike_compute (Value.alike_toSequence item)) fun items ↦
                alike_bindParameters _ _ children items table
          · exact alike_value_of_eq (hinsert _)
      · split
        · exact alike_bind (alike_compute (Value.alike_toSequence item)) fun items ↦
            alike_bindParameters _ _ children items table
        · exact alike_refuseAt rfl _

end

mutual

theorem alike_assignAll (mark : Mark) (place : Nat) (targets : List Tree) (values : List Value) :
    AlikeFor comparison true (assignAll mark place targets values)
      (assignAll mark place targets (rename comparison.numbering values)) := by
  match targets with
  | [] => exact alike_value ()
  | .leaf _ :: _ => exact alike_refuse _
  | .node tag children :: rest =>
    unfold assignAll
    split
    · exact alike_bind (alike_newList values) fun list ↦
        alike_bind (alike_assign _ _ list) fun _ ↦ alike_assignAll _ _ rest []
    · rw [rename_firstLeft, ← rename_tail]
      exact alike_bind (alike_assign _ _ (values.headD .nil)) fun _ ↦
        alike_assignAll _ _ rest values.tail

theorem alike_assign (mark : Mark) (target : Tree) (item : Value) :
    AlikeFor comparison true (assign mark target item)
      (assign mark target (rename comparison.numbering item)) := by
  match target with
  | .leaf _ => exact alike_refuse _
  | .node tag children =>
    unfold assign
    split
    · split
      · exact alike_refuse _
      · exact alike_write (fun _ ↦ rfl) _ item
    · split
      · split
        · exact alike_refuse _
        · exact alike_write (fun _ ↦ rfl) _ item
      · split
        · match children with
          | [] => exact alike_value ()
          | inner :: _ => exact alike_assign _ inner item
        · split
          · exact alike_bind (alike_compute (Value.alike_toSequence item)) fun items ↦
              alike_assignAll _ _ children items
          · exact alike_refuseAt rfl _

end

theorem alike_destructure (pattern : Site) (item : Value) :
    AlikeFor comparison true (destructure pattern item)
      (destructure pattern (rename comparison.numbering item)) := by
  unfold destructure
  split
  · exact alike_refuse _
  · exact alike_bind (alike_compute (Value.alike_toSequence item)) fun items ↦
      alike_assignAll _ _ _ items

/-- A tree as a value is the same under other numbers. -/
theorem alike_valueOf (site : Site) :
    AlikeFor comparison inScope (value site.toValue) (value site.toValue) :=
  alike_value_of_eq (rename_toValue site).symm

theorem alike_innerName (target : Site) :
    AlikeFor comparison inScope (innerName target) (innerName target) := by
  unfold innerName
  split
  · exact alike_value Value.nil
  · exact alike_refuse _
  · split
    · exact alike_refuse _
    · exact alike_valueOf _

mutual

theorem alike_targetNames (mark : Mark) (place : Nat) (targets : List Tree) :
    AlikeFor comparison inScope (targetNames mark place targets) (targetNames mark place targets) := by
  match targets with
  | [] => exact alike_value []
  | target :: rest =>
    unfold targetNames
    exact alike_bind (alike_targetName _ target) fun first ↦
      alike_bind (alike_targetNames _ _ rest) fun others ↦ alike_pure (first :: others)

theorem alike_targetName (mark : Mark) (target : Tree) :
    AlikeFor comparison inScope (targetName mark target) (targetName mark target) := by
  match target with
  | .leaf _ => exact alike_refuse _
  | .node tag children =>
    unfold targetName
    split
    · exact alike_bind (alike_targetNames _ _ children) fun names ↦ alike_newList names
    · split
      · exact alike_value Value.nil
      · split
        · exact alike_innerName _
        · exact alike_valueOf _

end

end Run

namespace Eval

open Run

/-- What the evaluator stands on. -/
structure AlikeGround (comparison : Comparison) (library : Library) (engine engine' : Engine) :
    Prop where
  engines : engine.AlikeFor comparison engine'
  host : library.Alike comparison.numbering comparison.blind
  policy : comparison.left.evaluator.policy.Alike comparison.numbering comparison.blind
    comparison.seen library

variable {comparison : Comparison} {inScope : Bool} {library : Library} {engine engine' : Engine}

/-! ### Children -/

theorem alike_childAt (children : List Site) (place : Nat) :
    Run.AlikeFor comparison inScope (childAt children place) (childAt children place) := by
  unfold childAt
  split
  · exact alike_value _
  · exact alike_refuse _

theorem alike_twoOf (children : List Site) :
    Run.AlikeFor comparison inScope (twoOf children) (twoOf children) := by
  unfold twoOf
  split
  · exact alike_value (_, _)
  · exact alike_refuse _

theorem alike_threeOf (children : List Site) :
    Run.AlikeFor comparison inScope (threeOf children) (threeOf children) := by
  unfold threeOf
  split
  · exact alike_value (_, _, _)
  · exact alike_refuse _

/-! ### Dispatch -/

/-- The trace is printed on both sides, or there is the same flaw on both. The nodes in it may differ. -/
theorem alike_trace (receiver : Value) (member : Tree) (arguments : List Value)
    (block : Option Value) (receiverNode receiverNode' : Tree) :
    Run.AlikeFor comparison inScope (trace receiver member arguments block receiverNode)
      (trace (rename comparison.numbering receiver) member (rename comparison.numbering arguments)
        (rename comparison.numbering block) receiverNode') := by
  refine alike_look_bind (fun threshold threshold' ↦ threshold' = threshold)
    (fun _ _ htwins ↦ htwins.threshold) (fun _ _ ↦ ⟨_, rfl⟩) fun threshold threshold' hthreshold ↦ ?_
  subst hthreshold
  split
  · refine alike_look_bind
      (fun text text' ↦ text'.map (fun _ ↦ ()) = text.map fun _ ↦ ()) (fun left right htwins ↦ ?_)
      (fun _ _ ↦ ⟨_, rfl⟩) fun text text' htext ↦ ?_
    · unfold traceText
      rw [htwins.mirrors.view, Datum.inspect_rename]
      cases (left.memory.view receiver).inspect with
      | error flaw => rfl
      | ok shown => cases member.written Tree.plain <;> rfl
    · cases text <;> cases text'
      · obtain rfl := Except.error.inj htext
        exact alike_bind (alike_note rfl rfl) fun _ ↦ alike_refuse _
      · cases htext
      · cases htext
      · exact alike_log _ _ _ _
  · exact alike_pure ()

theorem alike_contribution (site : Site) (item : Value) :
    Run.AlikeFor comparison inScope (contribution site item)
      (contribution site (rename comparison.numbering item)) := by
  unfold contribution
  split
  · exact alike_compute (Value.alike_spread item)
  · exact alike_value [item]

theorem alike_context :
    Run.AlikeFor comparison inScope (look (·.evaluator.context)) (look (·.evaluator.context)) :=
  alike_look fun _ _ htwins ↦ htwins.context

section

variable (hground : AlikeGround comparison library engine engine')

include hground

/-- The policy is asked alike by nodes that it is not to tell apart. -/
theorem alike_authorize (hallows : comparison.Allows inScope) (receiver : Value) (member : Tree)
    {node node' : Tree} (hnode : comparison.seen node' = comparison.seen node) :
    Run.AlikeFor comparison inScope (authorize library engine receiver member node)
      (authorize library engine' (rename comparison.numbering receiver) member node') := by
  have hkept : Run.AlikeFor comparison inScope (keepRequest receiver member node)
      (keepRequest (rename comparison.numbering receiver) member node') := by
    refine alike_change (fun machine ↦ ?_) fun _ _ htwins ↦ htwins.requested receiver member hnode
    unfold requested
    split
    · exact ⟨.refl machine.memory, Nat.le_refl _, rfl, List.suffix_rfl⟩
    · exact .refl machine
  have hpublished (left right : Machine) (htwins : comparison.Twins inScope left right) :
      isPublished library right.memory (rename comparison.numbering receiver) member =
        isPublished library left.memory receiver member := by
    unfold isPublished
    cases member.text? with
    | none => rfl
    | some name => exact Library.publishes_rename hground.host htwins.mirrors receiver name
  refine alike_bind hkept fun _ ↦ alike_bind (alike_look hpublished) fun published ↦ ?_
  refine alike_look_bind
    (fun policy policy' ↦ policy = comparison.left.evaluator.policy ∧ policy' = policy)
    (fun left right htwins ↦ ⟨htwins.policy, htwins.samePolicy⟩)
    (fun machine hpolicy ↦ ⟨_, hpolicy, rfl⟩) fun policy policy' hpolicy ↦ ?_
  obtain ⟨rfl, rfl⟩ := hpolicy
  refine alike_bind
    (alike_perform hground.engines hallows (hground.policy receiver member node node' hnode))
    fun answer ↦ alike_bind (alike_look fun _ _ htwins ↦ htwins.mirrors.isGranted answer) fun granted ↦
      alike_bind (alike_note rfl (by simp [Event.blurred, rename, Event.renamed, hnode])) fun _ ↦ ?_
  rw [rename_of_addressless]
  split
  · exact alike_pure ()
  · exact alike_bind (alike_look fun _ _ htwins ↦ htwins.mirrors.kindName receiver) fun kind ↦
      alike_bind (alike_log _ _ _ _) fun _ ↦ alike_refuseAt hnode (.denied receiver kind member)

theorem alike_dispatch (hallows : comparison.Allows inScope) (receiver : Value) (member : Tree)
    (arguments : List Value) (block : Option Value) {node node' : Tree}
    (hnode : comparison.seen node' = comparison.seen node) (receiverNode receiverNode' : Tree) :
    Run.AlikeFor comparison inScope
      (dispatch library engine receiver member arguments block node receiverNode)
      (dispatch library engine' (rename comparison.numbering receiver) member
        (rename comparison.numbering arguments) (rename comparison.numbering block) node'
        receiverNode') := by
  refine alike_bind (alike_authorize hground hallows receiver member hnode) fun _ ↦
    alike_bind (alike_trace receiver member arguments block _ _) fun _ ↦
      alike_mapFailure (fun _ _ hsame ↦ hsame.locate hnode)
        (alike_bind (alike_note rfl rfl) fun _ ↦ alike_perform hground.engines hallows ?_)
  unfold invoke
  cases member.text? with
  | none => exact Action.alike_refuse _
  | some name => exact Library.alike_invoke hground.host receiver name arguments block

omit hground in
theorem asBlock_rename {numbering : Numbering} (given : Value) :
    asBlock (rename numbering given) = rename numbering (asBlock given) := by
  cases given with
  | tuple items mark =>
    rw [Value.rename_tuple]
    exact congrArg some (Value.rename_tuple items mark).symm
  | _ => rfl

theorem alike_evaluateList (sites : List Site) :
    Run.AlikeFor comparison true (evaluateList engine sites) (evaluateList engine' sites) := by
  induction sites with
  | nil => exact alike_value []
  | cons site rest ih =>
    exact alike_bind (hground.engines.evaluate site) fun item ↦
      alike_bind (alike_contribution site item) fun items ↦
        alike_bind ih fun others ↦ alike_value_of_eq (rename_append items others).symm

theorem alike_sendWith {node node' : Tree} (hnode : comparison.seen node' = comparison.seen node)
    (receiverNode member : Tree) (argumentNodes : List Site) (receiver : Value)
    (block : Option Value) :
    Run.AlikeFor comparison true
      (sendWith library engine node receiverNode member argumentNodes receiver block)
      (sendWith library engine' node' receiverNode member argumentNodes
        (rename comparison.numbering receiver) (rename comparison.numbering block)) := by
  unfold sendWith
  split
  · exact alike_bind (alike_evaluateList hground _) fun arguments ↦
      alike_dispatch hground (Or.inl rfl) receiver member arguments block hnode _ _
  · rw [isSome_rename]
    split
    · exact alike_refuseAt hnode _
    · refine alike_bind (alike_evaluateList hground _) fun arguments ↦
        alike_bind (hground.engines.evaluate _) fun given ↦ ?_
      rw [asBlock_rename]
      exact alike_dispatch hground (Or.inl rfl) receiver member arguments _ hnode _ _

theorem alike_subject (site : Site) :
    Run.AlikeFor comparison true (subject engine site) (subject engine' site) := by
  unfold subject
  split
  · exact alike_context
  · exact hground.engines.evaluate site

theorem alike_send (safe : Bool) {node node' : Tree}
    (hnode : comparison.seen node' = comparison.seen node) (children : List Site)
    (block : Option Value) :
    Run.AlikeFor comparison true (send library engine safe node children block)
      (send library engine' safe node' children (rename comparison.numbering block)) := by
  unfold send
  split
  · refine alike_bind (alike_subject hground _) fun receiver ↦ ?_
    rw [Value.isNil_rename]
    split
    · exact alike_pure Value.nil
    · exact alike_sendWith hground hnode _ _ _ receiver block
  · exact alike_refuse _

theorem alike_attachBlock (children : List Site) :
    Run.AlikeFor comparison true (attachBlock library engine children)
      (attachBlock library engine' children) := by
  refine alike_bind (alike_threeOf children) fun parts ↦ ?_
  obtain ⟨sendNode, parameters, body⟩ := parts
  dsimp only [rename_pair, rename_of_addressless]
  split
  · exact alike_refuse _
  · split
    · exact alike_capture parameters body fun block ↦ alike_send hground _ rfl _ (some block)
    · exact alike_refuseAt rfl _

theorem alike_passBlock (node : Tree) (children : List Site) :
    Run.AlikeFor comparison true (passBlock engine node children) (passBlock engine' node children) := by
  unfold passBlock
  split
  · exact alike_value Value.nil
  · refine alike_bind (hground.engines.evaluate _) fun given ↦ ?_
    cases given with
    | symbol name mark => exact alike_close (.symbolProc name node)
    | tuple items mark =>
      rw [Value.rename_tuple]
      exact alike_value_of_eq (Value.rename_tuple items mark).symm
    | _ => exact alike_value _

theorem alike_resolve (owner : Value) (name : Site) (node : Tree) :
    Run.AlikeFor comparison true (resolve library engine owner name node)
      (resolve library engine' (rename comparison.numbering owner) name node) := by
  refine alike_bind (alike_authorize hground (Or.inl rfl) owner name.tree rfl) fun _ ↦
    alike_mapFailure (fun failure failure' hsame ↦ ?_)
      (alike_bind (alike_note rfl rfl) fun _ ↦
        alike_perform hground.engines (Or.inl rfl) (Library.alike_resolve hground.host owner name))
  unfold locateLookup
  rw [hsame.kind]
  split
  · exact hsame.locate rfl
  · exact hsame

theorem alike_constant (node : Tree) (children : List Site) :
    Run.AlikeFor comparison true (constant library engine node children)
      (constant library engine' node children) :=
  alike_bind (alike_twoOf children) fun parts ↦
    alike_bind (alike_subject hground parts.1) fun owner ↦ alike_resolve hground owner parts.2 node

/-! ### Literals -/

theorem alike_evaluateParts (parts : List Site) :
    Run.AlikeFor comparison true (evaluateParts engine parts) (evaluateParts engine' parts) := by
  induction parts with
  | nil => exact alike_value []
  | cons part rest ih =>
    exact alike_bind (hground.engines.evaluate part) fun item ↦
      alike_bind (alike_compute (Compute.alike_interpolated item)) fun first ↦
        alike_bind ih fun others ↦ alike_pure (first :: others)

theorem alike_joinParts (parts : List Site) :
    Run.AlikeFor comparison true (joinParts engine parts) (joinParts engine' parts) :=
  alike_bind (alike_evaluateParts hground parts) fun texts ↦
    alike_compute (Compute.alike_joined texts)

omit hground in
theorem alike_joinLeaves (leaves : List Site) :
    Run.AlikeFor comparison true (joinLeaves leaves) (joinLeaves leaves) := by
  have htext (leaf : Site) : Compute.Alike comparison.numbering (Compute.asText leaf.toValue)
      (Compute.asText leaf.toValue) := by
    have hrenamed : Compute.Alike comparison.numbering _ _ := Compute.alike_asText leaf.toValue
    rwa [rename_toValue] at hrenamed
  exact alike_compute (Compute.alike_bind (Compute.alike_mapM_same htext leaves) fun texts ↦
    Compute.alike_joined texts)

theorem alike_optionLetters (optionNode : Option Site) :
    Run.AlikeFor comparison true (optionLetters engine optionNode) (optionLetters engine' optionNode) := by
  cases optionNode with
  | none => exact alike_value ""
  | some site =>
    exact alike_bind (hground.engines.evaluate site) fun letters ↦
      alike_value_of_eq (by rw [Value.text?_rename]; rfl)

theorem alike_pattern (children : List Site) :
    Run.AlikeFor comparison true (pattern engine children) (pattern engine' children) := by
  refine alike_bind (alike_optionLetters hground _) fun options ↦
    alike_bind (alike_joinParts hground _) fun source ↦ ?_
  rw [Value.text?_rename, rename_of_addressless]
  split
  · exact alike_pure (Value.regexp _)
  · exact alike_refuse _

theorem alike_tableEntries (pairs : List Site) (table : Table) :
    Run.AlikeFor comparison true (tableEntries engine pairs table)
      (tableEntries engine' pairs (rename comparison.numbering table)) := by
  induction pairs generalizing table with
  | nil => exact alike_value table
  | cons pair rest ih =>
    refine alike_bind (hground.engines.evaluate pair) fun item ↦
      alike_bind (alike_compute (Value.alike_pair item)) fun parts ↦
        alike_bind (alike_compute (alike_entryKey parts.1)) fun found ↦ ?_
    match found with
    | .error kind => exact alike_refuseAt rfl (.unhashableKey kind)
    | .ok (plain, key) =>
      have hinserted := ih (table.insert key plain parts.2)
      rwa [Table.rename_insert] at hinserted

omit hground in
theorem alike_evaluateAll {sites : List Site}
    (hevaluate : ∀ site ∈ sites,
      Run.AlikeFor comparison inScope (engine.evaluate site) (engine'.evaluate site)) :
    Run.AlikeFor comparison inScope (evaluateAll engine sites) (evaluateAll engine' sites) := by
  induction sites with
  | nil => exact alike_value []
  | cons site rest ih =>
    exact alike_bind (hevaluate site List.mem_cons_self) fun first ↦
      alike_bind (ih fun other hother ↦ hevaluate other (List.mem_cons_of_mem site hother))
        fun others ↦ alike_pure (first :: others)

omit hground in
theorem alike_soleParameter {children : List Site}
    (hevaluate : ∀ site ∈ children,
      Run.AlikeFor comparison inScope (engine.evaluate site) (engine'.evaluate site)) :
    Run.AlikeFor comparison inScope (soleParameter engine children) (soleParameter engine' children) := by
  unfold soleParameter
  split
  · exact alike_refuse _
  · split
    · refine alike_bind (alike_evaluateAll hevaluate) fun names ↦ ?_
      rcases names with _ | ⟨only, _ | ⟨second, others⟩⟩
      · exact alike_newList []
      · exact alike_pure only
      · exact alike_newList (only :: second :: others)
    · exact alike_valueOf _

/-! ### Control flow -/

theorem alike_sequence (result : Value) (sites : List Site) :
    Run.AlikeFor comparison true (sequence engine result sites)
      (sequence engine' (rename comparison.numbering result) sites) := by
  induction sites generalizing result with
  | nil => exact alike_value result
  | cons site rest ih => exact alike_bind (hground.engines.evaluate site) fun next ↦ ih next

omit hground in
theorem alike_splitElse (clauses : List Site) :
    Run.AlikeFor comparison true (splitElse clauses) (splitElse clauses) := by
  have hplain (split : List Site × Option Site) :
      Run.AlikeFor comparison true (value split) (value split) :=
    alike_value_of_eq (by simp [rename])
  unfold splitElse
  split
  · exact hplain _
  · split
    · exact hplain _
    · exact alike_refuse _
    · split <;> exact hplain _

theorem alike_rescued (body : Site) (clauses : List Site) (otherwise : Option Site) :
    Run.AlikeFor comparison true (rescued engine body clauses otherwise)
      (rescued engine' body clauses otherwise) := by
  rw [rescued_eq_either, rescued_eq_either]
  refine alike_either (hground.engines.evaluate body) (fun result ↦ ?_) fun failure failure' hsame ↦ ?_
  · cases otherwise with
    | none => exact alike_value result
    | some site => exact hground.engines.evaluate site
  · cases clauses with
    | nil => exact alike_fail hsame
    | cons clause rest =>
      exact alike_bind (alike_log _ _ _ _) fun _ ↦ hground.engines.evaluate clause

theorem alike_rescueNode (children : List Site) :
    Run.AlikeFor comparison true (rescueNode engine children) (rescueNode engine' children) := by
  unfold rescueNode
  split
  · exact alike_refuse _
  · refine alike_bind (alike_splitElse _) fun split ↦ ?_
    obtain ⟨handlers, otherwise⟩ := split
    simp only [rename_pair, rename_list_of_addressless, rename_option_of_addressless]
    exact alike_inNewFrame [] (alike_rescued hground _ handlers otherwise)

/-! ### Calls -/

omit hground in
theorem alike_bindArguments (parameters : Site) (arguments : List Value) :
    Run.AlikeFor comparison inScope (bindArguments parameters arguments)
      (bindArguments parameters (rename comparison.numbering arguments)) := by
  unfold bindArguments
  split
  · exact alike_value []
  · exact alike_refuse _
  · exact alike_bindParameters _ _ _ arguments []

/-- A block is called alike wherever that is done: it has the chain that it captured. -/
theorem alike_callBlock (parameters body : Site) (chain : Chain) (arguments : List Value) :
    Run.AlikeFor comparison inScope (callBlock engine parameters body chain arguments)
      (callBlock engine' parameters body (chain.map comparison.numbering.frame)
        (rename comparison.numbering arguments)) :=
  alike_bind (alike_bindArguments parameters arguments) fun bindings ↦
    alike_inCaptured bindings chain (hground.engines.evaluate body)

theorem alike_callValue (hallows : comparison.Allows inScope) (callee : Value)
    (arguments : List Value) (block : Option Value) :
    Run.AlikeFor comparison inScope (callValue library engine callee arguments block)
      (callValue library engine' (rename comparison.numbering callee)
        (rename comparison.numbering arguments) (rename comparison.numbering block)) := by
  have happly : Run.AlikeFor comparison inScope
      (perform engine (library.apply callee arguments block))
      (perform engine' (library.apply (rename comparison.numbering callee)
        (rename comparison.numbering arguments) (rename comparison.numbering block))) :=
    alike_perform hground.engines hallows (Library.alike_apply hground.host callee arguments block)
  cases callee with
  | closure index =>
    refine alike_bind (alike_look fun _ _ htwins ↦ htwins.mirrors.closure? index) fun found ↦ ?_
    rcases found with _ | (⟨parameters, body, chain⟩ | ⟨name, node⟩)
    · exact alike_refuse _
    · simp only [isSome_rename]
      split
      · exact alike_refuse _
      · exact alike_callBlock hground parameters body chain arguments
    · cases arguments with
      | nil => exact alike_refuse _
      | cons receiver rest => exact alike_dispatch hground hallows receiver _ rest block rfl _ _
  | tuple items mark =>
    rw [Value.rename_tuple] at happly ⊢
    exact happly
  | _ => exact happly

/-! ### Nodes -/

omit hground in
theorem alike_readLocal (node : Tree) (children : List Site) :
    Run.AlikeFor comparison true (readLocal node children) (readLocal node children) := by
  refine alike_bind (alike_childAt children 0) fun child ↦
    alike_bind (alike_read? (fun _ ↦ rfl) child) fun found ↦ ?_
  cases found with
  | some found => exact alike_pure found
  | none => exact alike_refuseAt rfl _

omit hground in
theorem alike_readGlobal (children : List Site) :
    Run.AlikeFor comparison true (readGlobal children) (readGlobal children) :=
  alike_bind (alike_childAt children 0) fun child ↦
    alike_bind (alike_read? (fun _ ↦ rfl) child) fun found ↦
      alike_value_of_eq (rename_getD found .nil).symm

theorem alike_source (children : List Site) :
    Run.AlikeFor comparison true (source engine children) (source engine' children) := by
  unfold source
  split
  · exact hground.engines.evaluate _
  · exact alike_value Value.nil

theorem alike_writeLocal (children : List Site) :
    Run.AlikeFor comparison true (writeLocal engine children) (writeLocal engine' children) :=
  alike_bind (alike_childAt children 0) fun child ↦
    alike_bind (alike_source hground children) fun item ↦
      alike_bind (alike_write (fun _ ↦ rfl) child item) fun _ ↦ alike_pure item

theorem alike_range (exclusive : Bool) (children : List Site) :
    Run.AlikeFor comparison true (range engine exclusive children) (range engine' exclusive children) :=
  alike_bind (alike_twoOf children) fun parts ↦
    alike_bind (hground.engines.evaluate parts.1) fun first ↦
      alike_bind (hground.engines.evaluate parts.2) fun last ↦
        alike_compute (Compute.alike_newRange first last exclusive)

/-- Each construct is alike on ground that is. -/
theorem alike_node (construct : Construct) (site : Site) (children : List Site) :
    Run.AlikeFor comparison true (node library engine construct site children)
      (node library engine' construct site children) := by
  cases construct with
  | context => exact alike_context
  | send | safeSend => exact alike_send hground _ rfl _ none
  | blockPass => exact alike_passBlock hground _ _
  | constant => exact alike_constant hground _ _
  | block => exact alike_attachBlock hground _
  | textLiteral | intLiteral | floatLiteral | parameter =>
    exact alike_bind (alike_childAt _ _) fun child ↦ alike_valueOf child
  | symbolLiteral =>
    exact alike_bind (alike_childAt _ _) fun child ↦ alike_compute (Compute.alike_newSymbol _)
  | trueLiteral => exact alike_value (Value.bool true)
  | falseLiteral => exact alike_value (Value.bool false)
  | nilLiteral => exact alike_value Value.nil
  | textParts => exact alike_joinParts hground _
  | symbolParts =>
    refine alike_bind (alike_joinParts hground _) fun name ↦ ?_
    rw [Value.text?_rename]
    exact alike_compute (Compute.alike_newSymbol _)
  | pattern => exact alike_pattern hground _
  | patternOptions => exact alike_joinLeaves _
  | spread =>
    cases children with
    | nil => exact alike_value Value.nil
    | cons first rest => exact hground.engines.evaluate first
  | array => exact alike_bind (alike_evaluateList hground _) fun items ↦ alike_newList items
  | pair =>
    exact alike_bind (alike_twoOf _) fun parts ↦
      alike_bind (hground.engines.evaluate parts.1) fun first ↦
        alike_bind (hground.engines.evaluate parts.2) fun second ↦
          alike_compute (Compute.alike_newTuple [first, second])
  | hash =>
    exact alike_bind (alike_tableEntries hground _ []) fun table ↦
      alike_compute (Compute.alike_newTable table)
  | inclusiveRange | exclusiveRange => exact alike_range hground _ _
  | localRead => exact alike_readLocal _ _
  | globalRead => exact alike_readGlobal _
  | localWrite => exact alike_writeLocal hground _
  | targets => exact alike_bind (alike_targetNames _ _ _) fun names ↦ alike_newList names
  | destructure =>
    exact alike_bind (alike_twoOf _) fun parts ↦
      alike_bind (hground.engines.evaluate parts.2) fun item ↦
        alike_bind (alike_destructure parts.1 item) fun _ ↦ alike_pure item
  | parameters =>
    exact alike_bind (alike_evaluateAll fun site _ ↦ hground.engines.evaluate site) fun names ↦
      alike_newList names
  | restParameter =>
    cases children with
    | nil => exact alike_value Value.nil
    | cons first rest => exact alike_valueOf first
  | soleParameter => exact alike_soleParameter fun site _ ↦ hground.engines.evaluate site
  | conjunction =>
    refine alike_bind (alike_twoOf _) fun parts ↦
      alike_bind (hground.engines.evaluate parts.1) fun first ↦ ?_
    rw [Value.isTruthy_rename]
    split
    · exact hground.engines.evaluate parts.2
    · exact alike_pure first
  | disjunction =>
    refine alike_bind (alike_twoOf _) fun parts ↦
      alike_bind (hground.engines.evaluate parts.1) fun first ↦ ?_
    rw [Value.isTruthy_rename]
    split
    · exact alike_pure first
    · exact hground.engines.evaluate parts.2
  | conditional =>
    refine alike_bind (alike_threeOf _) fun parts ↦
      alike_bind (hground.engines.evaluate parts.1) fun condition ↦ ?_
    rw [Value.isTruthy_rename]
    split
    · exact hground.engines.evaluate parts.2.1
    · exact hground.engines.evaluate parts.2.2
  | rescue => exact alike_rescueNode hground _
  | rescueClause =>
    exact alike_bind (alike_childAt _ _) fun child ↦ hground.engines.evaluate child
  | sequence | keywordSequence => exact alike_inNewFrame [] (alike_sequence hground .nil _)

omit hground in
/-- The states of the evaluators need not correspond where a visit is noted. -/
theorem alike_visit (tree tree' : Tree) : Run.AlikeFor comparison inScope (visit tree) (visit tree') :=
  alike_change (fun _ ↦ .noted _ _) fun _ _ htwins ↦ htwins.passed rfl rfl

omit hground in
theorem alike_moveTo (tree tree' : Tree) : Run.AlikeFor comparison inScope (moveTo tree) (moveTo tree') :=
  alike_change (fun machine ↦ ⟨.refl machine.memory, Nat.le_refl _, rfl, List.suffix_rfl⟩)
    fun _ _ htwins ↦ htwins.moved tree tree'

/-- The handlers are the same on both sides, under other numbers. -/
theorem alike_foreign (hallows : comparison.Allows inScope) (tag : String) (site : Site) :
    Run.AlikeFor comparison inScope (foreign library engine tag site)
      (foreign library engine' tag site) := by
  refine alike_bind (alike_look fun _ _ htwins ↦ htwins.handlers) fun handlers ↦ ?_
  rw [lookup_rename]
  cases handlers.lookup tag with
  | none => exact alike_refuseAt rfl _
  | some handler =>
    have hsite : rename comparison.numbering [site.toValue] = [site.toValue] := by
      rw [rename_cons, rename_toValue, rename_nil]
    have hcall := alike_callValue hground hallows handler [site.toValue] none
    rw [hsite] at hcall
    exact alike_bind (alike_moveTo _ _) fun _ ↦ hcall

/-- What the evaluation of a tree does after it is noted that it begins. -/
def meaning (library : Library) (engine : Engine) (site : Site) : Run Value :=
  match site.tree with
  | .leaf .null => value .nil
  | .leaf scalar => refuse (.notANode scalar.kindName)
  | .node tag children =>
    match Construct.ofTag? tag with
    | none => foreign library engine tag site
    | some construct =>
      moveTo (.node tag children) >>= fun _ ↦
        node library engine construct site (Site.childrenOf site.mark children)

theorem alike_meaning (site : Site) :
    Run.AlikeFor comparison true (meaning library engine site) (meaning library engine' site) := by
  unfold meaning
  split
  · exact alike_value Value.nil
  · exact alike_refuse _
  · split
    · exact alike_foreign hground (Or.inl rfl) _ _
    · exact alike_bind (alike_moveTo _ _) fun _ ↦ alike_node hground _ _ _

theorem alike_step (site : Site) :
    Run.AlikeFor comparison true (step library engine site) (step library engine' site) :=
  alike_bind (alike_visit _ _) fun _ ↦ alike_meaning hground site

/-- However it goes on, it is noted that the evaluation of a tree begins. -/
theorem visited_step (site : Site) {machine : Machine}
    (hpolicy : machine.evaluator.policy = comparison.left.evaluator.policy) :
    machine.Visited (step library engine site machine).2 site.tree := by
  let begun := machine.noted (.visit site.tree machine.evaluator)
  have hbegun : machine.Visited begun site.tree :=
    ⟨[_], machine.evaluator, rfl, List.mem_singleton_self _⟩
  exact hbegun.mono ((alike_meaning hground site).swells begun hpolicy).events

omit hground in
theorem step_node (library : Library) (engine : Engine) {tag : String} {construct : Construct}
    (htag : Construct.ofTag? tag = some construct) (children : List Tree) (mark : Mark) :
    step library engine ⟨.node tag children, mark⟩ =
      visit (.node tag children) >>= fun _ ↦ moveTo (.node tag children) >>= fun _ ↦
        node library engine construct ⟨.node tag children, mark⟩ (Site.childrenOf mark children) := by
  simp only [step, htag]

/-- Parameters are listed alike even where local variables are out of scope: none is read. -/
theorem alike_step_listing (hallows : comparison.Allows inScope) {site : Site}
    (hlists : site.tree.listsParameters = true) :
    Run.AlikeFor comparison inScope (step library engine site) (step library engine' site) := by
  obtain ⟨tree, mark⟩ := site
  match tree with
  | .leaf scalar =>
    refine alike_bind (alike_visit _ _) fun _ ↦ ?_
    cases scalar with
    | null => exact alike_value Value.nil
    | _ => exact alike_refuse _
  | .node tag children =>
    have hconstruct {construct : Construct} (htag : Construct.ofTag? tag = some construct)
        (hnode : Run.AlikeFor comparison inScope
          (node library engine construct ⟨.node tag children, mark⟩ (Site.childrenOf mark children))
          (node library engine' construct ⟨.node tag children, mark⟩ (Site.childrenOf mark children))) :
        Run.AlikeFor comparison inScope (step library engine ⟨.node tag children, mark⟩)
          (step library engine' ⟨.node tag children, mark⟩) := by
      rw [step_node library engine htag, step_node library engine' htag]
      exact alike_bind (alike_visit _ _) fun _ ↦ alike_bind (alike_moveTo _ _) fun _ ↦ hnode
    have hchildren (hall : Tree.allListParameters children = true) (child : Site)
        (hchild : child ∈ Site.childrenOf mark children) :
        Run.AlikeFor comparison inScope (engine.evaluate child) (engine'.evaluate child) := by
      have htree : child.tree ∈ children := by
        have hmapped := List.mem_map_of_mem (f := Site.tree) hchild
        rwa [Site.childrenOf, Site.map_tree_childrenFrom] at hmapped
      exact hground.engines.list inScope hallows child (Tree.listsParameters_of_mem hall htree)
    rw [Tree.listsParameters] at hlists
    split at hlists
    · next htag =>
      refine alike_bind (alike_visit _ _) fun _ ↦ ?_
      simp only [htag]
      exact alike_foreign hground hallows _ _
    · next htag =>
      exact hconstruct htag
        (alike_bind (alike_evaluateAll (hchildren hlists)) fun names ↦ alike_newList names)
    · next htag => exact hconstruct htag (alike_soleParameter (hchildren hlists))
    · next htag =>
      exact hconstruct htag (alike_bind (alike_childAt _ _) fun child ↦ alike_valueOf child)
    · next htag =>
      refine hconstruct htag ?_
      cases children with
      | nil => exact alike_value Value.nil
      | cons first rest => exact alike_valueOf ⟨first, mark.child 0⟩
    · next htag =>
      exact hconstruct htag
        (alike_bind (alike_targetNames _ _ _) fun names ↦ alike_newList names)
    · cases hlists

end

theorem alike_engine (hlibrary : library.Alike comparison.numbering comparison.blind)
    (hpolicy : comparison.left.evaluator.policy.Alike comparison.numbering comparison.blind
      comparison.seen library) (depth depth' : Nat)
    (hearly : comparison.early ∨ depth' ≤ depth) (hlate : comparison.late ∨ depth ≤ depth') :
    (Eval.engine library depth).AlikeFor comparison (Eval.engine library depth') := by
  have hnext {engine engine' : Engine} (hengines : engine.AlikeFor comparison engine') :
      Engine.AlikeFor comparison ⟨step library engine, callValue library engine⟩
        ⟨step library engine', callValue library engine'⟩ :=
    have hground : AlikeGround comparison library engine engine' := ⟨hengines, hlibrary, hpolicy⟩
    ⟨alike_step hground, fun _ hallows ↦ alike_callValue hground hallows,
      fun _ hallows _ ↦ alike_step_listing hground hallows,
      fun _ site _ _ htwins ↦ Or.inl (visited_step hground site htwins.policy)⟩
  induction depth generalizing depth' with
  | zero =>
    cases depth' with
    | zero =>
      exact ⟨fun _ ↦ alike_exhaust, fun _ _ _ _ _ ↦ alike_exhaust, fun _ _ _ _ ↦ alike_exhaust,
        fun _ _ _ _ htwins ↦ Or.inr (.twins .exhausted htwins)⟩
    | succ depth' =>
      have hearly : comparison.early := hearly.resolve_right (Nat.not_succ_le_zero depth')
      exact ⟨fun _ ↦ alike_exhaust_early hearly _, fun _ _ _ _ _ ↦ alike_exhaust_early hearly _,
        fun _ _ _ _ ↦ alike_exhaust_early hearly _, fun _ _ _ _ _ ↦ Or.inr (.early hearly rfl)⟩
  | succ depth ih =>
    cases depth' with
    | zero =>
      have hlate : comparison.late := hlate.resolve_right (Nat.not_succ_le_zero depth)
      have hsame := hnext (ih depth (Or.inr (Nat.le_refl _)) (Or.inr (Nat.le_refl _)))
      exact ⟨fun site ↦ alike_exhaust_late hlate (hsame.evaluate site).swells,
        fun _ hallows _ _ _ ↦ alike_exhaust_late hlate (hsame.call _ hallows _ _ _).swells,
        fun _ _ site _ ↦ alike_exhaust_late hlate (hsame.evaluate site).swells,
        fun _ _ _ _ _ ↦ Or.inr (.late hlate rfl)⟩
    | succ depth' =>
      exact hnext (ih depth' (hearly.imp_right Nat.le_of_succ_le_succ)
        (hlate.imp_right Nat.le_of_succ_le_succ))

end Eval

end Treewalk
