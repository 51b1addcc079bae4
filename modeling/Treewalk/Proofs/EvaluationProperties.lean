import Treewalk.Proofs.RunProperties

/-!
Evaluation has every compositional property that its steps have. There is one lemma for each function of
the evaluator, in the order of the modules that define them, and a function is opened in its own lemma
and nowhere else. What the property has to hold of besides is listed once (`Eval.Footing`): of the
queries and the host code behind a dispatch or a lookup, of frames, records and closures, and of the
engine for the parts of a tree. Whatever the property, it then holds of the evaluation of a tree on top
of that engine (`Eval.Footing.step`).
-/

set_option autoImplicit false
set_option relaxedAutoImplicit false

namespace Treewalk

namespace Eval

open Run

variable {realm : Realm} {Holds : ∀ {α : Type} [Confinable α], Run α → Prop} {engine : Engine}

/-! ### What needs no engine -/

section

variable (hholds : Compositional realm Holds)

include hholds

theorem holds_childAt (children : List Site) (place : Nat) : Holds (childAt children place) := by
  unfold childAt
  split
  · exact hholds.value trivial
  · exact hholds.refuse rfl

theorem holds_twoOf (children : List Site) : Holds (twoOf children) := by
  unfold twoOf
  split
  · exact hholds.value ⟨trivial, trivial⟩
  · exact hholds.refuse rfl

theorem holds_threeOf (children : List Site) : Holds (threeOf children) := by
  unfold threeOf
  split
  · exact hholds.value ⟨trivial, trivial, trivial⟩
  · exact hholds.refuse rfl

theorem holds_contribution (site : Site) {item : Value} (hitem : Within realm item) :
    Holds (contribution site item) := by
  unfold contribution
  split
  · exact hholds.compute (.spread hitem)
  · exact hholds.value (within_singleton hitem)

theorem holds_joined (texts : List Value) : Holds (compute (Compute.joined texts)) :=
  hholds.compute (.joined texts)

theorem holds_joinLeaves (leaves : List Site) : Holds (joinLeaves leaves) :=
  hholds.compute (.bind (.mapM fun leaf _ ↦ .asText leaf.toValue) fun _ _ ↦ .joined _)

/-- A property of looking on is one of tracing a dispatch. -/
theorem holds_trace (hlog : ∀ severity source message, Holds (log severity source message))
    (hnote : ∀ receiver member, Holds (note (.untraced receiver member)))
    (hlook : ∀ {α : Type} (view : Machine → α) (after : α → Run Unit),
      (∀ seen, Holds (after seen)) → Holds (look view >>= after))
    (receiver : Value) (member : Tree) (arguments : List Value) (block : Option Value)
    (receiverNode : Tree) : Holds (trace receiver member arguments block receiverNode) := by
  refine hlook _ _ fun threshold ↦ ?_
  split
  · refine hlook _ _ fun text ↦ ?_
    split
    · exact hlog _ _ _
    · next flaw =>
      exact hholds.bind (hnote receiver member) fun _ _ ↦ hholds.refuse flaw.isInterpreter_kind
  · exact hholds.pure trivial

theorem holds_splitElse (clauses : List Site) : Holds (splitElse clauses) := by
  have hplain (split : List Site × Option Site) : Within realm split :=
    ⟨fun _ _ ↦ trivial, fun _ _ ↦ trivial⟩
  unfold splitElse
  split
  · exact hholds.value (hplain _)
  · split
    · exact hholds.value (hplain _)
    · exact hholds.refuse rfl
    · split <;> exact hholds.value (hplain _)

theorem holds_bindArguments
    (hunsupported : ∀ tag children,
      Holds (refuseAt (.node tag children) (.unsupportedConstruct tag) : Run Table))
    (parameters : Site) {arguments : List Value} (harguments : Within realm arguments) :
    Holds (bindArguments parameters arguments) := by
  unfold bindArguments
  split
  · exact hholds.value within_nil
  · exact hholds.refuse rfl
  · exact hholds.bindParameters hunsupported _ _ _ harguments within_nil

end

/-! ### What needs sites to be evaluated -/

section

variable (hholds : Compositional realm Holds) (hevaluate : ∀ site, Holds (engine.evaluate site))

include hholds hevaluate

theorem holds_evaluateList (sites : List Site) : Holds (evaluateList engine sites) := by
  induction sites with
  | nil => exact hholds.value within_nil
  | cons site rest ih =>
    exact hholds.bind (hevaluate site) fun item hitem ↦
      hholds.bind (holds_contribution hholds site hitem) fun _ hitems ↦
        hholds.bind ih fun _ hothers ↦ hholds.pure (within_append hitems hothers)

theorem holds_evaluateParts (parts : List Site) : Holds (evaluateParts engine parts) := by
  induction parts with
  | nil => exact hholds.value within_nil
  | cons part rest ih =>
    have htext (item : Value) : Holds (compute (Compute.interpolated item)) :=
      hholds.compute (.interpolated item)
    exact hholds.bind (hevaluate part) fun item _ ↦ hholds.bind (htext item) fun _ hfirst ↦
      hholds.bind ih fun _ hothers ↦ hholds.pure (within_cons hfirst hothers)

theorem holds_joinParts (parts : List Site) : Holds (joinParts engine parts) :=
  hholds.bind (holds_evaluateParts hholds hevaluate parts) fun _ _ ↦ holds_joined hholds _

theorem holds_optionLetters (optionNode : Option Site) : Holds (optionLetters engine optionNode) := by
  cases optionNode with
  | none => exact hholds.value trivial
  | some site => exact hholds.bind (hevaluate site) fun _ _ ↦ hholds.pure trivial

/-- A source that does not compile is a failure of the platform. -/
theorem holds_pattern (children : List Site) : Holds (pattern engine children) := by
  refine hholds.bind (holds_optionLetters hholds hevaluate _) fun options _ ↦
    hholds.bind (holds_joinParts hholds hevaluate _) fun source _ ↦ ?_
  split
  · exact hholds.pure trivial
  · next kind hfailed =>
    refine hholds.refuse ?_
    rcases Regexp.kind_of_compile hfailed with rfl | rfl | rfl <;> rfl

theorem holds_evaluateAll (sites : List Site) : Holds (evaluateAll engine sites) := by
  induction sites with
  | nil => exact hholds.value within_nil
  | cons site rest ih =>
    exact hholds.bind (hevaluate site) fun _ hfirst ↦
      hholds.bind ih fun _ hothers ↦ hholds.pure (within_cons hfirst hothers)

theorem holds_soleParameter (children : List Site) : Holds (soleParameter engine children) := by
  unfold soleParameter
  split
  · exact hholds.refuse rfl
  · split
    · refine hholds.bind (holds_evaluateAll hholds hevaluate _) fun names hnames ↦ ?_
      split
      · exact hholds.pure (within_head hnames)
      · exact hholds.newList hnames
    · exact hholds.value (within_toValue _)

theorem holds_sequence {result : Value} (hresult : Within realm result) (sites : List Site) :
    Holds (sequence engine result sites) := by
  induction sites generalizing result with
  | nil => exact hholds.value hresult
  | cons site rest ih => exact hholds.bind (hevaluate site) fun _ hnext ↦ ih hnext

theorem holds_rescued (hlog : ∀ severity source message, Holds (log severity source message))
    (body : Site) (clauses : List Site) (otherwise : Option Site) :
    Holds (rescued engine body clauses otherwise) := by
  rw [rescued_eq_either]
  refine hholds.either (hevaluate body) (fun result hresult ↦ ?_) fun failure ↦ ?_
  · split
    · exact hevaluate _
    · exact hholds.value hresult
  · split
    · exact Or.inl rfl
    · exact Or.inr (hholds.bind (hlog _ _ _) fun _ _ ↦ hevaluate _)

theorem holds_source (children : List Site) : Holds (source engine children) := by
  unfold source
  split
  · exact hevaluate _
  · exact hholds.value within_nothing

theorem holds_range (exclusive : Bool) (children : List Site) :
    Holds (range engine exclusive children) :=
  hholds.bind (holds_twoOf hholds children) fun _ _ ↦
    hholds.bind (hevaluate _) fun _ hfirst ↦ hholds.bind (hevaluate _) fun _ hlast ↦
      hholds.compute (.newRange hfirst hlast _)

/-- The parameter names of a block are what its parameter list is evaluated to. -/
theorem holds_parameterNames
    (hclosure : ∀ index (after : Option Closure → Run (Option Value)),
      (∀ found, Holds (after found)) → Holds (look (·.memory.closure? index) >>= after))
    (index : Nat) : Holds (parameterNames engine index) := by
  refine hclosure index _ fun found ↦ ?_
  split
  · split
    · exact hholds.bind (hholds.newList within_nil) fun _ hlist ↦
        hholds.pure (within_some.mpr hlist)
    · refine hholds.rescue
        (hholds.map (fun _ hnames ↦ within_some.mpr hnames) (hevaluate _)) fun failure ↦ ?_
      split
      · exact Or.inr (hholds.value within_none)
      · exact Or.inl rfl
  · exact hholds.pure within_none

end

/-! ### Nodes that are no constructs -/

section

variable {library : Library} {tag : String} {site : Site} {machine : Machine}

/-- A node for whose tag no handler was added is refused. -/
theorem foreign_of_none (hfound : machine.handlers.lookup tag = none) :
    foreign library engine tag site machine =
      (.failed ⟨.unsupportedConstruct tag, some site.tree⟩, machine) := by
  unfold foreign
  rw [look_bind_apply, hfound]
  rfl

/-- And else the latest handler is called with it. -/
theorem foreign_of_some {handler : Value} (hfound : machine.handlers.lookup tag = some handler) :
    foreign library engine tag site machine =
      callValue library engine handler [site.toValue] none
        { machine with evaluator := { machine.evaluator with current := some site.tree } } := by
  unfold foreign
  rw [look_bind_apply, hfound]
  rfl

end

/-! ### What needs variables -/

section

variable (hholds : Scoped realm Holds)

include hholds

theorem holds_readLocal (inner : List Tree) (children : List Site) :
    Holds (readLocal (.node Construct.localRead.tag inner) children) := by
  refine hholds.bind (holds_childAt hholds.toCompositional children 0) fun child _ ↦
    hholds.bind (hholds.read _ _) fun found hfound ↦ ?_
  split
  · exact hholds.pure (within_some.mp hfound)
  · exact hholds.refuseAt (.undefinedVariable _ inner)

theorem holds_readGlobal (children : List Site) : Holds (readGlobal children) :=
  hholds.bind (holds_childAt hholds.toCompositional children 0) fun _ _ ↦
    hholds.bind (hholds.read _ _) fun _ hfound ↦ hholds.pure (within_getD hfound within_nothing)

theorem holds_writeLocal (hevaluate : ∀ site, Holds (engine.evaluate site)) (children : List Site) :
    Holds (writeLocal engine children) :=
  hholds.bind (holds_childAt hholds.toCompositional children 0) fun child _ ↦
    hholds.bind (holds_source hholds.toCompositional hevaluate children) fun _ hitem ↦
      hholds.bind (hholds.write _ child hitem) fun _ _ ↦ hholds.pure hitem

end

/-! ### Evaluation -/

/-- What evaluation on an engine rests on when it is to have a property: the property is compositional,
reading and writing variables has it, and so has whatever else evaluation does, the evaluation of parts
included. A leaf that has a value is nil, so that only nodes give an entry for a table. -/
structure Footing (realm : Realm) (Holds : ∀ {α : Type} [Confinable α], Run α → Prop)
    (library : Library) (engine : Engine) : Prop extends Run.Scoped realm Holds where
  context : Holds (look (·.evaluator.context))
  log : ∀ severity source message, Holds (log severity source message)
  visit : ∀ tree, Holds (visit tree)
  moveTo : ∀ tree, Holds (moveTo tree)
  frame : ∀ {run : Run Value}, Holds run → Holds (inFrame .locals [] none run)
  /-- A symbol that is passed for a block becomes a proc. -/
  proc : ∀ name inner, Holds (close (.symbolProc name (.node Construct.blockPass.tag inner)))
  /-- A block captures the chain that is looked at. -/
  capture : ∀ parameters body {after : Value → Run Value},
    (∀ block, Within realm block → Holds (after block)) →
      Holds (look (·.evaluator.locals) >>= fun chain ↦ close (.block parameters body chain) >>= after)
  evaluate : ∀ site, Holds (engine.evaluate site)
  leaf : ∀ {site : Site} {scalar : Scalar} {machine changed : Machine} {item : Value},
    site.tree = .leaf scalar → engine.evaluate site machine = (.value item, changed) → item = .nil
  dispatch : ∀ {construct : Construct}, construct = .send ∨ construct = .safeSend →
    ∀ inner {receiver : Value}, Within realm receiver → ∀ member {arguments : List Value},
      Within realm arguments → ∀ {block : Option Value}, Within realm block → ∀ receiverNode,
        Holds (dispatch library engine receiver member arguments block (.node construct.tag inner)
          receiverNode)
  resolve : ∀ {owner : Value}, Within realm owner → ∀ name inner,
    Holds (resolve library engine owner name (.node Construct.constant.tag inner))
  /-- A node that is no construct is left to a handler of its tag, if there is one. -/
  foreign : ∀ {tag : String} {inner : List Tree} {site : Site}, Construct.ofTag? tag = none →
    site.tree = .node tag inner → Holds (foreign library engine tag site)

namespace Footing

variable {library : Library} (hfooting : Footing realm Holds library engine)

include hfooting

theorem subject (site : Site) : Holds (subject engine site) := by
  unfold Eval.subject
  split
  · exact hfooting.context
  · exact hfooting.evaluate _

theorem sendWith {construct : Construct} (hconstruct : construct = .send ∨ construct = .safeSend)
    (inner : List Tree) (receiverNode member : Tree) (argumentNodes : List Site) {receiver : Value}
    (hreceiver : Within realm receiver) {block : Option Value} (hblock : Within realm block) :
    Holds (sendWith library engine (.node construct.tag inner) receiverNode member argumentNodes
      receiver block) := by
  have harguments := holds_evaluateList hfooting.toCompositional hfooting.evaluate
  unfold Eval.sendWith
  split
  · exact hfooting.bind (harguments _) fun _ harguments ↦
      hfooting.dispatch hconstruct inner hreceiver _ harguments hblock _
  · split
    · exact hfooting.refuseAt (.blockConflict inner hconstruct)
    · refine hfooting.bind (harguments _) fun _ harguments ↦
        hfooting.bind (hfooting.evaluate _) fun given hgiven ↦
          hfooting.dispatch hconstruct inner hreceiver _ harguments ?_ _
      cases given with
      | nil => exact within_none
      | _ => exact within_some.mpr hgiven

theorem send {construct : Construct} (hconstruct : construct = .send ∨ construct = .safeSend)
    (safe : Bool) (inner : List Tree) (children : List Site) {block : Option Value}
    (hblock : Within realm block) :
    Holds (send library engine safe (.node construct.tag inner) children block) := by
  unfold Eval.send
  split
  · refine hfooting.bind (hfooting.subject _) fun receiver hreceiver ↦ ?_
    split
    · exact hfooting.pure within_nothing
    · exact hfooting.sendWith hconstruct inner _ _ _ hreceiver hblock
  · exact hfooting.refuse rfl

theorem attachBlock (children : List Site) : Holds (attachBlock library engine children) := by
  refine hfooting.bind (holds_threeOf hfooting.toCompositional children) fun parts _ ↦ ?_
  obtain ⟨sendNode, parameters, body⟩ := parts
  dsimp only
  split
  · exact hfooting.refuse rfl
  · next tag inner htree =>
    rw [htree]
    split
    · next hsends =>
      obtain ⟨construct, hconstruct, rfl⟩ : ∃ construct : Construct,
          (construct = .send ∨ construct = .safeSend) ∧ tag = construct.tag := by
        rcases (by simpa using hsends : tag = "send" ∨ tag = "csend") with rfl | rfl
        · exact ⟨.send, Or.inl rfl, rfl⟩
        · exact ⟨.safeSend, Or.inr rfl, rfl⟩
      exact hfooting.capture parameters body fun block hblock ↦
        hfooting.send hconstruct _ inner _ (within_some.mpr hblock)
    · exact hfooting.refuseAt (.unsupportedConstruct tag inner)

theorem passBlock (inner : List Tree) (children : List Site) :
    Holds (passBlock engine (.node Construct.blockPass.tag inner) children) := by
  unfold Eval.passBlock
  split
  · exact hfooting.value within_nothing
  · refine hfooting.bind (hfooting.evaluate _) fun given hgiven ↦ ?_
    split
    · exact hfooting.proc _ inner
    · exact hfooting.pure hgiven

theorem constant (inner : List Tree) (children : List Site) :
    Holds (constant library engine (.node Construct.constant.tag inner) children) :=
  hfooting.bind (holds_twoOf hfooting.toCompositional children) fun _ _ ↦
    hfooting.bind (hfooting.subject _) fun _ howner ↦ hfooting.resolve howner _ inner

/-- What a leaf has for a value is no pair. -/
theorem evaluate_pair_of_leaf {α : Type} {pair : Site} {scalar : Scalar}
    (htree : pair.tree = .leaf scalar) (after : Value × Value → Run α) :
    (engine.evaluate pair >>= fun item ↦ compute item.pair >>= after) =
      engine.evaluate pair >>= fun _ ↦ refuse (.plain .type) := by
  funext machine
  rw [bind_apply, bind_apply]
  rcases hrun : engine.evaluate pair machine with ⟨item | _ | _ | _, changed⟩
  · obtain rfl := hfooting.leaf htree hrun
    rfl
  · rfl
  · rfl
  · rfl

/-- A key that cannot be one is refused for its pair, which is a node. -/
theorem tableEntries (pairs : List Site) {table : Table} (htable : Within realm table) :
    Holds (tableEntries engine pairs table) := by
  induction pairs generalizing table with
  | nil => exact hfooting.value htable
  | cons pair rest ih =>
    unfold Eval.tableEntries
    cases htree : pair.tree with
    | leaf scalar =>
      rw [hfooting.evaluate_pair_of_leaf htree]
      exact hfooting.bind (hfooting.evaluate pair) fun _ _ ↦ hfooting.refuse rfl
    | node tag children =>
      have hpair {item : Value} (hitem : Within realm item) : Holds (compute item.pair) :=
        hfooting.compute (.pair hitem)
      have hkey {name : Value} (hname : Within realm name) : Holds (compute (entryKey name)) :=
        hfooting.compute (.entryKey hname)
      refine hfooting.bind (hfooting.evaluate pair) fun item hitem ↦
        hfooting.bind (hpair hitem) fun parts hparts ↦
          hfooting.bind (hkey hparts.1) fun found hfound ↦ ?_
      split
      · exact hfooting.refuseAt (.unhashableKey _ tag children)
      · exact ih (within_insert htable _ (hfound _ rfl).1 hparts.2)

theorem rescueNode (children : List Site) : Holds (rescueNode engine children) := by
  unfold Eval.rescueNode
  split
  · exact hfooting.refuse rfl
  · exact hfooting.bind (holds_splitElse hfooting.toCompositional _) fun _ _ ↦
      hfooting.frame (holds_rescued hfooting.toCompositional hfooting.evaluate hfooting.log _ _ _)

/-- The meaning of a node of each construct has the property. -/
theorem node (construct : Construct) {site : Site} {inner : List Tree}
    (hsite : site.tree = .node construct.tag inner) (children : List Site) :
    Holds (node library engine construct site children) := by
  have hholds := hfooting.toCompositional
  have hevaluate := hfooting.evaluate
  unfold Eval.node
  rw [hsite]
  cases construct with
  | context => exact hfooting.context
  | send => exact hfooting.send (Or.inl rfl) _ inner _ within_none
  | safeSend => exact hfooting.send (Or.inr rfl) _ inner _ within_none
  | blockPass => exact hfooting.passBlock inner _
  | constant => exact hfooting.constant inner _
  | block => exact hfooting.attachBlock _
  | textLiteral | intLiteral | floatLiteral | parameter =>
    exact hholds.bind (holds_childAt hholds _ _) fun _ _ ↦ hholds.pure (within_toValue _)
  | symbolLiteral => exact hholds.bind (holds_childAt hholds _ _) fun _ _ ↦ hholds.newSymbol _
  | trueLiteral | falseLiteral | nilLiteral => exact hholds.value trivial
  | textParts => exact holds_joinParts hholds hevaluate _
  | symbolParts =>
    exact hholds.bind (holds_joinParts hholds hevaluate _) fun _ _ ↦ hholds.newSymbol _
  | pattern => exact holds_pattern hholds hevaluate _
  | patternOptions => exact holds_joinLeaves hholds _
  | spread =>
    cases children with
    | nil => exact hholds.value within_nothing
    | cons first rest => exact hevaluate first
  | array =>
    exact hholds.bind (holds_evaluateList hholds hevaluate _) fun _ hitems ↦ hholds.newList hitems
  | pair =>
    have htuple {items : List Value} (hitems : Within realm items) :
        Holds (compute (Compute.newTuple items)) :=
      hholds.compute (.newTuple hitems)
    exact hholds.bind (holds_twoOf hholds _) fun _ _ ↦
      hholds.bind (hevaluate _) fun _ hfirst ↦ hholds.bind (hevaluate _) fun _ hsecond ↦
        htuple (within_cons hfirst (within_singleton hsecond))
  | hash =>
    exact hholds.bind (hfooting.tableEntries _ within_nil) fun table htable ↦
      hholds.compute (.newTable htable)
  | inclusiveRange | exclusiveRange => exact holds_range hholds hevaluate _ _
  | localRead => exact holds_readLocal hfooting.toScoped inner _
  | globalRead => exact holds_readGlobal hfooting.toScoped _
  | localWrite => exact holds_writeLocal hfooting.toScoped hevaluate _
  | targets => exact hholds.bind (hholds.targetNames _ _ _) fun _ hnames ↦ hholds.newList hnames
  | destructure =>
    exact hholds.bind (holds_twoOf hholds _) fun _ _ ↦ hholds.bind (hevaluate _) fun _ hitem ↦
      hholds.bind (hfooting.destructure _ hitem) fun _ _ ↦ hholds.pure hitem
  | parameters =>
    exact hholds.bind (holds_evaluateAll hholds hevaluate _) fun _ hnames ↦ hholds.newList hnames
  | restParameter =>
    cases children with
    | nil => exact hholds.value within_nothing
    | cons first rest => exact hholds.value (within_toValue first)
  | soleParameter => exact holds_soleParameter hholds hevaluate _
  | conjunction =>
    refine hholds.bind (holds_twoOf hholds _) fun _ _ ↦
      hholds.bind (hevaluate _) fun first hfirst ↦ ?_
    split
    · exact hevaluate _
    · exact hholds.pure hfirst
  | disjunction =>
    refine hholds.bind (holds_twoOf hholds _) fun _ _ ↦
      hholds.bind (hevaluate _) fun first hfirst ↦ ?_
    split
    · exact hholds.pure hfirst
    · exact hevaluate _
  | conditional =>
    refine hholds.bind (holds_threeOf hholds _) fun _ _ ↦
      hholds.bind (hevaluate _) fun condition _ ↦ ?_
    split <;> exact hevaluate _
  | rescue => exact hfooting.rescueNode _
  | rescueClause => exact hholds.bind (holds_childAt hholds _ _) fun _ _ ↦ hevaluate _
  | sequence | keywordSequence =>
    exact hfooting.frame (holds_sequence hholds hevaluate within_nothing _)

/-- Evaluation is a visit, and what comes after it has the property. -/
theorem afterVisit (site : Site) :
    ∃ rest : Run Value, step library engine site = (Eval.visit site.tree >>= fun _ ↦ rest) ∧
      Holds rest := by
  refine ⟨_, rfl, ?_⟩
  split
  · exact hfooting.value within_nothing
  · exact hfooting.refuse rfl
  · next tag children htree =>
    split
    · next htag => exact hfooting.foreign htag htree
    · next construct hconstruct =>
      obtain rfl : construct.tag = tag := by simpa using List.find?_some hconstruct
      exact hfooting.bind (hfooting.moveTo _) fun _ _ ↦ hfooting.node construct htree _

theorem step (site : Site) : Holds (step library engine site) := by
  obtain ⟨rest, hstep, hrest⟩ := hfooting.afterVisit site
  rw [hstep]
  exact hfooting.bind (hfooting.visit _) fun _ _ ↦ hrest

end Footing

/-- On an engine of any depth a leaf that has a value is nil. -/
theorem eq_nil_of_leaf {library : Library} {depth : Nat} {site : Site} {scalar : Scalar}
    {machine changed : Machine} {item : Value} (htree : site.tree = .leaf scalar)
    (hrun : (Eval.engine library depth).evaluate site machine = (.value item, changed)) :
    item = .nil := by
  cases depth with
  | zero => cases hrun
  | succ depth =>
    change Eval.step library (Eval.engine library depth) site machine = _ at hrun
    unfold Eval.step at hrun
    rw [htree] at hrun
    cases scalar with
    | null => exact (Outcome.value.inj (Prod.mk.inj hrun).1).symm
    | _ => cases hrun

end Eval

end Treewalk
