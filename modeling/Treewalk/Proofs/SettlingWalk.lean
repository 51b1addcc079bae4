import Treewalk.Proofs.HaltingHost
import Treewalk.Proofs.History

/-!
Scripts without blocks come to an end. A tree is blockless when no node of it attaches a block or passes
one on (`Tree.isBlockless`). Evaluating such a tree makes no closure, and on a sealed machine there is no
block to begin with, so that no call ever leads back to a tree: what is evaluated inside of an evaluation
is a part of the same tree. Hence the evaluation of a site settles as soon as those of its parts do, one
level further out. There is one lemma for each function of the evaluator, in the order of the modules
that define them, and a function is opened in its own lemma and nowhere else.

Put together by induction on the height of the tree (`Eval.settles_evaluate`), that makes every session
that reaches no block end on a blockless tree, with a value or an error, and with no more evaluations
inside of each other than the tree has levels (`Session.blockless_terminates`).
-/

set_option autoImplicit false
set_option relaxedAutoImplicit false

namespace Treewalk

/-! ### Blockless trees -/

namespace Tree

/-- Whether no node of a tree is a block or a block argument. -/
def isBlockless : Tree → Bool
  | leaf _ => true
  | node tag children => tag != "block" && tag != "block_pass" && areBlockless children
where
  /-- Whether no node of several trees is one. -/
  areBlockless : List Tree → Bool
    | [] => true
    | child :: rest => child.isBlockless && areBlockless rest

theorem isBlockless_node {tag : String} {children : List Tree} :
    (node tag children).isBlockless = true ↔
      tag ≠ "block" ∧ tag ≠ "block_pass" ∧ isBlockless.areBlockless children = true := by
  rw [isBlockless, Bool.and_eq_true, Bool.and_eq_true, bne_iff_ne, bne_iff_ne, and_assoc]

theorem isBlockless_of_mem {children : List Tree} (hblockless : isBlockless.areBlockless children = true)
    {child : Tree} (hchild : child ∈ children) : child.isBlockless = true := by
  induction children with
  | nil => cases hchild
  | cons first rest ih =>
    obtain ⟨hfirst, hrest⟩ := Bool.and_eq_true_iff.mp hblockless
    rcases List.mem_cons.mp hchild with rfl | hchild
    · exact hfirst
    · exact ih hrest hchild

theorem hasTag_of_isBlockless {tree : Tree} (hblockless : tree.isBlockless = true) :
    tree.hasTag "block_pass" = false := by
  cases tree with
  | leaf scalar => rfl
  | node tag children => exact beq_eq_false_iff_ne.mpr (isBlockless_node.mp hblockless).2.1

theorem height_le_of_mem {children : List Tree} {child : Tree} (hchild : child ∈ children) :
    child.height ≤ height.heightOfChildren children := by
  induction children with
  | nil => cases hchild
  | cons first rest ih =>
    rw [height.heightOfChildren]
    rcases List.mem_cons.mp hchild with rfl | hchild
    · exact Nat.le_max_left _ _
    · exact Nat.le_trans (ih hchild) (Nat.le_max_right _ _)

end Tree

/-- The trees of the sites of children are the children. -/
theorem Site.tree_mem_of_childrenOf {mark : Mark} {children : List Tree} {child : Site}
    (hchild : child ∈ Site.childrenOf mark children) : child.tree ∈ children := by
  have hmapped := List.mem_map_of_mem (f := Site.tree) hchild
  rwa [Site.childrenOf, Site.map_tree_childrenFrom] at hmapped

/-- A site whose evaluation settles, with at most so many evaluations inside of each other. -/
def Site.Settles (enclosure : Enclosure) (levels : Nat) (site : Site) : Prop :=
  Run.Settles enclosure levels fun engine ↦ engine.evaluate site

namespace Eval

open Run

variable {β : Type} [Confinable β] {enclosure : Enclosure} {levels : Nat}

theorem runs_settle (enclosure : Enclosure) (levels : Nat) :
    Compositional enclosure.realm fun {α} [Confinable α] (run : Run α) ↦
      Settles enclosure levels fun _ ↦ run :=
  (scoped_settles enclosure levels).toCompositional

/-! ### Children -/

section

variable {children : List Site}

theorem settles_childAt_bind (place : Nat) {after : Site → Engine → Run β}
    (hafter : ∀ child ∈ children, Settles enclosure levels (after child)) :
    Settles enclosure levels fun engine ↦
      childAt children place >>= fun child ↦ after child engine := by
  unfold childAt
  split
  · next child hchild => exact hafter child (List.mem_of_getElem? hchild)
  · exact settles_refuse _

theorem settles_twoOf_bind {after : Site × Site → Engine → Run β}
    (hafter : ∀ first ∈ children, ∀ second ∈ children,
      Settles enclosure levels (after (first, second))) :
    Settles enclosure levels fun engine ↦ twoOf children >>= fun parts ↦ after parts engine := by
  unfold twoOf
  split
  · next first second =>
    exact hafter first List.mem_cons_self second (List.mem_cons_of_mem first List.mem_cons_self)
  · exact settles_refuse _

theorem settles_threeOf_bind {after : Site × Site × Site → Engine → Run β}
    (hafter : ∀ first ∈ children, ∀ second ∈ children, ∀ third ∈ children,
      Settles enclosure levels (after (first, second, third))) :
    Settles enclosure levels fun engine ↦ threeOf children >>= fun parts ↦ after parts engine := by
  unfold threeOf
  split
  · next first second third =>
    exact hafter first (by simp) second (by simp) third (by simp)
  · exact settles_refuse _

end

/-! ### Dispatch -/

theorem settles_evaluateList {sites : List Site}
    (hsites : ∀ site ∈ sites, site.Settles enclosure levels) :
    Settles enclosure levels fun engine ↦ evaluateList engine sites := by
  induction sites with
  | nil => exact settles_value within_nil
  | cons site rest ih =>
    obtain ⟨hsite, hrest⟩ := List.forall_mem_cons.mp hsites
    exact settles_bind hsite fun item hitem ↦
      settles_bind (holds_contribution (runs_settle _ _) site hitem) fun _ hitems ↦
        settles_bind (ih hrest) fun _ hothers ↦ settles_pure (within_append hitems hothers)

theorem settles_subject {site : Site} (hsite : site.Settles enclosure levels) :
    Settles enclosure levels fun engine ↦ subject engine site := by
  unfold subject
  split
  · exact settles_look fun _ hseals ↦ hseals.context
  · exact hsite

/-- Where no block argument stands there is none to split off. -/
theorem splitBlockPass_of_isBlockless {sites : List Site}
    (hblockless : ∀ site ∈ sites, site.tree.isBlockless = true) :
    splitBlockPass sites = (sites, none) := by
  unfold splitBlockPass
  split
  · next last hlast =>
    rw [if_neg]
    rw [Tree.hasTag_of_isBlockless (hblockless last (List.mem_of_getLast? hlast))]
    exact Bool.false_ne_true
  · rfl

section

variable (hhalting : enclosure.Halting)

include hhalting

variable {children : List Site} (hchildren : ∀ child ∈ children, child.Settles enclosure levels)

include hchildren

theorem settles_send (hblockless : ∀ child ∈ children, child.tree.isBlockless = true) (safe : Bool)
    (node : Tree) :
    Settles enclosure levels fun engine ↦
      send enclosure.library engine safe node children none := by
  unfold send
  split
  · next receiverNode member argumentNodes =>
    obtain ⟨hreceiverNode, hrest⟩ := List.forall_mem_cons.mp hchildren
    have harguments := (List.forall_mem_cons.mp hrest).2
    have hplain : splitBlockPass argumentNodes = (argumentNodes, none) :=
      splitBlockPass_of_isBlockless fun site hsite ↦
        hblockless site (List.mem_cons_of_mem _ (List.mem_cons_of_mem _ hsite))
    refine settles_bind (settles_subject hreceiverNode) fun receiver hreceiver ↦ ?_
    split
    · exact settles_pure trivial
    · simp only [sendWith, hplain]
      exact settles_bind (settles_evaluateList harguments) fun _ hitems ↦
        settles_dispatch hhalting hreceiver _ hitems within_none _ _
  · exact settles_refuse _

theorem settles_constant (node : Tree) :
    Settles enclosure levels fun engine ↦ constant enclosure.library engine node children :=
  settles_twoOf_bind fun scope hscope name _ ↦
    settles_bind (settles_subject (hchildren scope hscope)) fun _ howner ↦
      settles_resolve hhalting howner name node

end

/-! ### Literals -/

section

variable {sites : List Site} (hsites : ∀ site ∈ sites, site.Settles enclosure levels)

include hsites

theorem settles_joinParts : Settles enclosure levels fun engine ↦ joinParts engine sites := by
  refine settles_bind ?_ fun _ _ ↦ holds_joined (runs_settle _ _) _
  induction sites with
  | nil => exact settles_value within_nil
  | cons part rest ih =>
    obtain ⟨hpart, hrest⟩ := List.forall_mem_cons.mp hsites
    exact settles_bind hpart fun item _ ↦
      settles_bind (settles_compute (.interpolated item))
        fun _ hfirst ↦ settles_bind (ih hrest) fun _ hothers ↦ settles_pure (within_cons hfirst hothers)

theorem settles_pattern : Settles enclosure levels fun engine ↦ pattern engine sites := by
  have hsplit : (∀ site ∈ (splitOptions sites).1, site ∈ sites) ∧
      ∀ site ∈ (splitOptions sites).2, site ∈ sites := by
    unfold splitOptions
    split
    · next last hlast =>
      split
      · refine ⟨fun _ hsite ↦ List.dropLast_subset sites hsite, ?_⟩
        rintro _ ⟨⟩
        exact List.mem_of_getLast? hlast
      · exact ⟨fun _ ↦ id, nofun⟩
    · exact ⟨fun _ ↦ id, nofun⟩
  unfold pattern
  generalize splitOptions sites = split at hsplit ⊢
  rcases split with ⟨parts, options⟩
  have hoptions : Settles enclosure levels fun engine ↦ optionLetters engine options := by
    cases options with
    | none => exact settles_value trivial
    | some site =>
      exact settles_bind (hsites site (hsplit.2 site rfl)) fun _ _ ↦ settles_pure trivial
  refine settles_bind hoptions fun letters _ ↦
    settles_bind (settles_joinParts fun site hsite ↦ hsites site (hsplit.1 site hsite)) fun source _ ↦ ?_
  split
  · exact settles_pure trivial
  · exact settles_refuse _

theorem settles_tableEntries {table : Table} (htable : Within enclosure.realm table) :
    Settles enclosure levels fun engine ↦ tableEntries engine sites table := by
  induction sites generalizing table with
  | nil => exact settles_value htable
  | cons pair rest ih =>
    obtain ⟨hpair, hrest⟩ := List.forall_mem_cons.mp hsites
    refine settles_bind hpair fun item hitem ↦
      settles_bind (settles_compute (.pair hitem)) fun parts hparts ↦
        settles_bind (settles_compute (.entryKey hparts.1))
          fun found hfound ↦ ?_
    split
    · exact settles_refuseAt _ _
    · exact ih hrest (within_insert htable _ (hfound _ rfl).1 hparts.2)

theorem settles_evaluateAll : Settles enclosure levels fun engine ↦ evaluateAll engine sites := by
  induction sites with
  | nil => exact settles_value within_nil
  | cons site rest ih =>
    obtain ⟨hsite, hrest⟩ := List.forall_mem_cons.mp hsites
    exact settles_bind hsite fun _ hfirst ↦
      settles_bind (ih hrest) fun _ hothers ↦ settles_pure (within_cons hfirst hothers)

theorem settles_soleParameter :
    Settles enclosure levels fun engine ↦ soleParameter engine sites := by
  unfold soleParameter
  split
  · exact settles_refuse _
  · split
    · refine settles_bind (settles_evaluateAll hsites) fun names hnames ↦ ?_
      split
      · exact settles_pure (within_head hnames)
      · exact settles_newList hnames
    · exact settles_value (within_toValue _)

/-! ### Control flow -/

theorem settles_sequence {result : Value} (hresult : Within enclosure.realm result) :
    Settles enclosure levels fun engine ↦ sequence engine result sites := by
  induction sites generalizing result with
  | nil => exact settles_value hresult
  | cons site rest ih =>
    obtain ⟨hsite, hrest⟩ := List.forall_mem_cons.mp hsites
    exact settles_bind hsite fun _ hnext ↦ ih hrest hnext

theorem settles_splitElse_bind {after : List Site × Option Site → Engine → Run β}
    (hafter : ∀ handlers otherwise, (∀ site ∈ handlers, site.Settles enclosure levels) →
      (∀ site ∈ otherwise, site.Settles enclosure levels) →
        Settles enclosure levels (after (handlers, otherwise))) :
    Settles enclosure levels fun engine ↦ splitElse sites >>= fun parts ↦ after parts engine := by
  have hinner : ∀ site ∈ sites.dropLast, site.Settles enclosure levels :=
    fun site hsite ↦ hsites site (List.dropLast_subset sites hsite)
  unfold splitElse
  split
  · exact hafter [] none nofun nofun
  · next last hlast =>
    split
    · exact hafter _ none hinner nofun
    · exact settles_refuse _
    · split
      · exact hafter _ none hsites nofun
      · refine hafter _ (some last) hinner ?_
        rintro _ ⟨⟩
        exact hsites last (List.mem_of_getLast? hlast)

omit hsites in
theorem settles_rescued {body : Site} (hbody : body.Settles enclosure levels) {clauses : List Site}
    (hclauses : ∀ site ∈ clauses, site.Settles enclosure levels) {otherwise : Option Site}
    (hotherwise : ∀ site ∈ otherwise, site.Settles enclosure levels) :
    Settles enclosure levels fun engine ↦ rescued engine body clauses otherwise := by
  simp only [rescued_eq_either]
  refine settles_either hbody (fun result hresult ↦ ?_) fun failure ↦ ?_
  · cases otherwise with
    | none => exact settles_value hresult
    | some site => exact hotherwise site rfl
  · cases clauses with
    | nil => exact settles_fail failure
    | cons clause rest =>
      exact settles_bind (settles_log _ _ _) fun _ _ ↦ hclauses clause List.mem_cons_self

theorem settles_rescueNode : Settles enclosure levels fun engine ↦ rescueNode engine sites := by
  unfold rescueNode
  split
  · exact settles_refuse _
  · obtain ⟨hbody, hclauses⟩ := List.forall_mem_cons.mp hsites
    exact settles_splitElse_bind hclauses fun handlers otherwise hhandlers hotherwise ↦
      settles_inNewFrame _ within_nil (settles_rescued hbody hhandlers hotherwise)

/-! ### Nodes -/

theorem settles_writeLocal : Settles enclosure levels fun engine ↦ writeLocal engine sites := by
  have hsource : Settles enclosure levels fun engine ↦ source engine sites := by
    unfold source
    split
    · next site hsite => exact hsites site (List.mem_of_getElem? hsite)
    · exact settles_value trivial
  exact settles_childAt_bind 0 fun child _ ↦ settles_bind hsource fun _ hitem ↦
    settles_bind (settles_write _ child hitem) fun _ _ ↦ settles_pure hitem

theorem settles_range (exclusive : Bool) :
    Settles enclosure levels fun engine ↦ range engine exclusive sites :=
  settles_twoOf_bind fun lower hlower upper hupper ↦
    settles_bind (hsites lower hlower) fun _ hfirst ↦
      settles_bind (hsites upper hupper) fun _ hlast ↦
        settles_compute (.newRange hfirst hlast _)

end

/-- The tag of a construct's nodes leads back to the construct only. -/
theorem tag_of_ofTag? {tag : String} {construct : Construct}
    (hconstruct : Construct.ofTag? tag = some construct) : construct.tag = tag := by
  unfold Construct.ofTag? at hconstruct
  have hfound := List.find?_some hconstruct
  exact eq_of_beq hfound

/-- Every construct but those of blocks settles when its children do. -/
theorem settles_node (hhalting : enclosure.Halting) {construct : Construct}
    (hblock : construct ≠ .block) (hblockPass : construct ≠ .blockPass) {site : Site}
    {inner : List Tree} (hsite : site.tree = .node construct.tag inner) {children : List Site}
    (hchildren : ∀ child ∈ children, child.Settles enclosure levels)
    (hblockless : ∀ child ∈ children, child.tree.isBlockless = true) :
    Settles enclosure levels fun engine ↦
      node enclosure.library engine construct site children := by
  have hruns := runs_settle enclosure levels
  cases construct with
  | context => exact settles_look fun _ hseals ↦ hseals.context
  | send | safeSend => exact settles_send hhalting hchildren hblockless _ _
  | blockPass => exact absurd rfl hblockPass
  | constant => exact settles_constant hhalting hchildren _
  | block => exact absurd rfl hblock
  | textLiteral | intLiteral | floatLiteral | parameter =>
    exact settles_childAt_bind 0 fun child _ ↦ settles_pure (within_toValue child)
  | symbolLiteral =>
    exact settles_childAt_bind 0 fun _ _ ↦ hruns.newSymbol _
  | trueLiteral | falseLiteral | nilLiteral => exact settles_value trivial
  | textParts => exact settles_joinParts hchildren
  | symbolParts =>
    exact settles_bind (settles_joinParts hchildren) fun _ _ ↦ hruns.newSymbol _
  | pattern => exact settles_pattern hchildren
  | patternOptions => exact holds_joinLeaves hruns _
  | spread =>
    cases children with
    | nil => exact settles_value trivial
    | cons first rest => exact hchildren first List.mem_cons_self
  | array =>
    exact settles_bind (settles_evaluateList hchildren) fun _ hitems ↦ settles_newList hitems
  | pair =>
    exact settles_twoOf_bind fun name hname stored hstored ↦
      settles_bind (hchildren name hname) fun _ hfirst ↦
        settles_bind (hchildren stored hstored) fun _ hsecond ↦
          settles_compute (.newTuple (within_cons hfirst (within_singleton hsecond)))
  | hash =>
    exact settles_bind (settles_tableEntries hchildren within_nil) fun _ htable ↦
      settles_compute (.newTable htable)
  | inclusiveRange | exclusiveRange => exact settles_range hchildren _
  | localRead =>
    unfold node
    rw [hsite]
    exact holds_readLocal (scoped_settles enclosure levels) inner children
  | globalRead => exact holds_readGlobal (scoped_settles enclosure levels) children
  | localWrite => exact settles_writeLocal hchildren
  | targets => exact settles_bind (hruns.targetNames _ _ _) fun _ hnames ↦ settles_newList hnames
  | destructure =>
    exact settles_twoOf_bind fun targets _ source hsource ↦
      settles_bind (hchildren source hsource) fun _ hitem ↦
        settles_bind ((scoped_settles enclosure levels).destructure targets hitem) fun _ _ ↦
          settles_pure hitem
  | parameters =>
    exact settles_bind (settles_evaluateAll hchildren) fun _ hnames ↦ settles_newList hnames
  | restParameter =>
    cases children with
    | nil => exact settles_value trivial
    | cons first rest => exact settles_value (within_toValue first)
  | soleParameter => exact settles_soleParameter hchildren
  | conjunction =>
    refine settles_twoOf_bind fun left hleft right hright ↦
      settles_bind (hchildren left hleft) fun first hfirst ↦ ?_
    split
    · exact hchildren right hright
    · exact settles_pure hfirst
  | disjunction =>
    refine settles_twoOf_bind fun left hleft right hright ↦
      settles_bind (hchildren left hleft) fun first hfirst ↦ ?_
    split
    · exact settles_pure hfirst
    · exact hchildren right hright
  | conditional =>
    refine settles_threeOf_bind fun condition hcondition positive hpositive negative hnegative ↦
      settles_bind (hchildren condition hcondition) fun answer _ ↦ ?_
    split
    · exact hchildren positive hpositive
    · exact hchildren negative hnegative
  | rescue => exact settles_rescueNode hchildren
  | rescueClause => exact settles_childAt_bind 2 hchildren
  | sequence | keywordSequence =>
    exact settles_inNewFrame _ within_nil (settles_sequence hchildren within_nothing)

theorem settles_visit (tree : Tree) : Settles enclosure levels fun _ ↦ visit tree :=
  settles_of_inStep (fun _ ↦ inStep_visit tree) (fun _ ↦ Outcome.value_ne_exhausted _) fun _ _ ↦ rfl

theorem settles_moveTo (tree : Tree) : Settles enclosure levels fun _ ↦ moveTo tree :=
  settles_of_inStep (fun _ ↦ inStep_moveTo tree) (fun _ ↦ Outcome.value_ne_exhausted _) fun _ _ ↦ rfl

/-- A node that is no construct is refused, or the handler that was added for its tag is called. -/
theorem settles_foreign (hhalting : enclosure.Halting) (tag : String) (site : Site) :
    Settles enclosure levels fun engine ↦ foreign enclosure.library engine tag site := by
  refine settles_look_bind (Within enclosure.realm) (fun _ hseals ↦ hseals.closed.handlers)
    fun handlers hhandlers ↦ ?_
  split
  · exact settles_refuseAt _ _
  · next handler hfound =>
    exact settles_bind (settles_moveTo _) fun _ _ ↦
      settles_callValue hhalting (within_lookup hhandlers tag handler hfound)
        (within_singleton (within_toValue site)) within_none

/-- The evaluation of a blockless tree settles with one level more than those of its children. -/
theorem settles_step (hhalting : enclosure.Halting) {site : Site}
    (hblockless : site.tree.isBlockless = true)
    (hchildren : ∀ tag children, site.tree = .node tag children →
      ∀ child ∈ Site.childrenOf site.mark children, child.Settles enclosure levels) :
    Settles enclosure levels fun engine ↦ step enclosure.library engine site := by
  refine settles_bind (settles_visit _) fun _ _ ↦ ?_
  split
  · exact settles_value trivial
  · exact settles_refuse _
  · next tag children htree =>
    rw [htree, Tree.isBlockless_node] at hblockless
    obtain ⟨hblock, hblockPass, hinner⟩ := hblockless
    split
    · exact settles_foreign hhalting _ _
    · next construct hconstruct =>
      obtain rfl : construct.tag = tag := tag_of_ofTag? hconstruct
      refine settles_bind (settles_moveTo _) fun _ _ ↦
        settles_node hhalting (fun hsame ↦ hblock (congrArg Construct.tag hsame))
          (fun hsame ↦ hblockPass (congrArg Construct.tag hsame)) htree (hchildren _ _ htree)
          fun child hchild ↦ Tree.isBlockless_of_mem hinner (Site.tree_mem_of_childrenOf hchild)

/-- A blockless tree settles, with one level of evaluations for each level of the tree. -/
theorem settles_evaluate (hhalting : enclosure.Halting) {site : Site}
    (hblockless : site.tree.isBlockless = true) : site.Settles enclosure site.tree.height := by
  induction hheight : site.tree.height using Nat.strongRecOn generalizing site with
  | ind height ih =>
    obtain ⟨lower, rfl⟩ : ∃ lower, height = lower + 1 := by
      rw [← hheight]
      cases site.tree <;> exact ⟨_, rfl⟩
    refine Run.settles_evaluate
      (settles_step hhalting hblockless fun tag children htree child hchild ↦ ?_)
    have hmem : child.tree ∈ children := Site.tree_mem_of_childrenOf hchild
    have hlower : child.tree.height ≤ lower := by
      rw [htree, Tree.height] at hheight
      rw [← Nat.succ.inj hheight]
      exact Tree.height_le_of_mem hmem
    rw [htree, Tree.isBlockless_node] at hblockless
    exact (ih _ (Nat.lt_succ_of_le hlower) (Tree.isBlockless_of_mem hblockless.2.2 hmem) rfl).mono hlower

end Eval

/-! ### Sessions -/

namespace Session

/-- What a session takes place in that reaches no more than some cells and closures of a machine. -/
def enclosure (library : Library) (session : Session) (machine : Machine) (cells closures : Nat → Prop) :
    Enclosure where
  realm := machine.extent cells closures
  closures := machine.memory.closures
  library := library
  policy := session.policy.getD Policy.permissive

variable {library : Library} {session : Session} {machine : Machine} {cells closures : Nat → Prop}

/-- The seat of a session that reaches no block is sealed, if the handlers reach none either. -/
theorem Detached.seals_seat (hdetached : session.Detached library machine cells closures)
    (hhandlers : Within (machine.extent cells closures) machine.handlers) :
    (session.enclosure library machine cells closures).Seals (session.seat machine) := by
  have hcoupled := coupled_seats (hdetached.closedOn hhandlers) ⟨rfl, rfl, fun _ _ ↦ rfl, rfl, rfl⟩
    hdetached.confined
  exact
    { closed := ⟨hcoupled.within, hcoupled.bound, hcoupled.newFrames, hcoupled.handled⟩
      context := hcoupled.context
      chains := hcoupled.chains
      policy := session.policy_seat machine
      closures := congrArg Memory.closures (session.memory_seat machine)
      blockless := fun index parameters body chain hindex hclosure ↦ by
        rw [session.memory_seat] at hclosure
        rcases hindex with hold | hnew
        · exact hdetached.blockless index parameters body chain hold hclosure
        · have hnone : machine.memory.closure? index = none := Array.getElem?_eq_none hnew
          rw [hnone] at hclosure
          cases hclosure }

/-- What it is for the evaluation of a site in a session to come to an end: from some depth on it comes
to a value or an error and always to the same one. It comes to it whatever becomes of evaluations that
lie more than the height of the tree deep in each other, a want of depth included, so that there are
none. The session itself comes to it if it may go to that depth. -/
structure Terminates (library : Library) (session : Session) (machine : Machine) (site : Site)
    (bound : Nat) (ended : Outcome Value × Machine) : Prop where
  settled : ended.1 ≠ .exhausted
  evaluates : ∀ further, bound ≤ further →
    (Eval.engine library further).evaluate site (session.seat machine) = ended
  nests : ∀ beyond levels further, site.tree.height ≤ levels → bound ≤ further →
    (Eval.bounded library beyond levels further).evaluate site (session.seat machine) = ended
  runs : machine.evaluator.running = false → bound ≤ depth →
    session.run library site machine = (ended.1, finish ended.2)

theorem within_ofNames {realm : Realm} {bindings : List (String × Value)}
    (hbindings : Within realm bindings) : Within realm (Table.ofNames bindings) := by
  have hfold (total : Table) (htotal : Within realm total) :
      Within realm (bindings.foldl
        (fun total binding ↦ total.insert [.text binding.1] (.ofText binding.1) binding.2)
        total) := by
    induction bindings generalizing total with
    | nil => exact htotal
    | cons binding rest ih =>
      exact ih (within_tail hbindings) _
        (within_insert htotal _ (show Within realm (Value.ofText binding.1) from trivial)
          (within_head hbindings).2)
  exact hfold [] within_nil

end Session

end Treewalk
