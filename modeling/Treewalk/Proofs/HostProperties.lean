import Treewalk.Proofs.MemberComputations

/-!
Properties of host code. A send runs code of the library, and around it code of the interpreter that
finds the member, binds it and calls values; a lookup of a constant reads attributes. What holds of the
steps of such code, of calls, and of all methods, functions and classes of a library
(`Library.Carries`) holds of reading, calling, sending and looking up (`Library.Carries.read`, `apply`,
`invoke`, `resolve`), each function of dispatch being opened once. As in evaluation, a property may be
about things within a realm. It may also hold only up to a number of arguments: nothing calls a value
with more arguments than it was given.
-/

set_option autoImplicit false
set_option relaxedAutoImplicit false

namespace Treewalk

variable {realm : Realm}

/-! ### Attributes -/

/-- A value found under a name is one of those listed. -/
theorem within_lookup {entries : List (String × Value)} (hentries : Within realm entries)
    (name : String) : Within realm (entries.lookup name) := by
  induction entries with
  | nil => exact within_none
  | cons entry rest ih =>
    obtain ⟨own, item⟩ := entry
    rw [List.lookup_cons]
    split
    · exact within_some.mpr (within_head hentries).2
    · exact ih (within_tail hentries)

/-- Only blocks have parameter names. -/
theorem Member.eq_closure_of_attributeOf {memory : Memory} {receiver : Value} {name : String}
    {index : Nat} (hfound : attributeOf memory receiver name = .parameters index) :
    receiver = .closure index := by
  have hfield (name : String) (hfound : fieldOf memory receiver name = .parameters index) :
      receiver = .closure index := by
    unfold fieldOf integerField at hfound
    repeat' split at hfound
    all_goals first | exact congrArg Value.closure (Attribute.parameters.inj hfound) | cases hfound
  unfold attributeOf at hfound
  extract_lets kindName at hfound
  split at hfound
  · cases hfound
  · split at hfound
    · cases hfound
    · rcases orInner_cases memory receiver name (fieldOf memory receiver name) with heq | heq
      · exact hfield name (heq.symm.trans hfound)
      · cases heq.symm.trans hfound

namespace Library

theorem within_objectAttribute {hostClass : HostClass} (hshared : Within realm hostClass.shared)
    {fields : List (String × Value)} (hfields : Within realm fields) {receiver : Value}
    (hreceiver : Within realm receiver) (name : String) :
    Within realm (objectAttribute hostClass fields receiver name) := by
  unfold objectAttribute
  split
  · exact trivial
  · split
    · next found hfound => exact within_attribute (within_lookup hfields name found hfound)
    · split
      · next found hfound => exact within_attribute (within_lookup hshared name found hfound)
      · split
        · exact hreceiver
        · exact trivial

theorem within_attributeOf {library : Library}
    (hshared : ∀ hostClass ∈ library.classes, Within realm hostClass.shared) {memory : Memory}
    (hmemory : Within realm memory) {receiver : Value} (hreceiver : Within realm receiver)
    (name : String) :
    Within realm (library.attributeOf memory receiver name) := by
  have hplain := Member.within_attributeOf memory hreceiver name
  unfold attributeOf
  split
  · split
    · exact hplain
    · next hostClass hfound =>
      have hclass := hshared hostClass (List.mem_of_find?_eq_some hfound)
      split
      · next found hentry =>
        exact within_attribute (within_lookup hclass name found hentry)
      · split
        · exact within_attribute (show Within realm (Value.method _ _ _) from trivial)
        · exact hplain
  · split
    · next className title fields hobject =>
      have hfields : Within realm fields :=
        within_cell? hmemory hreceiver (.object className title fields) hobject
      split
      · exact hplain
      · next hostClass hfound =>
        have hattribute :=
          within_objectAttribute (hshared hostClass (List.mem_of_find?_eq_some hfound)) hfields
            hreceiver name
        split
        · exact hplain
        · exact hattribute
    · exact hplain

theorem eq_closure_of_attributeOf {library : Library} {memory : Memory} {receiver : Value}
    {name : String} {index : Nat}
    (hfound : library.attributeOf memory receiver name = .parameters index) :
    receiver = .closure index := by
  have hobject {hostClass : HostClass} {fields : List (String × Value)} :
      objectAttribute hostClass fields receiver name ≠ .parameters index := by
    unfold objectAttribute
    repeat' split
    all_goals exact nofun
  unfold attributeOf at hfound
  split at hfound
  · split at hfound
    · exact Member.eq_closure_of_attributeOf hfound
    · repeat' split at hfound
      · cases hfound
      · cases hfound
      · exact Member.eq_closure_of_attributeOf hfound
  · split at hfound
    · split at hfound
      · exact Member.eq_closure_of_attributeOf hfound
      · split at hfound
        · exact Member.eq_closure_of_attributeOf hfound
        · exact absurd hfound hobject
    · exact Member.eq_closure_of_attributeOf hfound

/-! ### Sends and lookups -/

/-- A property of host code that can be told from how it is put together: what does nothing has it, what
goes on with it has it, and all host code of the library that is given things of the realm. Of calls of
closures it is asked for only when there are no more than so many arguments. -/
structure Carries (library : Library) (realm : Realm) (size : Nat)
    (Holds : ∀ {α : Type} [Confinable α], Action α → Prop) : Prop where
  done {α : Type} [Confinable α] {result : α} (hresult : Within realm result) : Holds (.done result)
  fail {α : Type} [Confinable α] (failure : Failure) : Holds (.fail failure : Action α)
  inspect {α : Type} [Confinable α] {next : Memory → Action α}
    (hnext : ∀ memory, Within realm memory → Holds (next memory)) : Holds (.inspect next)
  compute {α : Type} [Confinable α] {computation : Compute α}
    (htame : computation.Tame realm fun _ ↦ False) : Holds (Action.compute computation)
  bind {α β : Type} [Confinable α] [Confinable β] {action : Action α} {after : α → Action β}
    (haction : Holds action) (hafter : ∀ result, Within realm result → Holds (after result)) :
    Holds (action.bind after)
  parameters {index : Nat} (hindex : realm.closure index) : Holds (.parameters index .done)
  call {index : Nat} (hindex : realm.closure index) {arguments : List Value}
    (harguments : Within realm arguments) (hsize : arguments.length ≤ size) {block : Option Value}
    (hblock : Within realm block) : Holds (.call (.closure index) arguments block .done)
  reach {receiver : Value} (hreceiver : Within realm receiver) (name : String)
    {arguments : Option (List Value)} (harguments : Within realm arguments) :
    Holds (.reach receiver name arguments .done)
  shared : ∀ hostClass ∈ library.classes, Within realm hostClass.shared
  methods : ∀ hostClass ∈ library.classes, ∀ method ∈ hostClass.methods, ∀ self arguments block,
    Within realm self → Within realm arguments → Within realm block →
      Holds (method.body self arguments block)
  constructs : ∀ hostClass ∈ library.classes, ∀ arguments block, Within realm arguments →
    Within realm block → Holds (hostClass.construct arguments block)
  functions : ∀ function ∈ library.functions, ∀ arguments block, Within realm arguments →
    Within realm block → Holds (function.body arguments block)

namespace Carries

variable {library : Library} {realm : Realm} {size : Nat}
  {Holds : ∀ {α : Type} [Confinable α], Action α → Prop}
  (hcarries : library.Carries realm size Holds)

include hcarries

theorem refuse {α : Type} [Confinable α] (cause : Cause) : Holds (Action.refuse cause : Action α) :=
  hcarries.fail _

/-- What is asked of the interpreter itself may be gone on with. -/
theorem reachThen {receiver : Value} (hreceiver : Within realm receiver) (name : String)
    {arguments : Option (List Value)} (harguments : Within realm arguments)
    {next : Option Value → Action Value}
    (hnext : ∀ answer, Within realm answer → Holds (next answer)) :
    Holds (.reach receiver name arguments next) :=
  hcarries.bind (hcarries.reach hreceiver name harguments) hnext

section

variable {arguments : List Value} (harguments : Within realm arguments)
  {block : Option Value} (hblock : Within realm block)

include harguments in
theorem applyInner {receiver : Value} (hreceiver : Within realm receiver) (name : String) :
    Holds (Library.applyInner receiver name arguments block) := by
  unfold Library.applyInner
  split
  · exact hcarries.refuse _
  · refine hcarries.reachThen hreceiver name (within_some.mpr harguments) fun answer hanswer ↦ ?_
    split
    · exact hcarries.done (within_some.mp hanswer)
    · exact hcarries.refuse _

include harguments in
theorem operate (operator : Operator) {receiver : Value} (hreceiver : Within realm receiver) :
    Holds (Library.operate operator receiver arguments) := by
  unfold Library.operate
  split
  · refine hcarries.reachThen hreceiver _ (within_some.mpr harguments) fun answer hanswer ↦ ?_
    split
    · exact hcarries.done (within_some.mp hanswer)
    · exact hcarries.compute (Operator.tame_apply _ hreceiver harguments)
  · exact hcarries.compute (Operator.tame_apply _ hreceiver harguments)

include harguments hblock

theorem applyMethod {hostClass : HostClass} (hclass : hostClass ∈ library.classes)
    (name : String) {self : Value} (hself : Within realm self) :
    Holds (Library.applyMethod hostClass name self arguments block) := by
  unfold Library.applyMethod
  split
  · next method hfound =>
    exact hcarries.methods hostClass hclass method (List.mem_of_find?_eq_some hfound) self _ _
      hself harguments hblock
  · exact hcarries.refuse _

theorem applyBound {receiver : Value} (hreceiver : Within realm receiver) (name : String) :
    Holds (library.applyBound receiver name arguments block) := by
  refine hcarries.inspect fun memory _ ↦ ?_
  split
  · split
    · next hostClass hfound =>
      exact hcarries.applyMethod harguments hblock (List.mem_of_find?_eq_some hfound) _ hreceiver
    · exact hcarries.refuse _
  · exact hcarries.compute (Member.tame_runWith hreceiver name harguments hblock)

variable (hsize : arguments.length ≤ size)

include hsize

theorem applyPlain (className name : String) {self : Value} (hself : Within realm self) :
    Holds (Library.applyPlain className name self arguments block) := by
  refine hcarries.inspect fun memory _ ↦ ?_
  split
  · exact hcarries.refuse _
  · split
    · exact hcarries.call hself harguments hsize hblock
    · exact hcarries.compute (Member.tame_runWith hself name harguments hblock)

theorem apply {callee : Value} (hcallee : Within realm callee) :
    Holds (library.apply callee arguments block) := by
  unfold Library.apply
  split
  · exact hcarries.call hcallee harguments hsize hblock
  · split
    · next function hfound =>
      exact hcarries.functions function (List.mem_of_find?_eq_some hfound) _ _ harguments hblock
    · exact hcarries.refuse _
  · split
    · next hostClass hfound =>
      exact hcarries.constructs hostClass (List.mem_of_find?_eq_some hfound) _ _ harguments hblock
    · exact hcarries.compute (Builder.tame_buildWith _ harguments hblock)
  · split
    · next hostClass self rest hfound =>
      exact hcarries.applyMethod (within_tail harguments) hblock (List.mem_of_find?_eq_some hfound) _
        (within_head harguments)
    · exact hcarries.applyPlain (within_tail harguments) hblock (Nat.le_of_succ_le hsize) _ _
        (within_head harguments)
    · exact hcarries.refuse _
  · exact hcarries.call hcallee harguments hsize hblock
  · next index part name mark =>
    have hreceiver : Within realm (Value.inner index part) := hcallee
    exact hcarries.applyInner harguments hreceiver _
  · next receiver name mark _ _ _ =>
    have hreceiver : Within realm receiver := hcallee
    exact hcarries.applyBound harguments hblock hreceiver _
  · exact hcarries.refuse _

end

theorem read {receiver : Value} (hreceiver : Within realm receiver) (name : String) :
    Holds (library.read receiver name) := by
  refine hcarries.inspect fun memory hmemory ↦ ?_
  have hattribute := within_attributeOf hcarries.shared hmemory hreceiver name
  rcases hfound : library.attributeOf memory receiver name with
    _ | found | number | ⟨owner, own⟩ | failure | index | _
  · exact hcarries.done within_none
  · rw [hfound] at hattribute
    exact hcarries.done (within_some.mpr hattribute)
  · exact hcarries.bind (hcarries.compute (.elementary (.newNumber number))) fun _ hitem ↦
      hcarries.done (within_some.mpr hitem)
  · rw [hfound] at hattribute
    exact hcarries.bind (hcarries.compute (.elementary (.newMethod hattribute own))) fun _ hitem ↦
      hcarries.done (within_some.mpr hitem)
  · exact hcarries.fail failure
  · obtain rfl := Library.eq_closure_of_attributeOf hfound
    exact hcarries.parameters hreceiver
  · exact hcarries.reach hreceiver name within_none

theorem hasAttribute {receiver : Value} (hreceiver : Within realm receiver) (name : String) :
    Holds (library.hasAttribute receiver name) :=
  hcarries.bind (hcarries.read hreceiver name) fun _ _ ↦ hcarries.done trivial

theorem respondsTo {receiver : Value} (hreceiver : Within realm receiver) (name : Value) :
    Holds (library.respondsTo receiver name) := by
  refine hcarries.bind (hcarries.compute (.elementary (.key name))) fun _ _ ↦ ?_
  split
  · split
    · exact hcarries.done trivial
    · exact hcarries.hasAttribute hreceiver _
  · exact hcarries.bind (hcarries.compute (.elementary (.plain name))) fun _ _ ↦
      hcarries.hasAttribute hreceiver _

/-- Looking up a constant calls nothing. -/
theorem resolve {owner : Value} (howner : Within realm owner) (name : Site) :
    Holds (library.resolve owner name) := by
  refine hcarries.inspect fun memory hmemory ↦ ?_
  split
  · next entries removals hcell =>
    have hentries : Within realm entries :=
      within_cell? hmemory howner (.table entries removals) hcell
    split
    · next item hfound => exact hcarries.done (within_find? hentries name.key item hfound)
    · exact hcarries.refuse _
  · split
    · exact hcarries.refuse _
    · refine hcarries.bind (hcarries.read howner _) fun found hfound ↦ ?_
      split
      · exact hcarries.done (within_some.mp hfound)
      · exact hcarries.refuse _

section

variable {arguments : List Value} (harguments : Within realm arguments)
  {block : Option Value} (hblock : Within realm block) (hsize : arguments.length ≤ size)

include harguments hblock hsize

theorem universal (member : Universal) {receiver : Value} (hreceiver : Within realm receiver) :
    Holds (library.universal member receiver arguments block) := by
  unfold Library.universal
  split
  · exact hcarries.done trivial
  · exact hcarries.done hreceiver
  · exact hcarries.done trivial
  · exact hcarries.respondsTo hreceiver _
  · split
    · exact hcarries.apply harguments hblock hsize hreceiver
    · exact hcarries.inspect fun _ _ ↦ hcarries.refuse _
  · exact hcarries.refuse _

theorem sendAttribute (receiver : Value) (name : String) {found : Value}
    (hfound : Within realm found) :
    Holds (library.sendAttribute receiver name found arguments block) := by
  unfold Library.sendAttribute
  split
  · exact hcarries.apply harguments hblock hsize hfound
  · split
    · exact hcarries.done hfound
    · exact hcarries.inspect fun _ _ ↦ hcarries.refuse _

theorem sendUniversal {receiver : Value} (hreceiver : Within realm receiver)
    (name : String) : Holds (library.sendUniversal receiver name arguments block) := by
  unfold Library.sendUniversal
  split
  · exact hcarries.universal harguments hblock hsize _ hreceiver
  · exact hcarries.inspect fun _ _ ↦ hcarries.refuse _

/-- Sending a member calls a value with no more arguments than it was given. -/
theorem invoke {receiver : Value} (hreceiver : Within realm receiver) (member : Tree) :
    Holds (Eval.invoke library receiver member arguments block) := by
  unfold Eval.invoke
  split
  · unfold Library.invoke
    split
    · exact hcarries.operate harguments _ hreceiver
    · refine hcarries.bind (hcarries.read hreceiver _) fun found hfound ↦ ?_
      split
      · exact hcarries.sendAttribute harguments hblock hsize _ _ (within_some.mp hfound)
      · exact hcarries.sendUniversal harguments hblock hsize hreceiver _
  · exact hcarries.refuse _

end

end Carries

end Library

end Treewalk
