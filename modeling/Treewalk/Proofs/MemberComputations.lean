import Treewalk.Proofs.TameComputations

/-!
What operators, members and classes of plain values do is tame. A receiver and arguments within a
realm are answered with a value within it, and what a member changes is the cell of its receiver,
which it has looked at before, or a table that it fills right after it has made it. There is one
lemma for each function, in the order of the modules that define them, up to `Operator.tame_apply`,
`Member.tame_runWith` and `Builder.tame_buildWith`.
-/

set_option autoImplicit false
set_option relaxedAutoImplicit false

namespace Treewalk

open Compute

variable {realm : Realm} {free : Value → Prop}

/-! ### Formatting of texts -/

namespace Format

instance : Confinable Arguments where
  Within realm arguments := Within realm arguments.rest
  within_of_whole whole arguments := within_of_whole whole arguments.rest

theorem tame_directive (letter : Char) (argument : Value) :
    Tame realm free (directive letter argument) := by
  unfold directive
  split
  · exact .elementary (.plain argument)
  · split
    · exact .bind (.elementary (.view argument)) fun _ _ ↦ .elementary (.ofPrinted _)
    · split
      · split
        · exact .bind (.ofExcept fun _ _ ↦ trivial) fun _ _ ↦ .elementary (.ofPrinted _)
        · exact .refuse _
      · exact .refuse _

theorem tame_byteDirective (letter : Char) (argument : Value) :
    Tame realm free (byteDirective letter argument) := by
  unfold byteDirective
  split
  · refine .bind .get fun _ _ ↦ ?_
    split
    · exact .pure trivial
    · exact .refuse _
  · split
    · exact tame_directive letter argument
    · exact .refuse _

theorem tame_run {directive : Char → Value → Compute String}
    (hdirective : ∀ letter argument, Tame realm free (directive letter argument)) (text : List Char)
    (arguments : Arguments) : Tame realm free (run directive text arguments) := by
  fun_induction run directive text arguments with
  | case1 arguments hrest => exact .pure within_nil
  | case2 | case3 | case5 => exact .refuse _
  | case4 rest arguments ih => exact .bind ih fun _ _ ↦ .pure fun _ _ ↦ trivial
  | case6 letter rest arguments hletter argument remaining hrest ih =>
    exact .bind (hdirective _ _) fun _ _ ↦
      .bind ih fun _ _ ↦ .pure fun _ _ ↦ trivial
  | case7 c rest arguments hlast hmore ih =>
    exact .bind ih fun _ _ ↦ .pure fun _ _ ↦ trivial

theorem tame_arguments {value : Value} (hvalue : Within realm value) :
    Tame realm free (arguments value) := by
  unfold arguments
  split
  · exact .pure (within_tuple.mp hvalue)
  · exact .pure (within_singleton hvalue)
  · exact .pure (within_singleton hvalue)
  · exact .pure (within_singleton hvalue)
  · refine .bind (.cell? hvalue) fun _ _ ↦ ?_
    split <;> exact .pure (within_singleton hvalue)

theorem tame_byteArguments {value : Value} (hvalue : Within realm value) :
    Tame realm free (byteArguments value) :=
  .bind (tame_arguments hvalue) fun _ hgiven ↦
    .bind .get fun _ _ ↦ .pure hgiven

end Format

/-! ### Operators -/

namespace Operator

theorem tame_arithmetic (operation : Number → Number → Except Cause Number) (a b : Value) :
    Tame realm free (arithmetic operation a b) := by
  unfold arithmetic
  split
  · exact .bind (.ofExcept fun _ _ ↦ trivial) fun _ _ ↦ .elementary (.newNumber _)
  · exact .refuse _

theorem tame_joinTexts (a b : Value) (s t : String) :
    Tame realm free (joinTexts a b s t) := by
  unfold joinTexts
  split
  · exact .elementary (.asText _)
  · split
    · exact .elementary (.asText _)
    · exact .elementary (.newText _)

theorem tame_joinBytes {a b : Value} (ha : Within realm a) (hb : Within realm b)
    (data others : List UInt8) : Tame realm free (joinBytes a b data others) := by
  unfold joinBytes
  split
  · exact .pure hb
  · exact .pure ha
  · exact .elementary (.newBytes _)

theorem tame_onBytes (value : Value) {use : List UInt8 → Compute Value}
    (huse : ∀ data, Tame realm free (use data)) : Tame realm free (onBytes value use) := by
  refine .bind .get fun _ _ ↦ ?_
  split
  · exact huse _
  · exact .refuse _

theorem tame_joinCells {a b : Value} (ha : Within realm a) (hb : Within realm b) :
    Tame realm free (joinCells a b) := by
  refine .bind (.cell? ha) fun found hfound ↦ ?_
  refine .bind (.cell? hb) fun other hother ↦ ?_
  split
  · exact .elementary (.newList (within_append (hfound _ rfl) (hother _ rfl)))
  · exact .elementary (.allocate (within_append (hfound _ rfl) (hother _ rfl)))
  · exact tame_onBytes _ fun _ ↦ .elementary (.allocate trivial)
  · exact .refuse _

theorem tame_joinSequences {a b : Value} (ha : Within realm a) (hb : Within realm b) :
    Tame realm free (joinSequences a b) := by
  unfold joinSequences
  split
  · exact .pure hb
  · exact .pure ha
  · exact .elementary (.newTuple (within_append (within_tuple.mp ha) (within_tuple.mp hb)))
  · exact tame_onBytes _ (tame_joinBytes ha hb _)
  · exact tame_joinCells ha hb
  · exact tame_arithmetic _ _ _

theorem tame_join {a b : Value} (ha : Within realm a) (hb : Within realm b) :
    Tame realm free (join a b) := by
  unfold join
  split
  · exact tame_joinTexts _ _ _ _
  · exact tame_joinSequences ha hb

theorem within_repeatList {α : Type} [Confinable α] (count : Int) {items : List α}
    (hitems : Within realm items) : Within realm (repeatList count items) := by
  unfold repeatList
  split
  · exact within_nil
  · intro item hitem
    obtain ⟨copy, hcopy, hmem⟩ := List.mem_flatten.mp hitem
    obtain rfl := List.eq_of_mem_replicate hcopy
    exact hitems item hmem

theorem tame_checkedCount (count : Int) : Tame realm free (checkedCount count) := by
  unfold checkedCount
  split
  · exact .pure trivial
  · exact .refuse _

theorem tame_repeatAtoms {α : Type} [Plain α] (count : Int) (atoms : List α) :
    Tame realm free (repeatAtoms count atoms) :=
  .bind (tame_checkedCount _) fun _ _ ↦ .pure fun _ _ ↦ trivial

theorem tame_repeatText (value : Value) (s : String) (count : Int) :
    Tame realm free (repeatText value s count) := by
  unfold repeatText
  split
  · exact .elementary (.asText _)
  · exact .bind (tame_repeatAtoms _ _) fun _ _ ↦ .elementary (.newText _)

theorem tame_repeated {value : Value} (hvalue : Within realm value) (count : Int) :
    Tame realm free (repeated value count) := by
  unfold repeated
  split
  · exact .bind (tame_checkedCount _) fun _ _ ↦ tame_repeatText _ _ _
  · exact .bind (tame_checkedCount _) fun _ _ ↦ tame_repeatText _ _ _
  · refine .bind (tame_checkedCount _) fun times _ ↦ ?_
    split
    · exact .pure hvalue
    · exact .elementary (.newTuple (within_repeatList _ (within_tuple.mp hvalue)))
  · refine .bind (tame_checkedCount _) fun times _ ↦ ?_
    split
    · exact .pure hvalue
    · exact .bind (tame_repeatAtoms _ _) fun _ _ ↦ .elementary (.newBytes _)
  · refine .bind (.cell? hvalue) fun found hfound ↦ ?_
    split
    · exact .bind (tame_checkedCount _) fun _ _ ↦
        .elementary (.newList (within_repeatList _ (hfound _ rfl)))
    · refine .bind (tame_checkedCount _) fun _ _ ↦ .elementary (.allocate ?_)
      exact within_repeatList (α := Value) _ (hfound _ rfl)
    · exact .bind (tame_checkedCount _) fun _ _ ↦ .elementary (.allocate trivial)
    · exact .refuse _

theorem tame_product {a b : Value} (ha : Within realm a) (hb : Within realm b) :
    Tame realm free (product a b) := by
  unfold product
  split
  · exact tame_arithmetic _ _ _
  · unfold repeatedEither
    split
    · exact tame_repeated ha _
    · exact tame_repeated hb _
    · exact .refuse _

theorem tame_formatOnly (s result : String) (argument : Value) :
    Tame realm free (formatOnly s result argument) := by
  unfold formatOnly
  split
  · exact .elementary (.newPart _)
  · split
    · exact .elementary (.asText _)
    · exact .elementary (.newText _)

theorem tame_format {value : Value} (hvalue : Within realm value) (s : String)
    (arguments : Format.Arguments) : Tame realm free (format value s arguments) := by
  refine .bind (Format.tame_run Format.tame_directive _ _) fun _ _ ↦ ?_
  dsimp only
  split
  · exact .pure hvalue
  · split
    · split
      · exact tame_formatOnly _ _ _
      · exact .elementary (.newPart _)
    · exact .elementary (.newPart _)

theorem tame_formatBytes (value : Value) (data : List UInt8) (arguments : Format.Arguments) :
    Tame realm free (formatBytes value data arguments) := by
  refine .bind (Format.tame_run Format.tame_byteDirective _ _) fun _ _ ↦ ?_
  dsimp only
  split
  · exact .elementary (.newBytePart _)
  · exact .elementary (.allocate trivial)

theorem tame_rest {a b : Value} (ha : Within realm a) (hb : Within realm b) :
    Tame realm free (rest a b) := by
  unfold rest
  split
  · exact .bind (Format.tame_arguments hb) fun _ _ ↦ tame_format ha _ _
  · refine .bind .get fun _ _ ↦ ?_
    split
    · exact .bind (Format.tame_byteArguments hb) fun _ _ ↦ tame_formatBytes _ _ _
    · exact tame_arithmetic _ _ _

theorem tame_onIntegers (operation : Int → Int → Except Cause Int) (a b : Value) :
    Tame realm free (onIntegers operation a b) := by
  unfold onIntegers
  split
  · exact .bind (.ofExcept fun _ _ ↦ trivial) fun _ _ ↦ .elementary (.newInt _)
  · exact .refuse _

theorem tame_bits (operation : Bool → Bool → Bool) (a b : Value) :
    Tame realm free (bits operation a b) := by
  unfold bits
  split
  · exact .pure trivial
  · exact tame_onIntegers _ _ _

theorem tame_union {a b : Value} (ha : Within realm a) (hb : Within realm b) :
    Tame realm free (union a b) := by
  refine .bind (.cell? ha) fun found hfound ↦ ?_
  refine .bind (.cell? hb) fun other hother ↦ ?_
  split
  · exact .elementary (.newTable (within_merge (hfound _ rfl) (hother _ rfl)))
  · exact tame_bits _ _ _

theorem tame_areEqual (a b : Value) : Tame realm free (areEqual a b) :=
  .bind .get fun _ _ ↦ .pure trivial

theorem tame_ordered (relation : Relation) (a b : Value) :
    Tame realm free (ordered relation a b) := by
  refine .bind .get fun _ _ ↦ ?_
  split
  · exact .pure trivial
  · exact .refuse _

theorem tame_spaceship (a b : Value) : Tame realm free (spaceship a b) := by
  refine .bind .get fun _ _ ↦ ?_
  dsimp only
  split <;> exact .pure trivial

theorem tame_placeAt (length : Nat) (index : Value) :
    Tame realm free (placeAt length index) := by
  unfold placeAt
  split
  · exact .refuse _
  · split
    · exact .pure trivial
    · exact .refuse _

theorem tame_itemAt {α : Type} [Confinable α] {items : List α} (hitems : Within realm items)
    (index : Value) : Tame realm free (itemAt items index) := by
  refine .bind (tame_placeAt _ _) fun place _ ↦ ?_
  split
  · next item hitem => exact .pure (within_getElem? hitems place item hitem)
  · exact .refuse _

theorem tame_characterAt (s : String) (index : Value) :
    Tame realm free (characterAt s index) :=
  .bind (tame_itemAt (fun _ _ ↦ trivial) _) fun _ _ ↦ .elementary (.newPart _)

theorem tame_lookUp {receiver : Value} (hreceiver : Within realm receiver) (key : Value) :
    Tame realm free (lookUp receiver key) := by
  unfold lookUp
  split
  · exact tame_characterAt _ _
  · exact tame_characterAt _ _
  · exact tame_itemAt (within_tuple.mp hreceiver) _
  · exact tame_itemAt (within_byteItems _) _
  · exact .bind (tame_placeAt _ _) fun _ _ ↦ .elementary (.newInt _)
  · exact tame_itemAt (within_childrenOf _ _) _
  · refine .bind (.cell? hreceiver) fun found hfound ↦ ?_
    split
    · exact tame_itemAt (hfound _ rfl) _
    · exact tame_itemAt (hfound _ rfl) _
    · exact tame_itemAt (within_byteItems _) _
    · refine .bind (.elementary (.key _)) fun key _ ↦ ?_
      split
      · next item hitem => exact .pure (within_find? (hfound _ rfl) key item hitem)
      · exact .refuse _
    · exact .refuse _

theorem tame_replaceAt {α : Type} [Confinable α] {items : List α} (hitems : Within realm items)
    (index : Value) {item : α} (hitem : Within realm item) :
    Tame realm free (replaceAt items index item) := by
  refine .bind (tame_placeAt _ _) fun place _ ↦ .pure fun other hother ↦ ?_
  rcases List.mem_or_eq_of_mem_set hother with hold | rfl
  · exact hitems other hold
  · exact hitem

theorem tame_byte (value : Value) : Tame realm free (byte value) := by
  unfold byte
  split
  · exact .refuse _
  · split
    · exact .pure trivial
    · exact .refuse _

theorem tame_isOrdered (receiver : Value) : Tame realm free (isOrdered receiver) := by
  unfold isOrdered
  split
  all_goals first
    | exact .pure trivial
    | refine .bind .get fun _ _ ↦ ?_
  split <;> exact .pure trivial

theorem tame_refusePut (receiver key : Value) : Tame realm free (refusePut receiver key) := by
  refine .bind (tame_isOrdered _) fun _ _ ↦ ?_
  split
  · exact .refuse _
  · exact .refuse _

theorem tame_put {receiver key value : Value} (hreceiver : Within realm receiver)
    (hkey : Within realm key) (hvalue : Within realm value) :
    Tame realm free (put receiver key value) := by
  refine .examine hreceiver fun found hfound ↦ ?_
  split
  · exact .bind (tame_replaceAt (hfound _ rfl) _ hvalue) fun _ hitems ↦
      .store (Or.inr ⟨rfl, _, rfl, rfl⟩) hreceiver hitems rfl
  · exact .bind (tame_replaceAt (hfound _ rfl) _ hvalue) fun _ hitems ↦
      .store (Or.inr ⟨rfl, _, rfl, rfl⟩) hreceiver hitems rfl
  · exact .bind (.elementary (.key _)) fun _ _ ↦
      .store (Or.inr ⟨rfl, _, rfl, rfl⟩) hreceiver (within_insert (hfound _ rfl) _ hkey hvalue) rfl
  · split
    · exact .refuse _
    · split
      · exact .refuse _
      · refine .bind (tame_byte _) fun _ _ ↦ ?_
        exact .bind (tame_replaceAt (fun _ _ ↦ trivial) _ trivial) fun _ _ ↦
          .store (Or.inr ⟨rfl, _, rfl, rfl⟩) hreceiver trivial rfl
  · exact tame_refusePut _ _

theorem tame_oneKey {keys : List Value} (hkeys : Within realm keys) :
    Tame realm free (oneKey keys) := by
  unfold oneKey
  split
  · exact .pure (within_head hkeys)
  · exact .elementary (.newTuple hkeys)

theorem tame_binary (operator : Operator) {a b : Value} (ha : Within realm a)
    (hb : Within realm b) : Tame realm free (binary operator a b) := by
  cases operator with
  | add => exact tame_join ha hb
  | subtract | divide | power => exact tame_arithmetic _ _ _
  | multiply => exact tame_product ha hb
  | remainder => exact tame_rest ha hb
  | equal | notEqual => exact .bind (tame_areEqual _ _) fun _ _ ↦ .pure trivial
  | less | atMost | greater | atLeast =>
    exact .bind (tame_ordered _ _ _) fun _ _ ↦ .pure trivial
  | compare => exact tame_spaceship _ _
  | shiftLeft | shiftRight => exact tame_onIntegers _ _ _
  | bitAnd | bitXor => exact tame_bits _ _ _
  | bitOr => exact tame_union ha hb
  | negate | affirm | invert | logicalNot | index | indexSet => exact .refuse _

theorem tame_affirmed {value : Value} (hvalue : Within realm value) :
    Tame realm free (affirmed value) := by
  unfold affirmed
  split
  · exact .pure hvalue
  · exact .pure hvalue
  · exact .elementary (.newInt _)
  · exact .refuse _

theorem tame_unary (operator : Operator) {a : Value} (ha : Within realm a) :
    Tame realm free (unary operator a) := by
  unfold unary
  split
  · split
    · exact .elementary (.newNumber _)
    · exact .refuse _
  · exact tame_affirmed ha
  · split
    · exact .elementary (.newInt _)
    · exact .refuse _
  · exact .pure trivial
  · exact .refuse _

theorem tame_plainly (operator : Operator) {receiver : Value} (hreceiver : Within realm receiver)
    {arguments : List Value} (harguments : Within realm arguments) :
    Tame realm free (operator.plainly receiver arguments) := by
  unfold plainly
  split
  · exact tame_unary _ hreceiver
  · exact tame_binary _ hreceiver (within_head harguments)
  · exact .refuse _

theorem tame_apply (operator : Operator) {receiver : Value} (hreceiver : Within realm receiver)
    {arguments : List Value} (harguments : Within realm arguments) :
    Tame realm free (operator.apply receiver arguments) := by
  unfold apply
  split
  · exact .bind (tame_oneKey harguments) fun _ _ ↦ tame_lookUp hreceiver _
  · split
    · exact .refuse _
    · next value hlast =>
      have hvalue : Within realm value := harguments value (List.mem_of_getLast? hlast)
      have hkeys : Within realm arguments.dropLast :=
        within_of_subset (List.dropLast_subset arguments) harguments
      refine .bind (tame_oneKey hkeys) fun key hkey ↦ ?_
      exact .bind (tame_put hreceiver hkey hvalue) fun _ _ ↦ .pure hvalue
  · exact tame_plainly _ hreceiver harguments

end Operator

/-! ### Arguments -/

namespace Member

theorem tame_textArgument (value : Value) : Tame realm free (textArgument value) := by
  unfold textArgument
  split
  · exact .pure fun _ _ ↦ trivial
  · exact .refuse _

theorem tame_integerArgument (value : Value) : Tame realm free (integerArgument value) := by
  unfold integerArgument
  split
  · exact .pure trivial
  · exact .refuse _

theorem tame_countArgument (value : Value) : Tame realm free (countArgument value) := by
  refine .bind (tame_integerArgument _) fun _ _ ↦ ?_
  split
  · exact .pure trivial
  · exact .refuse _

theorem tame_givenBound (length : Nat) (value : Value) :
    Tame realm free (givenBound length value) := by
  refine .bind (tame_integerArgument _) fun _ _ ↦ ?_
  split <;> exact .pure trivial

theorem tame_bound (length missing : Nat) (argument : Option Value) :
    Tame realm free (bound length missing argument) := by
  unfold bound
  split
  · exact .pure trivial
  · exact .pure trivial
  · exact tame_givenBound _ _

theorem tame_slice {α : Type} [Confinable α] {items : List α} (hitems : Within realm items)
    (bounds : List Value) : Tame realm free (slice items bounds) := by
  unfold slice
  split
  · exact .refuse _
  · refine .bind (tame_bound _ _ _) fun start _ ↦ ?_
    refine .bind (tame_bound _ _ _) fun stop _ ↦ ?_
    split
    · exact .pure within_none
    · refine .pure (within_some.mpr ⟨trivial, within_of_subset ?_ hitems⟩)
      exact List.Subset.trans (List.drop_subset _ _) (List.take_subset _ _)

theorem tame_firstPlace {α : Type} [Plain α] [BEq α] (s pattern : List α)
    (bounds : List Value) : Tame realm free (firstPlace s pattern bounds) := by
  refine .bind (tame_slice (fun _ _ ↦ trivial) _) fun _ _ ↦ ?_
  split <;> exact .pure fun _ _ ↦ trivial

theorem tame_placeOr {missing : Compute Value} (hmissing : Tame realm free missing)
    (place : Option Nat) : Tame realm free (placeOr missing place) := by
  unfold placeOr
  split
  · exact .elementary (.newCount _)
  · exact hmissing

theorem tame_firstPattern {α : Type} [Plain α] {argument : Value → Compute (List α)}
    (hargument : ∀ value, Tame realm free (argument value)) (test : List α → Bool)
    (patterns : List Value) : Tame realm free (firstPattern argument test patterns) := by
  induction patterns with
  | nil => exact .pure trivial
  | cons pattern rest ih =>
    refine .bind (hargument pattern) fun _ _ ↦ ?_
    split
    · exact .pure trivial
    · exact ih

theorem tame_anyPattern {α : Type} [Plain α] {argument : Value → Compute (List α)}
    (hargument : ∀ value, Tame realm free (argument value)) (test : List α → List α → Bool)
    (s : List α) (pattern : Value) (bounds : List Value) :
    Tame realm free (anyPattern argument test s pattern bounds) := by
  refine .bind (tame_slice (fun _ _ ↦ trivial) _) fun _ _ ↦ ?_
  dsimp only
  split <;>
    exact .bind (tame_firstPattern hargument _ _) fun _ _ ↦ .pure trivial

theorem tame_bytesArgument (value : Value) : Tame realm free (bytesArgument value) := by
  refine .bind .get fun _ _ ↦ ?_
  split
  · exact .pure fun _ _ ↦ trivial
  · exact .refuse _

theorem tame_byteArgument (value : Value) : Tame realm free (byteArgument value) := by
  refine .bind (tame_integerArgument _) fun _ _ ↦ ?_
  split
  · exact .pure trivial
  · exact .refuse _

/-! ### Tables -/

theorem tame_insertPairs {receiver : Value} (hfree : free receiver) (hreceiver : Within realm receiver)
    (removals : List Nat) (fuel : Nat) {table : Table} (htable : Within realm table)
    {iteration : Iteration} (hiteration : Within realm iteration) :
    Tame realm free (insertPairs receiver removals fuel table iteration) := by
  induction fuel generalizing table iteration with
  | zero => exact .pure trivial
  | succ fuel ih =>
    refine .bind (.elementary (.next hiteration)) fun found hfound ↦ ?_
    split
    · exact .pure trivial
    · obtain ⟨hitem, hrest⟩ := within_some.mp hfound
      refine .bind (.elementary (.pair hitem)) fun pair hpair ↦ ?_
      refine .bind (.elementary (.key _)) fun key _ ↦ ?_
      have hchanged := within_insert htable key hpair.1 hpair.2
      exact .bind (.store hfree hreceiver hchanged rfl) fun _ _ ↦ ih hchanged hrest

theorem tame_updateTable {receiver : Value} (hfree : free receiver)
    (hreceiver : Within realm receiver) {table : Table} (htable : Within realm table)
    (removals : List Nat) {other : Value} (hother : Within realm other) :
    Tame realm free (updateTable receiver table removals other) := by
  refine .bind (.cell? hother) fun found hfound ↦ ?_
  split
  · exact .store hfree hreceiver (within_merge htable (hfound _ rfl)) rfl
  · exact .bind (.elementary (.iteration hother)) fun _ hiteration ↦
      tame_insertPairs hfree hreceiver _ _ htable hiteration

theorem tame_takenEntry {receiver : Value} (hfree : free receiver)
    (hreceiver : Within realm receiver) {table : Table} (htable : Within realm table)
    (removals : List Nat) (key : Key) :
    Tame realm free ( takeEntry? receiver table removals key) := by
  unfold takeEntry?
  split
  · next value place hvalue hplace =>
    have hitem : Within realm value := within_find? htable key value hvalue
    exact .bind (.store hfree hreceiver (within_erase htable key) rfl) fun _ _ ↦
      .pure (within_some.mpr hitem)
  · exact .pure within_none

theorem tame_runTable {receiver : Value} (hfree : free receiver)
    (hreceiver : Within realm receiver) {table : Table} (htable : Within realm table)
    (removals : List Nat) (name : String) {arguments : List Value}
    (harguments : Within realm arguments) :
    Tame realm free (runTable receiver table removals name arguments) := by
  unfold runTable
  split
  · exact .bind (.elementary (.key _)) fun key _ ↦
      .pure (within_getD (within_find? htable key) trivial)
  · exact .bind (.elementary (.key _)) fun key _ ↦
      .pure (within_getD (within_find? htable key) (within_head (within_tail harguments)))
  · split
    · exact .refuse _
    · refine .bind (.elementary (.key _)) fun key _ ↦ ?_
      refine .bind (tame_takenEntry hfree hreceiver htable _ _) fun found hfound ↦ ?_
      split
      · exact .pure (within_some.mp hfound)
      · exact .refuse _
  · have hmissing := within_head (within_tail harguments)
    split
    · exact .pure hmissing
    · refine .bind (.elementary (.key _)) fun key _ ↦ ?_
      exact .bind (tame_takenEntry hfree hreceiver htable _ _) fun found hfound ↦
        .pure (within_getD hfound hmissing)
  · next wanted rest =>
    have hwanted := within_head harguments
    have hvalue : Within realm (rest.headD .nil) := by
      cases rest with
      | nil => exact trivial
      | cons value others => exact within_head (within_tail harguments)
    match rest, hvalue with
    | [], hvalue | [_], hvalue =>
      refine .bind (.elementary (.key _)) fun key _ ↦ ?_
      split
      · next value hfound => exact .pure (within_find? htable key value hfound)
      · exact .bind (.store hfree hreceiver (within_insert htable _ hwanted hvalue) rfl)
          fun _ _ ↦ .pure hvalue
    | _ :: _ :: _, _ => exact .refuse _
  · exact .pure trivial
  · exact .bind (tame_updateTable hfree hreceiver htable _ (within_head harguments))
      fun _ _ ↦ .pure trivial
  · exact .elementary (.newTable htable)
  · exact .refuse _

theorem tame_fileBlock {table block : Value} (htable : Within realm table)
    (hblock : Within realm block) : Tame realm free (fileBlock table block) := by
  refine .examine htable fun found hfound ↦ ?_
  split
  · exact .bind (.elementary (.key _)) fun key _ ↦
      .store (Or.inr ⟨rfl, _, rfl, rfl⟩) htable (within_insert (hfound _ rfl) key trivial hblock) rfl
  · exact .refuse _

/-! ### Lists and queues -/

theorem tame_indexOf {items : List Value} (hitems : Within realm items) (wanted : Value)
    (bounds : List Value) : Tame realm free (indexOf items wanted bounds) := by
  unfold indexOf
  split
  · exact .refuse _
  · refine .bind (tame_slice hitems _) fun _ _ ↦ ?_
    split
    · exact .refuse _
    · refine .bind .get fun _ _ ↦ ?_
      split
      · exact .elementary (.newCount _)
      · exact .refuse _

/-- Inserting items into a list brings in no others. -/
theorem within_insertAll (memory : Memory) {sorted items : List Value}
    (hsorted : Within realm sorted) (hitems : Within realm items) :
    Within realm (insertAll memory sorted items).1 := by
  induction items generalizing sorted with
  | nil => exact hsorted
  | cons item rest ih =>
    unfold insertAll
    split
    · exact within_append hsorted hitems
    · refine ih ?_ (within_tail hitems)
      exact within_append (within_take _ hsorted)
        (within_cons (within_head hitems) (within_drop _ hsorted))

theorem within_sorted (memory : Memory) {items : List Value} (hitems : Within realm items) :
    Within realm (sorted memory items).1 := by
  unfold sorted
  split
  · exact within_nil
  · exact hitems
  · split
    · exact hitems
    · split
      · exact hitems
      · refine within_insertAll memory ?_ (within_drop _ hitems)
        split
        · exact within_reverse (within_take _ hitems)
        · exact within_take _ hitems

theorem tame_takeOut {α : Type} [Confinable α] {items : List α} (hitems : Within realm items)
    (index : Int) : Tame realm free (takeOut items index) := by
  unfold takeOut
  extract_lets place
  split
  · exact .refuse _
  · split
    · next item hitem =>
      exact .pure ⟨hitems item (List.mem_of_getElem? hitem), within_eraseIdx hitems _⟩
    · exact .refuse _

theorem within_withItems {cell : Cell} (hcell : Within realm cell) {items : List Value}
    (hitems : Within realm items) : Within realm (cell.withItems items) := by
  cases cell with
  | list old | queue old revision => exact hitems
  | table entries removals | buffer data | object className title fields => exact hcell

theorem isObject_withItems (cell : Cell) (items : List Value) :
    (cell.withItems items).isObject = cell.isObject := by
  cases cell <;> rfl

theorem tame_runItems {receiver : Value} (hfree : free receiver) (hreceiver : Within realm receiver)
    {cell : Cell} (hcell : Within realm cell) (hobject : cell.isObject = false) {items : List Value}
    (hitems : Within realm items) (name : String) {arguments : List Value}
    (harguments : Within realm arguments) :
    Tame realm free (runItems receiver cell items name arguments) := by
  have hstore {changed : List Value} (hchanged : Within realm changed) :
      Tame realm free (store receiver (cell.withItems changed)) :=
    .store hfree hreceiver (within_withItems hcell hchanged)
      ((isObject_withItems cell changed).trans hobject)
  unfold runItems
  split
  · exact .bind (hstore (within_append hitems harguments)) fun _ _ ↦ .pure trivial
  · refine .bind (.elementary (.items (within_head harguments))) fun added hadded ↦ ?_
    exact .bind (hstore (within_append hitems hadded)) fun _ _ ↦ .pure trivial
  · refine .bind (tame_takeOut hitems (-1)) fun taken htaken ↦ ?_
    exact .bind (hstore htaken.2) fun _ _ ↦ .pure htaken.1
  · refine .bind (tame_countArgument _) fun _ _ ↦ ?_
    have hitem := within_head (within_tail harguments)
    exact .bind
      (hstore (within_append (within_take _ hitems) (within_cons hitem (within_drop _ hitems))))
      fun _ _ ↦ .pure trivial
  · exact tame_indexOf hitems _ _
  · exact .bind .get fun _ _ ↦ .elementary (.newCount _)
  · exact .bind (hstore (within_reverse hitems)) fun _ _ ↦ .pure trivial
  · exact .elementary (.allocate hcell)
  · refine .bind .get fun _ _ ↦ ?_
    split
    · exact .bind (hstore (within_eraseIdx hitems _)) fun _ _ ↦ .pure trivial
    · exact .refuse _
  · exact .refuse _

theorem tame_runList {receiver : Value} (hfree : free receiver) (hreceiver : Within realm receiver)
    {items : List Value} (hitems : Within realm items) (name : String) {arguments : List Value}
    (harguments : Within realm arguments) :
    Tame realm free (runList receiver items name arguments) := by
  unfold runList
  split
  · refine .bind (tame_countArgument _) fun _ _ ↦ ?_
    refine .bind (tame_takeOut hitems _) fun taken htaken ↦ ?_
    exact .bind (.store hfree hreceiver htaken.2 rfl) fun _ _ ↦ .pure htaken.1
  · refine .bind .get fun memory _ ↦ ?_
    have hsorted := within_sorted memory hitems
    generalize sorted memory items = ended at hsorted ⊢
    refine .bind (.store hfree hreceiver hsorted rfl) fun _ _ ↦ ?_
    split
    · exact .pure trivial
    · exact .refuse _
  · exact tame_runItems hfree hreceiver hitems rfl hitems _ harguments

/-! ### Texts -/

theorem tame_textList {whole : Value} (hwhole : Within realm whole) (isWhole : Bool)
    (parts : List (List Char)) : Tame realm free (textList whole isWhole parts) := by
  unfold textList
  split
  · exact .elementary (.newList (within_singleton hwhole))
  · exact .bind (.mapM fun _ _ ↦ .elementary (.newPart _)) fun _ hparts ↦
      .elementary (.newList hparts)

theorem tame_splitAt {whole : Value} (hwhole : Within realm whole) (s : List Char)
    (separator : Value) (cuts : Nat) : Tame realm free (splitAt whole s separator cuts) := by
  refine .bind (tame_textArgument _) fun pattern _ ↦ ?_
  split
  · exact .elementary (.newList (within_singleton hwhole))
  · split
    · exact .refuse _
    · exact tame_textList hwhole _ _

theorem tame_split {whole : Value} (hwhole : Within realm whole) (s : List Char)
    (separator : Value) (count : Int) : Tame realm free (split whole s separator count) := by
  unfold split
  split
  · exact tame_textList hwhole _ _
  · exact tame_splitAt hwhole _ _ _

theorem tame_strip (whole : Value) (s left : List Char) :
    Tame realm free (strip whole s left) := by
  unfold strip
  split
  · exact .elementary (.asText _)
  · exact .elementary (.newPart _)

theorem tame_replace (whole : Value) (s : List Char) (pattern replacement : Value)
    (count : Int) : Tame realm free (replace whole s pattern replacement count) := by
  refine .bind (tame_textArgument _) fun _ _ ↦ ?_
  refine .bind (tame_textArgument _) fun _ _ ↦ ?_
  extract_lets most
  split
  · exact .elementary (.asText _)
  · exact .elementary (.newText _)

theorem tame_runText {whole : Value} (hwhole : Within realm whole) (text name : String)
    {arguments : List Value} (harguments : Within realm arguments) :
    Tame realm free (runText whole text name arguments) := by
  have hmissing : Tame realm free (pure (.ofInt (-1)) : Compute Value) := .pure trivial
  unfold runText
  extract_lets s
  split
  · exact .elementary (.newText _)
  · exact .elementary (.newText _)
  · exact tame_strip _ _ _
  · exact tame_strip _ _ _
  · exact .bind (tame_textArgument _) fun _ _ ↦ tame_strip _ _ _
  · exact tame_split hwhole _ _ _
  · exact tame_split hwhole _ _ _
  · exact .bind (tame_countArgument _) fun _ _ ↦ tame_split hwhole _ _ _
  · refine .bind (.elementary (.items (within_head harguments))) fun items _ ↦ ?_
    refine .bind (.mapM fun _ _ ↦ tame_textArgument _) fun parts _ ↦ ?_
    split
    · exact .elementary (.asText _)
    · exact .elementary (.newText _)
  · exact tame_replace _ _ _ _ _
  · refine .bind (tame_textArgument _) fun _ _ ↦ ?_
    refine .bind (tame_textArgument _) fun _ _ ↦ ?_
    exact .bind (tame_countArgument _) fun _ _ ↦ tame_replace _ _ _ _ _
  · exact tame_anyPattern tame_textArgument _ _ _ _
  · exact tame_anyPattern tame_textArgument _ _ _ _
  · refine .bind (tame_textArgument _) fun _ _ ↦ ?_
    exact .bind (tame_firstPlace _ _ _) fun _ _ ↦ tame_placeOr hmissing _
  · refine .bind (tame_textArgument _) fun _ _ ↦ ?_
    exact .bind (tame_firstPlace _ _ _) fun _ _ ↦ tame_placeOr (.refuse _) _
  · refine .bind (tame_textArgument _) fun _ _ ↦ ?_
    refine .bind (tame_slice (fun _ _ ↦ trivial) _) fun _ _ ↦ ?_
    split
    · exact .pure trivial
    · exact .elementary (.newCount _)
  · exact .refuse _

/-! ### Byte strings and buffers -/

theorem tame_bytePart (receiver : Value) (data : List UInt8) :
    Tame realm free (bytePart receiver data) := by
  unfold bytePart
  split
  · exact .elementary (.newBytePart _)
  · exact .elementary (.allocate trivial)

theorem tame_freshBytes (receiver : Value) (data : List UInt8) :
    Tame realm free (freshBytes receiver data) := by
  unfold freshBytes
  split
  · split
    · exact .elementary (.newBytePart _)
    · exact .elementary (.newBytes _)
  · exact .elementary (.allocate trivial)

theorem tame_sameBytes (receiver : Value) (data : List UInt8) :
    Tame realm free (sameBytes receiver data) := by
  unfold sameBytes
  split
  · exact .pure trivial
  · exact .elementary (.allocate trivial)

theorem tame_needle (value : Value) : Tame realm free (needle value) := by
  refine .bind .get fun _ _ ↦ ?_
  split
  · exact .pure fun _ _ ↦ trivial
  · exact .bind (tame_byteArgument _) fun _ _ ↦ .pure fun _ _ ↦ trivial

theorem tame_needlePlace (data : List UInt8) (value : Value) (bounds : List Value) :
    Tame realm free (needlePlace data value bounds) :=
  .bind (tame_slice (fun _ _ ↦ trivial) _) fun _ _ ↦
    .bind (tame_needle _) fun _ _ ↦ tame_firstPlace _ _ _

theorem tame_stripBytes (receiver : Value) (data : List UInt8) (isStrange : UInt8 → Bool) :
    Tame realm free (stripBytes receiver data isStrange) := by
  unfold stripBytes
  extract_lets left
  split
  · exact tame_sameBytes _ _
  · exact tame_bytePart _ _

theorem tame_byteList (receiver : Value) (data : List UInt8) (isWhole : Bool)
    (parts : List (List UInt8)) : Tame realm free (byteList receiver data isWhole parts) := by
  unfold byteList
  split
  · exact .bind (tame_sameBytes _ _) fun _ hpart ↦ .elementary (.newList (within_singleton hpart))
  · exact .bind (.mapM fun _ _ ↦ tame_bytePart _ _) fun _ hparts ↦
      .elementary (.newList hparts)

theorem tame_splitBytesAt (receiver : Value) (data : List UInt8) (separator : Value)
    (cuts : Nat) : Tame realm free (splitBytesAt receiver data separator cuts) := by
  refine .bind (tame_bytesArgument _) fun _ _ ↦ ?_
  split
  · exact .refuse _
  · exact tame_byteList _ _ _ _

theorem tame_splitBytes (receiver : Value) (data : List UInt8) (separator : Value)
    (count : Int) : Tame realm free (splitBytes receiver data separator count) := by
  unfold splitBytes
  split
  · exact tame_byteList _ _ _ _
  · exact tame_splitBytesAt _ _ _ _

theorem tame_replaceBytes (receiver : Value) (data pattern replacement : List UInt8)
    (count : Int) : Tame realm free (replaceBytes receiver data pattern replacement count) := by
  unfold replaceBytes
  extract_lets most
  split
  · exact tame_sameBytes _ _
  · exact tame_freshBytes _ _

theorem tame_joinedBytes (receiver : Value) (items : List Value) (joined : List UInt8) :
    Tame realm free (joinedBytes receiver items joined) := by
  unfold joinedBytes
  split
  · exact .pure trivial
  · exact tame_freshBytes _ _

theorem tame_runBytes (receiver : Value) (data : List UInt8) (name : String)
    {arguments : List Value} (harguments : Within realm arguments) :
    Tame realm free (runBytes receiver data name arguments) := by
  have hmissing : Tame realm free (pure (.ofInt (-1)) : Compute Value) := .pure trivial
  unfold runBytes
  split
  · exact tame_freshBytes _ _
  · exact tame_freshBytes _ _
  · exact tame_stripBytes _ _ _
  · exact tame_stripBytes _ _ _
  · exact .bind (tame_bytesArgument _) fun _ _ ↦ tame_stripBytes _ _ _
  · exact tame_splitBytes _ _ _ _
  · exact tame_splitBytes _ _ _ _
  · exact .bind (tame_countArgument _) fun _ _ ↦ tame_splitBytes _ _ _ _
  · refine .bind (.elementary (.items (within_head harguments))) fun items _ ↦ ?_
    exact .bind (.mapM fun _ _ ↦ tame_bytesArgument _) fun parts _ ↦
      tame_joinedBytes _ _ _
  · refine .bind (tame_bytesArgument _) fun _ _ ↦ ?_
    exact .bind (tame_bytesArgument _) fun _ _ ↦ tame_replaceBytes _ _ _ _ _
  · refine .bind (tame_bytesArgument _) fun _ _ ↦ ?_
    refine .bind (tame_bytesArgument _) fun _ _ ↦ ?_
    exact .bind (tame_countArgument _) fun _ _ ↦ tame_replaceBytes _ _ _ _ _
  · exact tame_anyPattern tame_bytesArgument _ _ _ _
  · exact tame_anyPattern tame_bytesArgument _ _ _ _
  · exact .bind (tame_needlePlace _ _ _) fun _ _ ↦
      tame_placeOr hmissing _
  · exact .bind (tame_needlePlace _ _ _) fun _ _ ↦
      tame_placeOr (.refuse _) _
  · refine .bind (tame_slice (fun _ _ ↦ trivial) _) fun _ _ ↦ ?_
    exact .bind (tame_needle _) fun _ _ ↦ .elementary (.newCount _)
  · exact .refuse _

theorem tame_addedBytes {value : Value} (hvalue : Within realm value) :
    Tame realm free (addedBytes value) := by
  refine .bind .get fun _ _ ↦ ?_
  split
  · exact .pure fun _ _ ↦ trivial
  · exact .bind (.elementary (.items hvalue)) fun _ _ ↦
      .mapM fun _ _ ↦ tame_byteArgument _

theorem tame_popByte {receiver : Value} (hfree : free receiver) (hreceiver : Within realm receiver)
    (data : List UInt8) (index : Int) : Tame realm free (popByte receiver data index) :=
  .bind (tame_takeOut (fun _ _ ↦ trivial) _) fun _ _ ↦
    .bind (.store hfree hreceiver trivial rfl) fun _ _ ↦ .pure trivial

theorem tame_runBuffer {receiver : Value} (hfree : free receiver) (hreceiver : Within realm receiver)
    (data : List UInt8) (name : String) {arguments : List Value}
    (harguments : Within realm arguments) :
    Tame realm free (runBuffer receiver data name arguments) := by
  have hstore (changed : List UInt8) :
      Tame realm free (store receiver (.buffer changed) >>= fun _ ↦ pure Value.nil) :=
    .bind (.store hfree hreceiver trivial rfl) fun _ _ ↦ .pure trivial
  unfold runBuffer
  split
  · exact .bind (tame_byteArgument _) fun _ _ ↦ hstore _
  · exact .bind (tame_addedBytes (within_head harguments)) fun _ _ ↦ hstore _
  · exact tame_popByte hfree hreceiver _ _
  · exact .bind (tame_countArgument _) fun _ _ ↦ tame_popByte hfree hreceiver _ _
  · refine .bind (tame_countArgument _) fun _ _ ↦ ?_
    exact .bind (tame_byteArgument _) fun _ _ ↦ hstore _
  · exact hstore _
  · exact .elementary (.allocate trivial)
  · refine .bind (tame_byteArgument _) fun _ _ ↦ ?_
    split
    · exact hstore _
    · exact .refuse _
  · exact tame_runBytes _ _ _ harguments

/-! ### Attributes and methods -/

end Member

/-- Whether what reading an attribute gives is within a realm. -/
def Attribute.IsWithin (realm : Realm) : Attribute → Prop
  | value found => Within realm found
  | method receiver _ => Within realm receiver
  | absent | number _ | trap _ | parameters _ | inner => True

instance : Confinable Attribute where
  Within := Attribute.IsWithin
  within_of_whole whole found := by
    cases found with
    | value found => exact within_of_whole whole found
    | method receiver name => exact within_of_whole whole receiver
    | _ => exact trivial

theorem within_attribute {found : Value} (hfound : Within realm found) :
    Within realm (Attribute.value found) :=
  hfound

namespace Member

theorem within_integerField {real : Value} (hreal : Within realm real) (name : String) :
    Within realm (integerField real name) := by
  unfold integerField
  split
  · exact hreal
  · split
    · exact trivial
    · split <;> exact trivial

theorem within_fieldOf (memory : Memory) {receiver : Value} (hreceiver : Within realm receiver)
    (name : String) : Within realm (fieldOf memory receiver name) := by
  unfold fieldOf
  split
  · exact within_integerField hreceiver _
  · exact within_integerField (show Within realm (Value.ofInt _) from trivial) _
  · repeat' split
    all_goals exact hreceiver
  · repeat' split
    all_goals first | exact hreceiver.1 | exact hreceiver.2 | exact trivial
  · split <;> exact trivial
  · repeat' split
    all_goals first | exact within_scalar _ (.int _) | exact trivial
  · repeat' split
    all_goals first
      | exact within_scalar _ (.text _)
      | exact within_attribute (within_tuple.mpr (within_childrenOf _ _))
      | exact trivial
  · split
    · repeat' split
      all_goals first | exact within_toValue _ | exact trivial
    · exact trivial
  · split <;> exact trivial
  · exact trivial

/-- An attribute that is there is what reading it gives. -/
theorem orInner_cases (memory : Memory) (receiver : Value) (name : String) (found : Attribute) :
    orInner memory receiver name found = found ∨ orInner memory receiver name found = .inner := by
  unfold orInner
  split
  · split
    · exact Or.inr rfl
    · exact Or.inl rfl
  · exact Or.inl rfl

theorem within_attributeOf (memory : Memory) {receiver : Value} (hreceiver : Within realm receiver)
    (name : String) : Within realm (attributeOf memory receiver name) := by
  unfold attributeOf
  extract_lets kindName
  split
  · exact trivial
  · split
    · exact hreceiver
    · rcases orInner_cases memory receiver name (fieldOf memory receiver name) with heq | heq
      · rw [heq]
        exact within_fieldOf memory hreceiver name
      · rw [heq]
        exact trivial

theorem tame_runTuple {items : List Value} (hitems : Within realm items) (name : String)
    (arguments : List Value) : Tame realm free (runTuple items name arguments) := by
  unfold runTuple
  split
  · exact tame_indexOf hitems _ _
  · exact .bind .get fun _ _ ↦ .elementary (.newCount _)
  · exact .refuse _

theorem tame_runProgression (start stop step : Int) (name : String) (arguments : List Value) :
    Tame realm free (runProgression start stop step name arguments) := by
  unfold runProgression
  split
  · exact tame_placeOr (.refuse _) _
  · exact .pure trivial
  · exact .refuse _

theorem tame_runSole (receiver : Value) (name : String) (arguments : List Value) :
    Tame realm free (runSole receiver name arguments) := by
  unfold runSole
  split
  · exact .elementary (.newCount _)
  · exact .pure trivial
  · exact .pure trivial
  · exact .bind (.elementary (.enumerate _ _ _)) fun _ hitems ↦ .elementary (.newList hitems)
  · exact .elementary (.spelled _ _)
  · exact .refuse _

theorem tame_run {receiver : Value} (hreceiver : Within realm receiver) (name : String)
    {arguments : List Value} (harguments : Within realm arguments) :
    Tame realm free (run receiver name arguments) := by
  unfold run
  split
  · exact tame_runText hreceiver _ _ harguments
  · exact tame_runText hreceiver _ _ harguments
  · exact tame_runBytes _ _ _ harguments
  · exact tame_runTuple (within_tuple.mp hreceiver) _ _
  · exact tame_runProgression _ _ _ _ _
  · refine .examine hreceiver fun found hfound ↦ ?_
    split
    · exact tame_runList (Or.inr ⟨rfl, _, rfl, rfl⟩) hreceiver (hfound _ rfl) _ harguments
    · exact tame_runItems (Or.inr ⟨rfl, _, rfl, rfl⟩) hreceiver (hfound _ rfl) rfl (hfound _ rfl) _
        harguments
    · exact tame_runTable (Or.inr ⟨rfl, _, rfl, rfl⟩) hreceiver (hfound _ rfl) _ _ harguments
    · exact tame_runBuffer (Or.inr ⟨rfl, _, rfl, rfl⟩) hreceiver _ _ harguments
    · exact .refuse _
  · exact tame_runSole _ _ _

theorem tame_runWith {receiver : Value} (hreceiver : Within realm receiver) (name : String)
    {arguments : List Value} (harguments : Within realm arguments) {block : Option Value}
    (hblock : Within realm block) :
    Tame realm free (runWith receiver name arguments block) := by
  unfold runWith
  split
  · exact tame_run hreceiver name harguments
  · refine .bind (.cell? hreceiver) fun _ _ ↦ ?_
    split
    · refine .bind (tame_run hreceiver _ harguments) fun result hresult ↦ ?_
      exact .bind (tame_fileBlock hreceiver (within_some.mp hblock)) fun _ _ ↦
        .pure hresult
    · exact .refuse _

end Member

/-! ### Classes of plain values -/

namespace Builder

theorem tame_bytesOf {value : Value} (hvalue : Within realm value) :
    Tame realm free (bytesOf value) := by
  unfold bytesOf
  split
  · exact .refuse _
  · split
    · exact .refuse _
    · split
      · exact .refuse _
      · exact .pure fun _ _ ↦ trivial
  · exact Member.tame_addedBytes hvalue

theorem tame_encoded (value : Value) (names : List Value) :
    Tame realm free (encoded value names) := by
  refine .bind (.mapM fun _ _ ↦ Member.tame_textArgument _) fun _ _ ↦ ?_
  split
  · exact .ofExcept fun _ _ _ _ ↦ trivial
  · exact .ofExcept fun _ _ _ _ ↦ trivial
  · exact .refuse _

theorem tame_decoded (value : Value) (names : List Value) :
    Tame realm free (decoded value names) := by
  refine .bind (.mapM fun _ _ ↦ Member.tame_textArgument _) fun _ _ ↦ ?_
  refine .bind .get fun _ _ ↦ ?_
  split
  · exact .ofExcept fun _ _ ↦ trivial
  · exact .ofExcept fun _ _ ↦ trivial
  · exact .refuse _

theorem tame_numeral? (value : Value) : Tame realm free (numeral? value) := by
  refine .bind .get fun _ _ ↦ ?_
  split
  · exact .pure fun _ _ ↦ trivial
  · split
    · exact .pure fun _ _ ↦ trivial
    · exact .refuse _
  · exact .pure within_none

theorem tame_fromNumeral {α : Type} (value : Value) (read : String → Option α)
    {use : α → Compute Value} (huse : ∀ result, Tame realm free (use result)) :
    Tame realm free (fromNumeral value read use) := by
  refine .bind (tame_numeral? _) fun _ _ ↦ ?_
  split
  · split
    · exact huse _
    · exact .refuse _
  · exact .refuse _

theorem tame_asInteger (value : Value) : Tame realm free (asInteger value) := by
  unfold asInteger
  split
  · exact .pure trivial
  · exact .bind (.ofExcept fun _ _ ↦ trivial) fun _ _ ↦ .elementary (.newInt _)
  · exact tame_fromNumeral _ _ fun _ ↦ .elementary (.newInt _)

theorem tame_integerTo (value base : Value) : Tame realm free (integerTo value base) := by
  refine .bind (Member.tame_integerArgument _) fun _ _ ↦ ?_
  split
  · exact .refuse _
  · exact tame_fromNumeral _ _ fun _ ↦ .elementary (.newInt _)

theorem tame_asFloat (value : Value) : Tame realm free (asFloat value) := by
  unfold asFloat
  split
  · exact .pure trivial
  · exact .bind (.ofExcept fun _ _ ↦ trivial) fun _ _ ↦ .elementary (.newFloat _)
  · exact tame_fromNumeral _ _ fun _ ↦ .elementary (.newFloat _)

theorem tame_stepped (start stop step : Value) :
    Tame realm free (stepped start stop step) := by
  refine .bind (Member.tame_integerArgument _) fun _ _ ↦ ?_
  refine .bind (Member.tame_integerArgument _) fun _ _ ↦ ?_
  refine .bind (Member.tame_integerArgument _) fun _ _ ↦ ?_
  split
  · exact .refuse _
  · exact .elementary (.newProgression _ _ _)

theorem tame_asTuple {value : Value} (hvalue : Within realm value) :
    Tame realm free (asTuple value) := by
  unfold asTuple
  split
  · exact .pure hvalue
  · exact .bind (.elementary (.items hvalue)) fun _ hitems ↦ .elementary (.newTuple hitems)

theorem tame_asBytes {value : Value} (hvalue : Within realm value) :
    Tame realm free (asBytes value) := by
  unfold asBytes
  split
  · exact .pure trivial
  · exact .bind (tame_bytesOf hvalue) fun _ _ ↦ .elementary (.newBytePart _)

theorem tame_child (value : Value) : Tame realm free (child value) := by
  unfold child
  split
  all_goals first | exact .pure trivial | exact .refuse _

theorem tame_newNode (tag : Value) (children : List Value) :
    Tame realm free (newNode tag children) := by
  refine .bind (.elementary (.plain _)) fun _ _ ↦ ?_
  refine .bind (.mapM fun _ _ ↦ tame_child _) fun _ _ ↦ ?_
  exact .bind (.elementary .mint) fun _ _ ↦ .pure trivial

theorem tame_build (className : String) {arguments : List Value}
    (harguments : Within realm arguments) : Tame realm free (build className arguments) := by
  unfold build
  split
  · exact .pure trivial
  · exact .bind .get fun _ _ ↦ .pure trivial
  · exact .pure trivial
  · exact .bind .get fun _ _ ↦ .pure trivial
  · exact .pure trivial
  · exact tame_asInteger _
  · exact tame_integerTo _ _
  · exact .elementary (.newFloat _)
  · exact tame_asFloat _
  · exact .pure trivial
  · exact .elementary (.asText _)
  · exact .bind (tame_decoded _ _) fun _ _ ↦ .elementary (.newPart _)
  · exact .elementary (.newSymbol _)
  · exact .bind (.elementary (.plain _)) fun _ _ ↦ .elementary (.newSymbol _)
  · exact .bind (tame_decoded _ _) fun _ _ ↦ .elementary (.newSymbol _)
  · exact .elementary (.newTuple within_nil)
  · exact tame_asTuple (within_head harguments)
  · exact .elementary (.newList within_nil)
  · exact .bind (.elementary (.items (within_head harguments))) fun _ hitems ↦
      .elementary (.newList hitems)
  · exact .elementary (.allocate within_nil)
  · exact .bind (.elementary (.items (within_head harguments))) fun _ hitems ↦
      .elementary (.allocate hitems)
  · exact .bind (.elementary (.items (within_head harguments))) fun _ hitems ↦
      .elementary (.allocate hitems)
  · exact .elementary (.newTable within_nil)
  · refine .fresh within_nil rfl fun table htable ↦ ?_
    refine .bind (Member.tame_updateTable (Or.inr rfl) htable within_nil _ (within_head harguments))
      fun _ _ ↦ ?_
    exact .pure htable
  · exact .pure trivial
  · exact tame_asBytes (within_head harguments)
  · exact .bind (tame_encoded _ _) fun _ _ ↦ .elementary (.newBytePart _)
  · exact .elementary (.allocate trivial)
  · exact .bind (tame_bytesOf (within_head harguments)) fun _ _ ↦
      .elementary (.allocate trivial)
  · exact .bind (tame_encoded _ _) fun _ _ ↦ .elementary (.allocate trivial)
  · exact .elementary (.newRange (within_head harguments) (within_head (within_tail harguments)) _)
  · exact .bind .get fun _ _ ↦
      .elementary (.newRange (within_head harguments) (within_head (within_tail harguments)) _)
  · exact .bind (Member.tame_integerArgument _) fun _ _ ↦ .elementary (.newProgression _ _ _)
  · exact tame_stepped _ _ _
  · exact tame_stepped _ _ _
  · exact tame_newNode _ _
  · exact .bind (.elementary (.items (within_head (within_tail harguments)))) fun _ _ ↦
      tame_newNode _ _
  · exact .refuse _

theorem tame_buildWith (className : String) {arguments : List Value}
    (harguments : Within realm arguments) {block : Option Value} (hblock : Within realm block) :
    Tame realm free (buildWith className arguments block) := by
  unfold buildWith
  split
  · exact tame_build className harguments
  · split
    · refine .bind (tame_build _ harguments) fun table htable ↦ ?_
      exact .bind (Member.tame_fileBlock htable (within_some.mp hblock)) fun _ _ ↦
        .pure htable
    · exact .refuse _

end Builder

end Treewalk
