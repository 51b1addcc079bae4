import Treewalk.Library
import Treewalk.Proofs.AlikeOperators

/-!
Members of plain values on memories that are numbered differently: their attributes, their methods,
and what their classes build. Searching and sorting compare values, which comes out the same under
other addresses.
-/

set_option autoImplicit false
set_option relaxedAutoImplicit false

namespace Treewalk

open Compute

variable {numbering : Numbering}

namespace Member

/-! ### Arguments -/

theorem alike_textArgument (value : Value) :
    Alike numbering (textArgument value) (textArgument (rename numbering value)) := by
  unfold textArgument
  rw [Value.text?_rename]
  cases value.text? with
  | none => exact alike_refuse _
  | some s => exact alike_pure_of_eq (by simp)

theorem alike_integerArgument (value : Value) :
    Alike numbering (integerArgument value) (integerArgument (rename numbering value)) := by
  unfold integerArgument
  rw [Value.integer?_rename]
  cases value.integer? with
  | none => exact alike_refuse _
  | some i => exact alike_pure i

theorem alike_countArgument (value : Value) :
    Alike numbering (countArgument value) (countArgument (rename numbering value)) := by
  refine alike_bind (alike_integerArgument value) fun i ↦ ?_
  rw [rename_of_addressless]
  split
  · exact alike_pure i
  · exact alike_refuse _

theorem alike_givenBound (length : Nat) (value : Value) :
    Alike numbering (givenBound length value) (givenBound length (rename numbering value)) := by
  refine alike_bind (alike_integerArgument value) fun i ↦ ?_
  rw [rename_of_addressless]
  split
  · exact alike_pure _
  · exact alike_pure _

theorem alike_bound (length missing : Nat) (argument : Option Value) :
    Alike numbering (bound length missing argument)
      (bound length missing (rename numbering argument)) := by
  cases argument with
  | none => exact alike_pure missing
  | some value =>
    have hbound : Alike numbering (givenBound length value)
        (givenBound length (rename numbering value)) := alike_givenBound length value
    cases value with
    | nil => exact alike_pure missing
    | tuple items mark =>
      rw [rename_some]
      rw [Value.rename_tuple] at hbound ⊢
      exact hbound
    | _ => exact hbound

section

variable {α : Type} [Addressless α]

theorem alike_slice (items : List α) (bounds : List Value) :
    Alike numbering (slice items bounds) (slice items (rename numbering bounds)) := by
  unfold slice
  rw [length_rename, getElem?_rename, getElem?_rename]
  split
  · exact alike_refuse _
  · refine alike_bind (alike_bound _ _ _) fun start ↦ alike_bind (alike_bound _ _ _) fun stop ↦ ?_
    simp only [rename_of_addressless]
    split
    · exact alike_pure none
    · exact alike_pure_of_eq (by simp)

theorem alike_firstPlace [BEq α] (s pattern : List α) (bounds : List Value) :
    Alike numbering (firstPlace s pattern bounds)
      (firstPlace s pattern (rename numbering bounds)) := by
  refine alike_bind (alike_slice s bounds) fun found ↦ ?_
  match found with
  | none => exact alike_pure none
  | some (start, part) => exact alike_pure_of_eq (by simp)

omit [Addressless α] in
theorem alike_placeOr {missing missing' : Compute Value} (hmissing : Alike numbering missing missing')
    (place : Option Nat) : Alike numbering (placeOr missing place) (placeOr missing' place) := by
  cases place with
  | some place => exact alike_newCount place
  | none => exact hmissing

theorem alike_firstPattern {argument : Value → Compute (List α)}
    (hargument : ∀ value, Alike numbering (argument value) (argument (rename numbering value)))
    (test : List α → Bool) (patterns : List Value) :
    Alike numbering (firstPattern argument test patterns)
      (firstPattern argument test (rename numbering patterns)) := by
  induction patterns with
  | nil => exact alike_pure false
  | cons pattern rest ih =>
    refine alike_bind (hargument pattern) fun p ↦ ?_
    rw [rename_list_of_addressless]
    split
    · exact alike_pure true
    · exact ih

theorem alike_anyPattern {argument : Value → Compute (List α)}
    (hargument : ∀ value, Alike numbering (argument value) (argument (rename numbering value)))
    (test : List α → List α → Bool) (s : List α) (pattern : Value) (bounds : List Value) :
    Alike numbering (anyPattern argument test s pattern bounds)
      (anyPattern argument test s (rename numbering pattern) (rename numbering bounds)) := by
  refine alike_bind (alike_slice s bounds) fun found ↦ ?_
  have hfound : rename numbering found = found := by
    match found with
    | none => rfl
    | some (start, part) => simp
  rw [hfound]
  have hpatterns (patterns : List Value) := Operator.alike_answer
    (alike_firstPattern hargument
      (fun p ↦ (found.map fun place ↦ test p place.2).getD false) patterns) id
  cases pattern with
  | tuple items mark =>
    rw [Value.rename_tuple]
    exact hpatterns items
  | _ => exact hpatterns [_]

end

theorem alike_bytesArgument (value : Value) :
    Alike numbering (bytesArgument value) (bytesArgument (rename numbering value)) := by
  apply alike_get
  intro left right hmirrors
  rw [hmirrors.bytes?]
  cases left.bytes? value with
  | none => exact alike_refuse _
  | some data => exact alike_pure_of_eq (by simp)

theorem alike_byteArgument (value : Value) :
    Alike numbering (byteArgument value) (byteArgument (rename numbering value)) := by
  refine alike_bind (alike_integerArgument value) fun i ↦ ?_
  rw [rename_of_addressless]
  split
  · exact alike_pure i.toNat.toUInt8
  · exact alike_refuse _

/-! ### Methods of texts -/

@[simp] theorem isText_rename (value : Value) : isText (rename numbering value) = isText value := by
  cases value <;> rfl

theorem alike_textList (whole : Value) (isWhole : Bool) (parts : List (List Char)) :
    Alike numbering (textList whole isWhole parts)
      (textList (rename numbering whole) isWhole parts) := by
  unfold textList
  rw [isText_rename]
  split
  · exact alike_newList [whole]
  · exact alike_bind (alike_mapM_same (fun _ ↦ alike_newPart _) parts) alike_newList

theorem alike_splitAt (whole : Value) (s : List Char) (separator : Value) (cuts : Nat) :
    Alike numbering (splitAt whole s separator cuts)
      (splitAt (rename numbering whole) s (rename numbering separator) cuts) := by
  refine alike_bind (alike_textArgument separator) fun pattern ↦ ?_
  rw [rename_list_of_addressless]
  split
  · exact alike_newList [whole]
  · split
    · exact alike_refuse _
    · exact alike_textList whole _ _

theorem alike_split (whole : Value) (s : List Char) (separator : Value) (count : Int) :
    Alike numbering (split whole s separator count)
      (split (rename numbering whole) s (rename numbering separator) count) := by
  have hsplit : Alike numbering (splitAt whole s separator (limit s.length count))
      (splitAt (rename numbering whole) s (rename numbering separator) (limit s.length count)) :=
    alike_splitAt whole s separator _
  cases separator with
  | nil => exact alike_textList whole _ _
  | tuple items mark =>
    rw [Value.rename_tuple] at hsplit ⊢
    exact hsplit
  | _ => exact hsplit

theorem alike_strip (whole : Value) (s left : List Char) :
    Alike numbering (strip whole s left) (strip (rename numbering whole) s left) := by
  unfold strip
  split
  · exact alike_asText whole
  · exact alike_newPart _

theorem alike_replace (whole : Value) (s : List Char) (pattern replacement : Value) (count : Int) :
    Alike numbering (replace whole s pattern replacement count)
      (replace (rename numbering whole) s (rename numbering pattern) (rename numbering replacement)
        count) := by
  refine alike_bind (alike_textArgument pattern) fun p ↦ ?_
  refine alike_bind (alike_textArgument replacement) fun r ↦ ?_
  simp only [rename_list_of_addressless, Value.identical_rename]
  split
  · exact alike_asText whole
  · exact alike_newText _

/-- A text without its characters at the ends. -/
theorem alike_stripCharacters (whole : Value) (text : String) (characters : Value) :
    Alike numbering (runText whole text "strip" [characters])
      (runText (rename numbering whole) text "strip" [rename numbering characters]) := by
  have hstripped : Alike numbering
      (textArgument characters >>= fun strange ↦
        strip whole text.toList
          ((text.toList.dropWhile strange.contains).reverse.dropWhile strange.contains).reverse)
      (textArgument (rename numbering characters) >>= fun strange ↦
        strip (rename numbering whole) text.toList
          ((text.toList.dropWhile strange.contains).reverse.dropWhile strange.contains).reverse) := by
    refine alike_bind (alike_textArgument characters) fun strange ↦ ?_
    rw [rename_list_of_addressless]
    exact alike_strip whole _ _
  cases characters with
  | nil => exact alike_strip whole _ _
  | tuple items mark =>
    rw [Value.rename_tuple] at hstripped ⊢
    exact hstripped
  | _ => exact hstripped

/-- Texts know no other methods than those listed. -/
theorem runText_of_not_mem {name : String} (hname : name ∉ ofText) (whole : Value) (text : String)
    (arguments : List Value) : runText whole text name arguments = refuse .type := by
  unfold runText
  dsimp only
  split <;> first | (simp [ofText] at hname; done) | rfl

theorem alike_runText (whole : Value) (text name : String) (arguments : List Value) :
    Alike numbering (runText whole text name arguments)
      (runText (rename numbering whole) text name (rename numbering arguments)) := by
  by_cases hname : name ∈ ofText
  · simp only [ofText, List.mem_cons, List.not_mem_nil, or_false] at hname
    have hplace {missing : Compute Value} (hmissing : Alike numbering missing missing)
        (pattern : Value) (bounds : List Value) : Alike numbering
        (do placeOr missing (← firstPlace text.toList (← textArgument pattern) bounds))
        (do
          placeOr missing (← firstPlace text.toList (← textArgument (rename numbering pattern))
            (rename numbering bounds))) := by
      refine alike_bind (alike_textArgument pattern) fun p ↦ ?_
      rw [rename_list_of_addressless]
      refine alike_bind (alike_firstPlace _ p bounds) fun place ↦ ?_
      rw [rename_option_of_addressless]
      exact alike_placeOr hmissing place
    rcases hname with rfl | rfl | rfl | rfl | rfl | rfl | rfl | rfl | rfl | rfl | rfl
    · rcases arguments with _ | ⟨_, _⟩
      · exact alike_newText _
      · exact alike_refuse _
    · rcases arguments with _ | ⟨_, _⟩
      · exact alike_newText _
      · exact alike_refuse _
    · rcases arguments with _ | ⟨characters, _ | ⟨_, _⟩⟩
      · exact alike_strip whole _ _
      · exact alike_stripCharacters whole text characters
      · cases characters <;> exact alike_refuse _
    · rcases arguments with _ | ⟨separator, _ | ⟨count, _ | ⟨_, _⟩⟩⟩
      · exact alike_split whole _ .nil (-1)
      · exact alike_split whole _ separator (-1)
      · exact alike_bind (alike_countArgument count) fun i ↦ alike_split whole _ separator i
      · exact alike_refuse _
    · rcases arguments with _ | ⟨list, _ | ⟨_, _⟩⟩
      · exact alike_refuse _
      · refine alike_bind (Value.alike_items list) fun items ↦ ?_
        refine alike_bind (alike_mapM alike_textArgument items) fun parts ↦ ?_
        rcases items with _ | ⟨only, _ | ⟨_, _⟩⟩
        · rw [rename_lists_of_addressless]
          exact alike_newText _
        · exact alike_asText only
        · rw [rename_lists_of_addressless]
          exact alike_newText _
      · exact alike_refuse _
    · rcases arguments with _ | ⟨pattern, _ | ⟨replacement, _ | ⟨count, _ | ⟨_, _⟩⟩⟩⟩
      · exact alike_refuse _
      · exact alike_refuse _
      · exact alike_replace whole _ pattern replacement (-1)
      · refine alike_bind (alike_textArgument pattern) fun _ ↦ ?_
        refine alike_bind (alike_textArgument replacement) fun _ ↦ ?_
        exact alike_bind (alike_countArgument count) fun i ↦
          alike_replace whole _ pattern replacement i
      · exact alike_refuse _
    · rcases arguments with _ | ⟨pattern, bounds⟩
      · exact alike_refuse _
      · exact alike_anyPattern alike_textArgument Text.startsWith _ pattern bounds
    · rcases arguments with _ | ⟨pattern, bounds⟩
      · exact alike_refuse _
      · exact alike_anyPattern alike_textArgument Text.endsWith _ pattern bounds
    · rcases arguments with _ | ⟨pattern, bounds⟩
      · exact alike_refuse _
      · exact hplace (alike_pure (Value.ofInt (-1))) pattern bounds
    · rcases arguments with _ | ⟨pattern, bounds⟩
      · exact alike_refuse _
      · exact hplace (alike_refuse _) pattern bounds
    · rcases arguments with _ | ⟨pattern, bounds⟩
      · exact alike_refuse _
      · refine alike_bind (alike_textArgument pattern) fun p ↦ ?_
        refine alike_bind (alike_slice _ bounds) fun found ↦ ?_
        rcases found with _ | ⟨start, part⟩
        · exact alike_pure (Value.ofInt 0)
        · simp only [rename_list_of_addressless, rename_some, rename_pair]
          exact alike_newCount _
  · rw [runText_of_not_mem hname, runText_of_not_mem hname]
    exact alike_refuse _

/-! ### Methods of lists and queues -/

theorem placeOf_rename {left right : Memory} (hmirrors : numbering.Mirrors left right)
    (wanted : Value) (items : List Value) :
    placeOf right (rename numbering wanted) (rename numbering items) = placeOf left wanted items := by
  simp [placeOf, rename_list, List.findIdx?_map, Function.comp_def, hmirrors.matching]

theorem occurrences_rename {left right : Memory} (hmirrors : numbering.Mirrors left right)
    (wanted : Value) (items : List Value) :
    occurrences right (rename numbering wanted) (rename numbering items) =
      occurrences left wanted items := by
  simp [occurrences, rename_list, List.filter_map, Function.comp_def, hmirrors.matching]

theorem alike_sliceItems (items bounds : List Value) :
    Alike numbering (slice items bounds)
      (slice (rename numbering items) (rename numbering bounds)) := by
  unfold slice
  simp only [length_rename, getElem?_rename]
  split
  · exact alike_refuse _
  · refine alike_bind (alike_bound _ _ _) fun start ↦ alike_bind (alike_bound _ _ _) fun stop ↦ ?_
    simp only [rename_of_addressless]
    split
    · exact alike_pure none
    · exact alike_pure_of_eq (by simp [rename_drop, rename_take])

theorem alike_indexOf (items : List Value) (wanted : Value) (bounds : List Value) :
    Alike numbering (indexOf items wanted bounds)
      (indexOf (rename numbering items) (rename numbering wanted) (rename numbering bounds)) := by
  have hnil : (rename numbering bounds).any Value.isNil = bounds.any Value.isNil := by
    simp [rename_list, List.any_map, Function.comp_def]
  unfold indexOf
  rw [hnil]
  split
  · exact alike_refuse _
  · refine alike_bind (alike_sliceItems items bounds) fun found ↦ ?_
    match found with
    | none => exact alike_refuse _
    | some (start, part) =>
      apply alike_get
      intro left right hmirrors
      simp only [placeOf_rename hmirrors, rename_of_addressless]
      cases placeOf left wanted part with
      | none => exact alike_refuse _
      | some place => exact alike_newCount _

theorem alike_count (wanted : Value) (items : List Value) :
    Alike numbering (do Compute.newCount (occurrences (← get) wanted items))
      (do
        Compute.newCount
          (occurrences (← get) (rename numbering wanted) (rename numbering items))) := by
  apply alike_get
  intro left right hmirrors
  rw [occurrences_rename hmirrors]
  exact alike_newCount _

theorem runLength?_rename {left right : Memory} (hmirrors : numbering.Mirrors left right)
    (descending : Bool) (previous : Value) (items : List Value) :
    runLength? right descending (rename numbering previous) (rename numbering items) =
      runLength? left descending previous items := by
  induction items generalizing previous with
  | nil => rfl
  | cons item rest ih =>
    rw [rename_cons, runLength?, runLength?, hmirrors.ordered?, ih]

theorem insertPlace?_rename {left right : Memory} (hmirrors : numbering.Mirrors left right)
    (sorted : List Value) (item : Value) (fuel low high : Nat) :
    insertPlace? right (rename numbering sorted).toArray (rename numbering item) fuel low high =
      insertPlace? left sorted.toArray item fuel low high := by
  have hitem (place : Nat) : (rename numbering sorted).toArray.getD place .nil =
      rename numbering (sorted.toArray.getD place .nil) := by
    simp only [Array.getD_eq_getD_getElem?, List.getElem?_toArray, getElem?_rename, rename_getD,
      Value.rename_nothing]
  induction fuel generalizing low high with
  | zero => rfl
  | succ fuel ih =>
    rw [insertPlace?, insertPlace?]
    simp only [hitem, hmirrors.ordered?, ih]

theorem insertAll_rename {left right : Memory} (hmirrors : numbering.Mirrors left right)
    (sorted items : List Value) :
    insertAll right (rename numbering sorted) (rename numbering items) =
      rename numbering (insertAll left sorted items) := by
  induction items generalizing sorted with
  | nil => rfl
  | cons item rest ih =>
    rw [rename_cons, insertAll, insertAll, insertPlace?_rename hmirrors, length_rename]
    cases insertPlace? left sorted.toArray item (sorted.length + 1) 0 sorted.length with
    | none => simp
    | some place =>
      dsimp only
      rw [← ih, rename_append, rename_cons, rename_take, rename_drop]

theorem sorted_rename {left right : Memory} (hmirrors : numbering.Mirrors left right)
    (items : List Value) :
    sorted right (rename numbering items) = rename numbering (sorted left items) := by
  match items with
  | [] => rfl
  | [only] => rfl
  | first :: second :: rest =>
    simp only [rename_cons, sorted, hmirrors.ordered?, runLength?_rename hmirrors]
    cases left.ordered? .less second first with
    | none => simp
    | some descending =>
      dsimp only
      cases runLength? left descending second rest with
      | none => simp
      | some more =>
        simp only [← rename_cons]
        rw [← rename_take, ← rename_drop, ← insertAll_rename hmirrors]
        cases descending
        · rfl
        · simp [rename_reverse]

section

variable {α : Type} [Renamable α]

theorem alike_takeOut (items : List α) (index : Int) :
    Alike numbering (takeOut items index) (takeOut (rename numbering items) index) := by
  unfold takeOut
  simp only [length_rename, getElem?_rename]
  generalize (if index < 0 then index + (items.length : Int) else index) = place
  split
  · exact alike_refuse _
  · cases items[place.toNat]? with
    | none => exact alike_refuse _
    | some item => exact alike_pure_of_eq (by simp [rename_eraseIdx])

end

/-- Stores changed items and gives nil. -/
theorem alike_storeItems (receiver : Value) (cell : Cell) (items : List Value) :
    Alike numbering
      (do
        Compute.store receiver (cell.withItems items)
        return .nil : Compute Value)
      (do
        Compute.store (rename numbering receiver)
          ((rename numbering cell).withItems (rename numbering items))
        return .nil) := by
  rw [← Cell.rename_withItems]
  exact alike_bind (alike_store receiver _) fun _ ↦ alike_pure Value.nil

/-- Queues know no other methods than those listed. -/
theorem runItems_of_not_mem {name : String} (hname : name ∉ ofQueue) (receiver : Value) (cell : Cell)
    (items arguments : List Value) :
    runItems receiver cell items name arguments = refuse .type := by
  unfold runItems
  split <;> first | (simp [ofQueue] at hname; done) | rfl

theorem alike_remove (receiver : Value) (cell : Cell) (items : List Value) (wanted : Value) :
    Alike numbering (runItems receiver cell items "remove" [wanted])
      (runItems (rename numbering receiver) (rename numbering cell) (rename numbering items) "remove"
        [rename numbering wanted]) := by
  apply alike_get
  intro left right hmirrors
  rw [placeOf_rename hmirrors]
  cases placeOf left wanted items with
  | none => exact alike_refuse _
  | some place =>
    dsimp only
    rw [← rename_eraseIdx]
    exact alike_storeItems receiver cell _

theorem alike_runItems (receiver : Value) (cell : Cell) (items : List Value) (name : String)
    (arguments : List Value) :
    Alike numbering (runItems receiver cell items name arguments)
      (runItems (rename numbering receiver) (rename numbering cell) (rename numbering items) name
        (rename numbering arguments)) := by
  by_cases hname : name ∈ ofQueue
  · simp only [ofQueue, List.mem_cons, List.not_mem_nil, or_false] at hname
    rcases hname with rfl | rfl | rfl | rfl | rfl | rfl | rfl | rfl | rfl
    · rcases arguments with _ | ⟨item, _ | ⟨_, _⟩⟩
      · exact alike_refuse _
      · have hstored : Alike numbering _ _ := alike_storeItems receiver cell (items ++ [item])
        rw [rename_append] at hstored
        exact hstored
      · exact alike_refuse _
    · rcases arguments with _ | ⟨list, _ | ⟨_, _⟩⟩
      · exact alike_refuse _
      · refine alike_bind (Value.alike_items list) fun added ↦ ?_
        rw [← rename_append]
        exact alike_storeItems receiver cell _
      · exact alike_refuse _
    · rcases arguments with _ | ⟨_, _⟩
      · refine alike_bind (alike_takeOut items (-1)) fun taken ↦ ?_
        obtain ⟨item, others⟩ := taken
        dsimp only [rename_pair]
        rw [← Cell.rename_withItems]
        exact alike_bind (alike_store receiver _) fun _ ↦ alike_pure item
      · exact alike_refuse _
    · rcases arguments with _ | ⟨index, _ | ⟨item, _ | ⟨_, _⟩⟩⟩
      · exact alike_refuse _
      · exact alike_refuse _
      · refine alike_bind (alike_countArgument index) fun i ↦ ?_
        dsimp only [rename_of_addressless]
        rw [length_rename, ← rename_take, ← rename_drop, ← rename_cons, ← rename_append]
        exact alike_storeItems receiver cell _
      · exact alike_refuse _
    · rcases arguments with _ | ⟨wanted, bounds⟩
      · exact alike_refuse _
      · exact alike_indexOf items wanted bounds
    · rcases arguments with _ | ⟨wanted, _ | ⟨_, _⟩⟩
      · exact alike_refuse _
      · exact alike_count wanted items
      · exact alike_refuse _
    · rcases arguments with _ | ⟨_, _⟩
      · have hstored : Alike numbering _ _ := alike_storeItems receiver cell items.reverse
        rw [rename_reverse] at hstored
        exact hstored
      · exact alike_refuse _
    · rcases arguments with _ | ⟨_, _⟩
      · exact alike_allocate cell
      · exact alike_refuse _
    · rcases arguments with _ | ⟨wanted, _ | ⟨_, _⟩⟩
      · exact alike_refuse _
      · exact alike_remove receiver cell items wanted
      · exact alike_refuse _
  · rw [runItems_of_not_mem hname, runItems_of_not_mem hname]
    exact alike_refuse _

theorem alike_sort (receiver : Value) (items : List Value) :
    Alike numbering (runList receiver items "sort" [])
      (runList (rename numbering receiver) (rename numbering items) "sort" []) := by
  apply alike_get
  intro left right hmirrors
  rw [sorted_rename hmirrors]
  obtain ⟨changed, complete⟩ := sorted left items
  refine alike_bind (alike_store receiver (.list changed)) fun _ ↦ ?_
  dsimp only [rename_pair, rename_of_addressless]
  split
  · exact alike_pure Value.nil
  · exact alike_refuse _

theorem alike_runList (receiver : Value) (items : List Value) (name : String)
    (arguments : List Value) :
    Alike numbering (runList receiver items name arguments)
      (runList (rename numbering receiver) (rename numbering items) name
        (rename numbering arguments)) := by
  have hitems : Alike numbering (runItems receiver (.list items) items name arguments)
      (runItems (rename numbering receiver) (rename numbering (Cell.list items))
        (rename numbering items) name (rename numbering arguments)) :=
    alike_runItems receiver (.list items) items name arguments
  by_cases hpop : name = "pop"
  · subst hpop
    match arguments with
    | [index] =>
      refine alike_bind (alike_countArgument index) fun i ↦ ?_
      refine alike_bind (alike_takeOut items i) fun taken ↦ ?_
      obtain ⟨item, others⟩ := taken
      exact alike_bind (alike_store receiver (.list others)) fun _ ↦ alike_pure item
    | [] | _ :: _ :: _ => exact hitems
  · by_cases hsort : name = "sort"
    · subst hsort
      match arguments with
      | [] => exact alike_sort receiver items
      | _ :: _ => exact hitems
    · have hother (receiver : Value) (items arguments : List Value) :
          runList receiver items name arguments =
            runItems receiver (.list items) items name arguments := by
        unfold runList
        split <;> first | contradiction | rfl
      rw [hother, hother]
      exact hitems

/-! ### Methods of byte strings and buffers -/

theorem alike_bytePart (receiver : Value) (data : List UInt8) :
    Alike numbering (bytePart receiver data) (bytePart (rename numbering receiver) data) := by
  cases receiver with
  | bytes own mark => exact alike_newBytePart data
  | tuple items mark =>
    rw [Value.rename_tuple]
    exact alike_allocate (.buffer data)
  | _ => exact alike_allocate (.buffer data)

theorem alike_freshBytes (receiver : Value) (data : List UInt8) :
    Alike numbering (freshBytes receiver data) (freshBytes (rename numbering receiver) data) := by
  cases receiver with
  | bytes own mark =>
    change Alike numbering (if _ then _ else _) (if _ then _ else _)
    split
    · exact alike_newBytePart data
    · exact alike_newBytes data
  | tuple items mark =>
    rw [Value.rename_tuple]
    exact alike_allocate (.buffer data)
  | _ => exact alike_allocate (.buffer data)

theorem alike_sameBytes (receiver : Value) (data : List UInt8) :
    Alike numbering (sameBytes receiver data) (sameBytes (rename numbering receiver) data) := by
  cases receiver with
  | bytes own mark => exact alike_pure (Value.bytes own mark)
  | tuple items mark =>
    rw [Value.rename_tuple]
    exact alike_allocate (.buffer data)
  | _ => exact alike_allocate (.buffer data)

theorem alike_needle (value : Value) :
    Alike numbering (needle value) (needle (rename numbering value)) := by
  apply alike_get
  intro left right hmirrors
  rw [hmirrors.bytes?]
  cases left.bytes? value with
  | none => exact alike_bind (alike_byteArgument value) fun byte ↦ alike_pure_of_eq (by simp)
  | some data => exact alike_pure_of_eq (by simp)

theorem alike_needlePlace (data : List UInt8) (value : Value) (bounds : List Value) :
    Alike numbering (needlePlace data value bounds)
      (needlePlace data (rename numbering value) (rename numbering bounds)) := by
  refine alike_bind (alike_slice data bounds) fun _ ↦ ?_
  refine alike_bind (alike_needle value) fun pattern ↦ ?_
  rw [rename_list_of_addressless]
  exact alike_firstPlace data pattern bounds

theorem alike_stripBytes (receiver : Value) (data : List UInt8) (isStrange : UInt8 → Bool) :
    Alike numbering (stripBytes receiver data isStrange)
      (stripBytes (rename numbering receiver) data isStrange) := by
  unfold stripBytes
  dsimp only
  split
  · exact alike_sameBytes receiver data
  · exact alike_bytePart receiver _

theorem alike_byteList (receiver : Value) (data : List UInt8) (isWhole : Bool)
    (parts : List (List UInt8)) :
    Alike numbering (byteList receiver data isWhole parts)
      (byteList (rename numbering receiver) data isWhole parts) := by
  unfold byteList
  split
  · exact alike_bind (alike_sameBytes receiver data) fun whole ↦ alike_newList [whole]
  · exact alike_bind (alike_mapM_same (alike_bytePart receiver) parts) alike_newList

theorem alike_splitBytesAt (receiver : Value) (data : List UInt8) (separator : Value) (cuts : Nat) :
    Alike numbering (splitBytesAt receiver data separator cuts)
      (splitBytesAt (rename numbering receiver) data (rename numbering separator) cuts) := by
  refine alike_bind (alike_bytesArgument separator) fun pattern ↦ ?_
  rw [rename_list_of_addressless]
  split
  · exact alike_refuse _
  · exact alike_byteList receiver data _ _

theorem alike_splitBytes (receiver : Value) (data : List UInt8) (separator : Value) (count : Int) :
    Alike numbering (splitBytes receiver data separator count)
      (splitBytes (rename numbering receiver) data (rename numbering separator) count) := by
  have hsplit : Alike numbering (splitBytesAt receiver data separator (limit data.length count))
      (splitBytesAt (rename numbering receiver) data (rename numbering separator)
        (limit data.length count)) :=
    alike_splitBytesAt receiver data separator _
  cases separator with
  | nil => exact alike_byteList receiver data _ _
  | tuple items mark =>
    rw [Value.rename_tuple] at hsplit ⊢
    exact hsplit
  | _ => exact hsplit

theorem alike_replaceBytes (receiver : Value) (data pattern replacement : List UInt8) (count : Int) :
    Alike numbering (replaceBytes receiver data pattern replacement count)
      (replaceBytes (rename numbering receiver) data pattern replacement count) := by
  unfold replaceBytes
  dsimp only
  split
  · exact alike_sameBytes receiver data
  · exact alike_freshBytes receiver _

theorem alike_joinedBytes (receiver : Value) (items : List Value) (joined : List UInt8) :
    Alike numbering (joinedBytes receiver items joined)
      (joinedBytes (rename numbering receiver) (rename numbering items) joined) := by
  have hfresh : Alike numbering (freshBytes receiver joined)
      (freshBytes (rename numbering receiver) joined) := alike_freshBytes receiver joined
  cases receiver with
  | bytes own mark =>
    match items with
    | [] => exact hfresh
    | first :: second :: rest => cases first <;> exact hfresh
    | [only] =>
      cases only with
      | bytes data mark => exact alike_pure (Value.bytes data mark)
      | tuple parts mark =>
        rw [rename_cons, Value.rename_tuple]
        exact hfresh
      | _ => exact hfresh
  | tuple parts mark =>
    rw [Value.rename_tuple] at hfresh ⊢
    exact hfresh
  | _ => exact hfresh

/-- Byte strings know no other methods than those listed. -/
theorem runBytes_of_not_mem {name : String} (hname : name ∉ ofText) (receiver : Value)
    (data : List UInt8) (arguments : List Value) :
    runBytes receiver data name arguments = refuse .type := by
  unfold runBytes
  split <;> first | (simp [ofText] at hname; done) | rfl

/-- Bytes without those of an argument at their ends. -/
theorem alike_stripGiven (receiver : Value) (data : List UInt8) (strange : Value) :
    Alike numbering (runBytes receiver data "strip" [strange])
      (runBytes (rename numbering receiver) data "strip" [rename numbering strange]) := by
  have hstripped : Alike numbering
      (do stripBytes receiver data (← bytesArgument strange).contains)
      (do
        stripBytes (rename numbering receiver) data
          (← bytesArgument (rename numbering strange)).contains) := by
    refine alike_bind (alike_bytesArgument strange) fun found ↦ ?_
    rw [rename_list_of_addressless]
    exact alike_stripBytes receiver data _
  cases strange with
  | nil => exact alike_stripBytes receiver data _
  | tuple items mark =>
    rw [Value.rename_tuple] at hstripped ⊢
    exact hstripped
  | _ => exact hstripped

theorem alike_runBytes (receiver : Value) (data : List UInt8) (name : String)
    (arguments : List Value) :
    Alike numbering (runBytes receiver data name arguments)
      (runBytes (rename numbering receiver) data name (rename numbering arguments)) := by
  by_cases hname : name ∈ ofText
  · simp only [ofText, List.mem_cons, List.not_mem_nil, or_false] at hname
    have hplace {missing : Compute Value} (hmissing : Alike numbering missing missing)
        (wanted : Value) (bounds : List Value) : Alike numbering
        (do placeOr missing (← needlePlace data wanted bounds))
        (do
          placeOr missing
            (← needlePlace data (rename numbering wanted) (rename numbering bounds))) := by
      refine alike_bind (alike_needlePlace data wanted bounds) fun place ↦ ?_
      rw [rename_option_of_addressless]
      exact alike_placeOr hmissing place
    rcases hname with rfl | rfl | rfl | rfl | rfl | rfl | rfl | rfl | rfl | rfl | rfl
    · rcases arguments with _ | ⟨_, _⟩
      · exact alike_freshBytes receiver _
      · exact alike_refuse _
    · rcases arguments with _ | ⟨_, _⟩
      · exact alike_freshBytes receiver _
      · exact alike_refuse _
    · rcases arguments with _ | ⟨strange, _ | ⟨_, _⟩⟩
      · exact alike_stripBytes receiver data _
      · exact alike_stripGiven receiver data strange
      · cases strange <;> exact alike_refuse _
    · rcases arguments with _ | ⟨separator, _ | ⟨count, _ | ⟨_, _⟩⟩⟩
      · exact alike_splitBytes receiver data .nil (-1)
      · exact alike_splitBytes receiver data separator (-1)
      · exact alike_bind (alike_countArgument count) fun i ↦
          alike_splitBytes receiver data separator i
      · exact alike_refuse _
    · rcases arguments with _ | ⟨list, _ | ⟨_, _⟩⟩
      · exact alike_refuse _
      · refine alike_bind (Value.alike_items list) fun items ↦ ?_
        refine alike_bind (alike_mapM alike_bytesArgument items) fun parts ↦ ?_
        rw [rename_lists_of_addressless]
        exact alike_joinedBytes receiver items _
      · exact alike_refuse _
    · rcases arguments with _ | ⟨pattern, _ | ⟨replacement, _ | ⟨count, _ | ⟨_, _⟩⟩⟩⟩
      · exact alike_refuse _
      · exact alike_refuse _
      · refine alike_bind (alike_bytesArgument pattern) fun p ↦ ?_
        refine alike_bind (alike_bytesArgument replacement) fun r ↦ ?_
        rw [rename_list_of_addressless, rename_list_of_addressless]
        exact alike_replaceBytes receiver data p r (-1)
      · refine alike_bind (alike_bytesArgument pattern) fun p ↦ ?_
        refine alike_bind (alike_bytesArgument replacement) fun r ↦ ?_
        rw [rename_list_of_addressless, rename_list_of_addressless]
        exact alike_bind (alike_countArgument count) fun i ↦ alike_replaceBytes receiver data p r i
      · exact alike_refuse _
    · rcases arguments with _ | ⟨pattern, bounds⟩
      · exact alike_refuse _
      · exact alike_anyPattern alike_bytesArgument Text.startsWith data pattern bounds
    · rcases arguments with _ | ⟨pattern, bounds⟩
      · exact alike_refuse _
      · exact alike_anyPattern alike_bytesArgument Text.endsWith data pattern bounds
    · rcases arguments with _ | ⟨wanted, bounds⟩
      · exact alike_refuse _
      · exact hplace (alike_pure (Value.ofInt (-1))) wanted bounds
    · rcases arguments with _ | ⟨wanted, bounds⟩
      · exact alike_refuse _
      · exact hplace (alike_refuse _) wanted bounds
    · rcases arguments with _ | ⟨wanted, bounds⟩
      · exact alike_refuse _
      · refine alike_bind (alike_slice data bounds) fun found ↦ ?_
        refine alike_bind (alike_needle wanted) fun pattern ↦ ?_
        rw [rename_list_of_addressless]
        rcases found with _ | ⟨start, part⟩
        · exact alike_newCount _
        · simp only [rename_list_of_addressless, rename_some, rename_pair]
          exact alike_newCount _
  · rw [runBytes_of_not_mem hname, runBytes_of_not_mem hname]
    exact alike_refuse _

theorem alike_addedBytes (value : Value) :
    Alike numbering (addedBytes value) (addedBytes (rename numbering value)) := by
  apply alike_get
  intro left right hmirrors
  rw [hmirrors.bytes?]
  cases left.bytes? value with
  | some data => exact alike_pure_of_eq (by simp)
  | none => exact alike_bind (Value.alike_items value) fun items ↦ alike_mapM alike_byteArgument items

theorem alike_plainTakeOut {α : Type} [Addressless α] (items : List α) (index : Int) :
    Alike numbering (takeOut items index) (takeOut items index) := by
  have htaken : Alike numbering (takeOut items index) (takeOut (rename numbering items) index) :=
    alike_takeOut items index
  rwa [rename_list_of_addressless] at htaken

/-- Stores changed bytes and gives a value. -/
theorem alike_storeBytes (receiver : Value) (data : List UInt8) (result : Value) :
    Alike numbering
      (do
        Compute.store receiver (.buffer data)
        return result : Compute Value)
      (do
        Compute.store (rename numbering receiver) (.buffer data)
        return (rename numbering result)) :=
  alike_bind (alike_store receiver (.buffer data)) fun _ ↦ alike_pure result

theorem alike_popByte (receiver : Value) (data : List UInt8) (index : Int) :
    Alike numbering (popByte receiver data index)
      (popByte (rename numbering receiver) data index) := by
  refine alike_bind (alike_plainTakeOut data index) fun taken ↦ ?_
  obtain ⟨byte, others⟩ := taken
  dsimp only [rename_pair]
  rw [rename_list_of_addressless]
  exact alike_storeBytes receiver others (.ofInt byte.toNat)

/-- The methods that only buffers have. -/
theorem runBuffer_of_not_mem {name : String} (hname : name ∉ ofQueue) (receiver : Value)
    (data : List UInt8) (arguments : List Value) :
    runBuffer receiver data name arguments = runBytes receiver data name arguments := by
  unfold runBuffer
  split <;> first | (simp [ofQueue] at hname; done) | rfl

theorem alike_removeByte (receiver : Value) (data : List UInt8) (item : Value) :
    Alike numbering (runBuffer receiver data "remove" [item])
      (runBuffer (rename numbering receiver) data "remove" [rename numbering item]) := by
  refine alike_bind (alike_byteArgument item) fun byte ↦ ?_
  rw [rename_of_addressless]
  split
  · exact alike_storeBytes receiver _ .nil
  · exact alike_refuse _

theorem alike_runBuffer (receiver : Value) (data : List UInt8) (name : String)
    (arguments : List Value) :
    Alike numbering (runBuffer receiver data name arguments)
      (runBuffer (rename numbering receiver) data name (rename numbering arguments)) := by
  have hbytes : Alike numbering (runBytes receiver data name arguments)
      (runBytes (rename numbering receiver) data name (rename numbering arguments)) :=
    alike_runBytes receiver data name arguments
  by_cases hname : name ∈ ofQueue
  · simp only [ofQueue, List.mem_cons, List.not_mem_nil, or_false] at hname
    rcases hname with rfl | rfl | rfl | rfl | rfl | rfl | rfl | rfl | rfl
    · match arguments with
      | [item] =>
        exact alike_bind (alike_byteArgument item) fun byte ↦ alike_storeBytes receiver _ .nil
      | [] | _ :: _ :: _ => exact hbytes
    · match arguments with
      | [list] =>
        refine alike_bind (alike_addedBytes list) fun added ↦ ?_
        rw [rename_list_of_addressless]
        exact alike_storeBytes receiver _ .nil
      | [] | _ :: _ :: _ => exact hbytes
    · match arguments with
      | [] => exact alike_popByte receiver data (-1)
      | [index] => exact alike_bind (alike_countArgument index) fun i ↦ alike_popByte receiver data i
      | _ :: _ :: _ => exact hbytes
    · match arguments with
      | [index, item] =>
        refine alike_bind (alike_countArgument index) fun i ↦ ?_
        exact alike_bind (alike_byteArgument item) fun byte ↦ alike_storeBytes receiver _ .nil
      | [] | [_] | _ :: _ :: _ :: _ => exact hbytes
    · exact hbytes
    · exact hbytes
    · match arguments with
      | [] => exact alike_storeBytes receiver _ .nil
      | _ :: _ => exact hbytes
    · match arguments with
      | [] => exact alike_allocate (.buffer data)
      | _ :: _ => exact hbytes
    · match arguments with
      | [item] => exact alike_removeByte receiver data item
      | [] | _ :: _ :: _ => exact hbytes
  · rw [runBuffer_of_not_mem hname, runBuffer_of_not_mem hname]
    exact hbytes

/-! ### Methods of tables -/

theorem alike_insertPairs (receiver : Value) (removals : List Nat) (fuel : Nat) (table : Table)
    (iteration : Iteration) :
    Alike numbering (insertPairs receiver removals fuel table iteration)
      (insertPairs (rename numbering receiver) removals fuel (rename numbering table)
        (rename numbering iteration)) := by
  induction fuel generalizing table iteration with
  | zero => exact alike_pure ()
  | succ fuel ih =>
    refine alike_bind iteration.alike_next fun found ↦ ?_
    match found with
    | none => exact alike_pure ()
    | some (item, rest) =>
      refine alike_bind item.alike_pair fun pair ↦ ?_
      obtain ⟨name, value⟩ := pair
      refine alike_bind (alike_key name) fun key ↦ ?_
      dsimp only [rename_pair]
      rw [← Table.rename_insert]
      exact alike_bind (alike_store receiver (.table _ removals)) fun _ ↦ ih _ rest

theorem alike_updateTable (receiver : Value) (table : Table) (removals : List Nat) (other : Value) :
    Alike numbering (updateTable receiver table removals other)
      (updateTable (rename numbering receiver) (rename numbering table) removals
        (rename numbering other)) := by
  refine alike_bind (alike_cell? other) fun found ↦ ?_
  match found with
  | some (.table entries _) =>
    simp only [rename_some, Cell.rename_table, ← Table.rename_merge]
    exact alike_store receiver (.table _ removals)
  | some (.list _) | some (.queue _ _) | some (.buffer _) | some (.object _ _ _) | none =>
    exact alike_bind (Value.alike_iteration other) fun iteration ↦
      alike_insertPairs receiver removals _ table iteration

theorem alike_takenEntry (receiver : Value) (table : Table) (removals : List Nat) (key : Key) :
    Alike numbering ( takeEntry? receiver table removals key)
      ( takeEntry? (rename numbering receiver) (rename numbering table) removals
        (rename numbering key)) := by
  unfold takeEntry?
  rw [Table.find?_rename, Table.place?_rename]
  cases table.find? key with
  | none => exact alike_pure none
  | some value =>
    cases table.place? key with
    | none => exact alike_pure none
    | some place =>
      dsimp only [rename_some]
      rw [← Table.rename_erase]
      exact alike_bind (alike_store receiver (.table _ _)) fun _ ↦ alike_pure (some value)

/-- Tables know no other methods than those listed. -/
theorem runTable_of_not_mem {name : String} (hname : name ∉ ofTable) (receiver : Value)
    (table : Table) (removals : List Nat) (arguments : List Value) :
    runTable receiver table removals name arguments = refuse .type := by
  unfold runTable
  split <;> first | (simp [ofTable] at hname; done) | rfl

/-- The value of a key, or another one where there is none. -/
theorem alike_entryOr (table : Table) (wanted missing : Value) :
    Alike numbering (do return (table.find? (← Compute.key wanted)).getD missing : Compute Value)
      (do
        return ((rename numbering table).find?
          (← Compute.key (rename numbering wanted))).getD (rename numbering missing)) := by
  refine alike_bind (alike_key wanted) fun key ↦ alike_pure_of_eq ?_
  rw [Table.find?_rename, rename_getD]

theorem alike_setDefault (receiver : Value) (table : Table) (removals : List Nat)
    (wanted missing : Value) :
    Alike numbering
      (do
        let key ← Compute.key wanted
        match table.find? key with
        | some value => return value
        | none =>
          Compute.store receiver (.table (table.insert key wanted missing) removals)
          return missing)
      (do
        let key ← Compute.key (rename numbering wanted)
        match (rename numbering table).find? key with
        | some value => return value
        | none =>
          Compute.store (rename numbering receiver)
            (.table ((rename numbering table).insert key (rename numbering wanted)
              (rename numbering missing)) removals)
          return (rename numbering missing)) := by
  refine alike_bind (alike_key wanted) fun key ↦ ?_
  rw [Table.find?_rename]
  cases table.find? key with
  | some value => exact alike_pure value
  | none =>
    dsimp only [rename_none]
    rw [← Table.rename_insert]
    exact alike_bind (alike_store receiver (.table _ removals)) fun _ ↦ alike_pure missing

theorem alike_runTable (receiver : Value) (table : Table) (removals : List Nat) (name : String)
    (arguments : List Value) :
    Alike numbering (runTable receiver table removals name arguments)
      (runTable (rename numbering receiver) (rename numbering table) removals name
        (rename numbering arguments)) := by
  by_cases hname : name ∈ ofTable
  · simp only [ofTable, List.mem_cons, List.not_mem_nil, or_false] at hname
    have hempty : (rename numbering table).isEmpty = table.isEmpty := isEmpty_rename table
    rcases hname with rfl | rfl | rfl | rfl | rfl
    · rcases arguments with _ | ⟨wanted, _ | ⟨missing, _ | ⟨_, _⟩⟩⟩
      · exact alike_refuse _
      · exact alike_entryOr table wanted .nil
      · exact alike_entryOr table wanted missing
      · exact alike_refuse _
    · rcases arguments with _ | ⟨wanted, _ | ⟨missing, _ | ⟨_, _⟩⟩⟩
      · exact alike_refuse _
      · change Alike numbering (if _ then _ else _) (if _ then _ else _)
        rw [hempty]
        split
        · exact alike_refuse _
        · refine alike_bind (alike_key wanted) fun key ↦ ?_
          refine alike_bind (alike_takenEntry receiver table removals key) fun found ↦ ?_
          cases found with
          | none => exact alike_refuse _
          | some value => exact alike_pure value
      · change Alike numbering (if _ then _ else _) (if _ then _ else _)
        rw [hempty]
        split
        · exact alike_pure missing
        · refine alike_bind (alike_key wanted) fun key ↦ ?_
          refine alike_bind (alike_takenEntry receiver table removals key) fun found ↦ ?_
          exact alike_pure_of_eq (rename_getD found missing).symm
      · exact alike_refuse _
    · rcases arguments with _ | ⟨wanted, _ | ⟨missing, _ | ⟨_, _⟩⟩⟩
      · exact alike_refuse _
      · exact alike_setDefault receiver table removals wanted .nil
      · exact alike_setDefault receiver table removals wanted missing
      · exact alike_refuse _
    · rcases arguments with _ | ⟨other, _ | ⟨_, _⟩⟩
      · exact alike_pure Value.nil
      · exact alike_bind (alike_updateTable receiver table removals other) fun _ ↦
          alike_pure Value.nil
      · exact alike_refuse _
    · rcases arguments with _ | ⟨_, _⟩
      · exact alike_newTable table
      · exact alike_refuse _
  · rw [runTable_of_not_mem hname, runTable_of_not_mem hname]
    exact alike_refuse _

theorem alike_fileBlock (table block : Value) :
    Alike numbering (fileBlock table block)
      (fileBlock (rename numbering table) (rename numbering block)) := by
  refine alike_bind (alike_cell? table) fun found ↦ ?_
  match found with
  | some (.table entries removals) =>
    refine alike_bind (alike_key (Value.ofText "block")) fun key ↦ ?_
    rw [← Value.rename_ofText, ← Table.rename_insert]
    exact alike_store table (.table _ removals)
  | some (.list _) | some (.queue _ _) | some (.buffer _) | some (.object _ _ _) | none =>
    exact alike_refuse _

/-! ### Attributes and methods -/

end Member

/-- What reading an attribute gives, under other addresses. -/
def Attribute.renamed (numbering : Numbering) : Attribute → Attribute
  | value found => value (rename numbering found)
  | method receiver name => method (rename numbering receiver) name
  | trap failure => trap (rename numbering failure)
  | found => found

instance : Renamable Attribute := ⟨Attribute.renamed⟩

@[simp] theorem Attribute.rename_value (found : Value) :
    rename numbering (Attribute.value found) = .value (rename numbering found) := rfl

@[simp] theorem Attribute.rename_absent : rename numbering Attribute.absent = .absent := rfl

namespace Member

theorem rename_integerField (real : Value) (name : String) :
    rename numbering (integerField real name) = integerField (rename numbering real) name := by
  unfold integerField
  split
  · rfl
  · split
    · rfl
    · split <;> rfl

theorem fieldOf_rename {left right : Memory} (hmirrors : numbering.Mirrors left right)
    (receiver : Value) (name : String) :
    fieldOf right (rename numbering receiver) name = rename numbering (fieldOf left receiver name) := by
  cases receiver with
  | int i mark => exact (rename_integerField (.int i mark) name).symm
  | bool b => exact (rename_integerField (.ofInt _) name).symm
  | float x mark | regexp pattern | hostClass className | range first last exclusive mark =>
    simp only [fieldOf, Value.rename_float, Value.rename_regexp, Value.rename_hostClass,
      Value.rename_range]
    split_ifs <;> rfl
  | progression start stop step mark =>
    simp only [fieldOf, Value.rename_progression]
    split_ifs <;> simp
  | node tag children mark =>
    have htuple : rename numbering (Value.tuple (Value.childrenOf mark children) mark.together) =
        Value.tuple (Value.childrenOf mark children) mark.together := by simp
    simp only [fieldOf, Value.rename_node]
    split_ifs
    · simp
    · rfl
    · rw [Attribute.rename_value, htuple]
    · rfl
  | closure index =>
    simp only [fieldOf, Value.rename_closure, hmirrors.closure?]
    cases left.closure? index with
    | none => rfl
    | some closure =>
      cases closure with
      | symbolProc method node => rfl
      | block parameters body chain =>
        simp only [rename_some, Closure.rename_block]
        split_ifs <;> first | rfl | simp
  | tuple items mark =>
    rw [Value.rename_tuple]
    rfl
  | _ => rfl

theorem leadsInside_rename {left right : Memory} (hmirrors : numbering.Mirrors left right)
    (receiver : Value) (name : String) :
    leadsInside right (rename numbering receiver) name = leadsInside left receiver name := by
  cases receiver with
  | closure index =>
    have hkind : right.kindName (.closure index) = left.kindName (.closure index) :=
      hmirrors.kindName (.closure index)
    rw [Value.rename_closure, leadsInside, leadsInside, hkind]
  | tuple items mark =>
    rw [Value.rename_tuple]
    rfl
  | _ => rfl

theorem orInner_rename {left right : Memory} (hmirrors : numbering.Mirrors left right)
    (receiver : Value) (name : String) (found : Attribute) :
    orInner right (rename numbering receiver) name (rename numbering found) =
      rename numbering (orInner left receiver name found) := by
  cases found with
  | absent =>
    rw [Attribute.rename_absent, orInner, orInner, leadsInside_rename hmirrors]
    split <;> rfl
  | _ => rfl

/-- The attributes of a value do not depend on addresses. -/
theorem attributeOf_rename {left right : Memory} (hmirrors : numbering.Mirrors left right)
    (receiver : Value) (name : String) :
    attributeOf right (rename numbering receiver) name =
      rename numbering (attributeOf left receiver name) := by
  unfold attributeOf
  rw [hmirrors.kindName]
  dsimp only
  split_ifs
  · rfl
  · rfl
  · rw [fieldOf_rename hmirrors, orInner_rename hmirrors]

theorem alike_runTuple (items : List Value) (name : String) (arguments : List Value) :
    Alike numbering (runTuple items name arguments)
      (runTuple (rename numbering items) name (rename numbering arguments)) := by
  by_cases hname : name ∈ ["index", "count"]
  · simp only [List.mem_cons, List.not_mem_nil, or_false] at hname
    rcases hname with rfl | rfl
    · match arguments with
      | wanted :: bounds => exact alike_indexOf items wanted bounds
      | [] => exact alike_refuse _
    · match arguments with
      | [wanted] => exact alike_count wanted items
      | [] | _ :: _ :: _ => exact alike_refuse _
  · have hother (items arguments : List Value) : runTuple items name arguments = refuse .type := by
      unfold runTuple
      split <;> first | (simp at hname; done) | rfl
    rw [hother, hother]
    exact alike_refuse _

theorem alike_runProgression (start stop step : Int) (name : String) (arguments : List Value) :
    Alike numbering (runProgression start stop step name arguments)
      (runProgression start stop step name (rename numbering arguments)) := by
  have hplace (wanted : Value) : placeInProgression start stop step (rename numbering wanted) =
      placeInProgression start stop step wanted := by
    rw [placeInProgression, placeInProgression, Value.number?_rename]
  by_cases hname : name ∈ ["index", "count"]
  · simp only [List.mem_cons, List.not_mem_nil, or_false] at hname
    rcases hname with rfl | rfl
    · match arguments with
      | [wanted] =>
        change Alike numbering (placeOr _ _) (placeOr _ _)
        rw [hplace]
        exact alike_placeOr (alike_refuse _) _
      | [] | _ :: _ :: _ => exact alike_refuse _
    · match arguments with
      | [wanted] =>
        refine alike_pure_of_eq ?_
        rw [hplace]
        rfl
      | [] | _ :: _ :: _ => exact alike_refuse _
  · have hother (arguments : List Value) :
        runProgression start stop step name arguments = refuse .type := by
      unfold runProgression
      split <;> first | (simp at hname; done) | rfl
    rw [hother, hother]
    exact alike_refuse _

theorem alike_runSole (receiver : Value) (name : String) (arguments : List Value) :
    Alike numbering (runSole receiver name arguments)
      (runSole (rename numbering receiver) name (rename numbering arguments)) := by
  by_cases hname : name ∈ ["bit_length", "is_integer", "to_list", "to_sexp_array"]
  · have hrefused (receiver argument : Value) (rest : List Value) :
        runSole receiver name (argument :: rest) = refuse .type := by
      unfold runSole
      split <;> first | contradiction | rfl
    match arguments with
    | argument :: rest =>
      rw [rename_cons, hrefused, hrefused]
      exact alike_refuse _
    | [] =>
      rw [rename_nil]
      simp only [List.mem_cons, List.not_mem_nil, or_false] at hname
      cases receiver with
      | int i mark => rcases hname with rfl | rfl | rfl | rfl <;> first
          | exact alike_newCount _
          | exact alike_refuse _
      | bool b => rcases hname with rfl | rfl | rfl | rfl <;> first
          | exact alike_pure (Value.ofInt _)
          | exact alike_refuse _
      | float x mark => rcases hname with rfl | rfl | rfl | rfl <;> first
          | exact alike_pure (Value.bool _)
          | exact alike_refuse _
      | range first last exclusive mark => rcases hname with rfl | rfl | rfl | rfl <;> first
          | exact alike_bind (Value.alike_enumerate first last exclusive) alike_newList
          | exact alike_refuse _
      | node tag children mark => rcases hname with rfl | rfl | rfl | rfl <;> first
          | exact (Tree.node tag children).alike_spelled mark
          | exact alike_refuse _
      | tuple items mark =>
        rw [Value.rename_tuple]
        exact alike_refuse _
      | _ => exact alike_refuse _
  · have hother (receiver : Value) (arguments : List Value) :
        runSole receiver name arguments = refuse .type := by
      unfold runSole
      split <;> first | (simp at hname; done) | rfl
    rw [hother, hother]
    exact alike_refuse _

/-- A method does the same with a renamed receiver and renamed arguments. -/
theorem alike_run (receiver : Value) (name : String) (arguments : List Value) :
    Alike numbering (run receiver name arguments)
      (run (rename numbering receiver) name (rename numbering arguments)) := by
  have hsole : Alike numbering (runSole receiver name arguments)
      (runSole (rename numbering receiver) name (rename numbering arguments)) :=
    alike_runSole receiver name arguments
  cases receiver with
  | text s mark => exact alike_runText (.text s mark) s name arguments
  | symbol s mark => exact alike_runText (.symbol s mark) s name arguments
  | bytes data mark => exact alike_runBytes (.bytes data mark) data name arguments
  | tuple items mark =>
    rw [Value.rename_tuple]
    exact alike_runTuple items name arguments
  | progression start stop step mark => exact alike_runProgression start stop step name arguments
  | cell address =>
    refine alike_bind (alike_cell? (.cell address)) fun found ↦ ?_
    match found with
    | some (.list items) => exact alike_runList (.cell address) items name arguments
    | some (.queue items revision) =>
      exact alike_runItems (.cell address) (.queue items revision) items name arguments
    | some (.table table removals) =>
      exact alike_runTable (.cell address) table removals name arguments
    | some (.buffer data) => exact alike_runBuffer (.cell address) data name arguments
    | some (.object _ _ _) | none => exact alike_refuse _
  | _ => exact hsole

theorem alike_runWith (receiver : Value) (name : String) (arguments : List Value)
    (block : Option Value) :
    Alike numbering (runWith receiver name arguments block)
      (runWith (rename numbering receiver) name (rename numbering arguments)
        (rename numbering block)) := by
  cases block with
  | none => exact alike_run receiver name arguments
  | some given =>
    refine alike_bind (alike_cell? receiver) fun found ↦ ?_
    by_cases hname : name = "update"
    · subst hname
      match found with
      | some (.table entries removals) =>
        refine alike_bind (alike_run receiver "update" arguments) fun result ↦ ?_
        exact alike_bind (alike_fileBlock receiver given) fun _ ↦ alike_pure result
      | some (.list _) | some (.queue _ _) | some (.buffer _) | some (.object _ _ _) | none =>
        exact alike_refuse _
    · split
      · contradiction
      · split
        · contradiction
        · exact alike_refuse _

end Member

/-! ### Classes of plain values -/

namespace Builder

open Member

theorem alike_bytesOf (value : Value) :
    Alike numbering (bytesOf value) (bytesOf (rename numbering value)) := by
  unfold bytesOf
  rw [Value.text?_rename, Value.integer?_rename]
  cases value.text? with
  | some s => exact alike_refuse _
  | none =>
    cases value.integer? with
    | none => exact alike_addedBytes value
    | some count =>
      dsimp only
      split_ifs
      · exact alike_refuse _
      · exact alike_refuse _
      · exact alike_pure_of_eq (by simp)

theorem alike_encoded (value : Value) (names : List Value) :
    Alike numbering (encoded value names)
      (encoded (rename numbering value) (rename numbering names)) := by
  refine alike_bind (alike_mapM alike_textArgument names) fun read ↦ ?_
  have hwritten (charset remedy s : String) : Alike numbering
      (Compute.ofExcept (Charset.write charset remedy s))
      (Compute.ofExcept (Charset.write charset remedy s)) := by
    cases hended : Charset.write charset remedy s with
    | ok data => exact alike_pure_of_eq (rename_list_of_addressless data).symm
    | error cause =>
      obtain ⟨kind, rfl⟩ := Charset.failsPlainly_write charset remedy s cause hended
      exact alike_refuse kind
  rw [rename_lists_of_addressless, Value.text?_rename]
  cases value.text? with
  | none =>
    match read with
    | [] | [_] | [_, _] | _ :: _ :: _ :: _ => exact alike_refuse _
  | some s =>
    match read with
    | [charset] => exact hwritten _ _ s
    | [charset, remedy] => exact hwritten _ _ s
    | [] | _ :: _ :: _ :: _ => exact alike_refuse _

theorem alike_decoded (value : Value) (names : List Value) :
    Alike numbering (decoded value names)
      (decoded (rename numbering value) (rename numbering names)) := by
  refine alike_bind (alike_mapM alike_textArgument names) fun read ↦ ?_
  apply alike_get
  intro left right hmirrors
  rw [rename_lists_of_addressless, hmirrors.bytes?]
  cases left.bytes? value with
  | none =>
    match read with
    | [] | [_] | [_, _] | _ :: _ :: _ :: _ => exact alike_refuse _
  | some data =>
    match read with
    | [charset] => exact alike_ofPlain (Charset.failsPlainly_read _ _ data)
    | [charset, remedy] => exact alike_ofPlain (Charset.failsPlainly_read _ _ data)
    | [] | _ :: _ :: _ :: _ => exact alike_refuse _

theorem alike_numeral? (value : Value) :
    Alike numbering (numeral? value) (numeral? (rename numbering value)) := by
  apply alike_get
  intro left right hmirrors
  rw [Value.text?_rename, hmirrors.bytes?]
  cases value.text? with
  | some s => exact alike_pure (some s)
  | none =>
    cases left.bytes? value with
    | none => exact alike_pure none
    | some data =>
      dsimp only
      split
      · exact alike_pure (some _)
      · exact alike_refuse _

theorem alike_fromNumeral {α : Type} (value : Value) (read : String → Option α)
    {use : α → Compute Value} (huse : ∀ result, Alike numbering (use result) (use result)) :
    Alike numbering (fromNumeral value read use) (fromNumeral (rename numbering value) read use) := by
  refine alike_bind (alike_numeral? value) fun found ↦ ?_
  cases found with
  | none => exact alike_refuse _
  | some s =>
    dsimp only [rename_some, rename_of_addressless]
    cases read s with
    | none => exact alike_refuse _
    | some result => exact huse result

theorem alike_asInteger (value : Value) :
    Alike numbering (asInteger value) (asInteger (rename numbering value)) := by
  have hnumeral : Alike numbering (fromNumeral value Numeral.int? newInt)
      (fromNumeral (rename numbering value) Numeral.int? newInt) :=
    alike_fromNumeral value _ alike_newInt
  have hcut (number : Number) : Alike numbering
      (do Compute.newInt (← Compute.ofExcept number.truncate))
      (do Compute.newInt (← Compute.ofExcept number.truncate)) :=
    alike_bind (alike_ofPlain number.failsPlainly_truncate) alike_newInt
  cases value with
  | int i mark => exact alike_pure (Value.int i mark)
  | bool b => exact hcut _
  | float x mark => exact hcut _
  | tuple items mark =>
    rw [Value.rename_tuple] at hnumeral ⊢
    exact hnumeral
  | _ => exact hnumeral

theorem alike_integerTo (value base : Value) :
    Alike numbering (integerTo value base)
      (integerTo (rename numbering value) (rename numbering base)) := by
  refine alike_bind (alike_integerArgument base) fun b ↦ ?_
  rw [rename_of_addressless]
  split
  · exact alike_refuse _
  · exact alike_fromNumeral value _ alike_newInt

theorem alike_asFloat (value : Value) :
    Alike numbering (asFloat value) (asFloat (rename numbering value)) := by
  have hnumeral : Alike numbering (fromNumeral value Numeral.float? newFloat)
      (fromNumeral (rename numbering value) Numeral.float? newFloat) :=
    alike_fromNumeral value _ alike_newFloat
  have hrounded (number : Number) : Alike numbering
      (do Compute.newFloat (← Compute.ofExcept number.toBinary64))
      (do Compute.newFloat (← Compute.ofExcept number.toBinary64)) :=
    alike_bind (alike_ofPlain number.failsPlainly_toBinary64) alike_newFloat
  cases value with
  | float x mark => exact alike_pure (Value.float x mark)
  | bool b => exact hrounded _
  | int i mark => exact hrounded _
  | tuple items mark =>
    rw [Value.rename_tuple] at hnumeral ⊢
    exact hnumeral
  | _ => exact hnumeral

theorem alike_stepped (start stop step : Value) :
    Alike numbering (stepped start stop step)
      (stepped (rename numbering start) (rename numbering stop) (rename numbering step)) := by
  refine alike_bind (alike_integerArgument start) fun first ↦ ?_
  refine alike_bind (alike_integerArgument stop) fun last ↦ ?_
  refine alike_bind (alike_integerArgument step) fun distance ↦ ?_
  simp only [rename_of_addressless]
  split
  · exact alike_refuse _
  · exact alike_newProgression _ _ _

theorem alike_asTuple (value : Value) :
    Alike numbering (asTuple value) (asTuple (rename numbering value)) := by
  have hlisted : Alike numbering (do Compute.newTuple (← value.items))
      (do Compute.newTuple (← (rename numbering value).items)) :=
    alike_bind (Value.alike_items value) alike_newTuple
  cases value with
  | tuple items mark =>
    rw [Value.rename_tuple]
    exact alike_pure_of_eq (Value.rename_tuple items mark).symm
  | _ => exact hlisted

theorem alike_asBytes (value : Value) :
    Alike numbering (asBytes value) (asBytes (rename numbering value)) := by
  have hasked : Alike numbering (do Compute.newBytePart (← bytesOf value))
      (do Compute.newBytePart (← bytesOf (rename numbering value))) := by
    refine alike_bind (alike_bytesOf value) fun data ↦ ?_
    rw [rename_list_of_addressless]
    exact alike_newBytePart data
  cases value with
  | bytes data mark => exact alike_pure (Value.bytes data mark)
  | tuple items mark =>
    rw [Value.rename_tuple] at hasked ⊢
    exact hasked
  | _ => exact hasked

theorem alike_child (value : Value) :
    Alike numbering (child value) (child (rename numbering value)) := by
  cases value with
  | nil | bool b | int i mark | float x mark | text s mark | symbol s mark
  | node tag children mark => exact alike_pure (_ : Tree)
  | tuple items mark =>
    rw [Value.rename_tuple]
    exact alike_refuse _
  | _ => exact alike_refuse _

theorem alike_newNode (tag : Value) (children : List Value) :
    Alike numbering (newNode tag children)
      (newNode (rename numbering tag) (rename numbering children)) := by
  refine alike_bind (alike_plain tag) fun text ↦ ?_
  refine alike_bind (alike_mapM alike_child children) fun trees ↦ ?_
  rw [rename_list_of_addressless]
  exact alike_bind alike_mint fun mark ↦ alike_pure (Value.node text trees mark)

/-- The classes of plain values that build something. -/
def builtClasses : List String :=
  ["NoneType", "type", "bool", "int", "float", "str", "Symbol", "tuple", "list", "deque", "dict",
    "bytes", "bytearray", "Range", "range", "Node"]

theorem build_of_not_mem {className : String} (hclass : className ∉ builtClasses)
    (arguments : List Value) : build className arguments = refuse .type := by
  unfold build
  split <;> first | (simp [builtClasses] at hclass; done) | rfl

theorem alike_build (className : String) (arguments : List Value) :
    Alike numbering (build className arguments) (build className (rename numbering arguments)) := by
  by_cases hclass : className ∈ builtClasses
  · simp only [builtClasses, List.mem_cons, List.not_mem_nil, or_false] at hclass
    have hdecoded {use : String → Compute Value} (huse : ∀ s, Alike numbering (use s) (use s))
        (value : Value) (names : List Value) : Alike numbering (do use (← decoded value names))
          (do use (← decoded (rename numbering value) (rename numbering names))) :=
      alike_bind (alike_decoded value names) huse
    rcases hclass with rfl | rfl | rfl | rfl | rfl | rfl | rfl | rfl | rfl | rfl | rfl | rfl | rfl |
      rfl | rfl | rfl
    · rcases arguments with _ | ⟨_, _⟩
      · exact alike_pure Value.nil
      · exact alike_refuse _
    · rcases arguments with _ | ⟨value, _ | ⟨_, _⟩⟩
      · exact alike_refuse _
      · exact alike_get fun left right hmirrors ↦ alike_pure_of_eq (by rw [hmirrors.kindName]; rfl)
      · exact alike_refuse _
    · rcases arguments with _ | ⟨value, _ | ⟨_, _⟩⟩
      · exact alike_pure (Value.bool false)
      · exact alike_get fun left right hmirrors ↦ alike_pure_of_eq (by rw [hmirrors.isGranted]; rfl)
      · exact alike_refuse _
    · rcases arguments with _ | ⟨value, _ | ⟨base, _ | ⟨_, _⟩⟩⟩
      · exact alike_pure (Value.ofInt 0)
      · exact alike_asInteger value
      · exact alike_integerTo value base
      · exact alike_refuse _
    · rcases arguments with _ | ⟨value, _ | ⟨_, _⟩⟩
      · exact alike_newFloat _
      · exact alike_asFloat value
      · exact alike_refuse _
    · rcases arguments with _ | ⟨value, _ | ⟨name, names⟩⟩
      · exact alike_pure (Value.ofText "")
      · exact alike_asText value
      · exact hdecoded alike_newPart value (name :: names)
    · rcases arguments with _ | ⟨value, _ | ⟨name, names⟩⟩
      · exact alike_newSymbol ""
      · exact alike_bind (alike_plain value) alike_newSymbol
      · exact hdecoded alike_newSymbol value (name :: names)
    · rcases arguments with _ | ⟨value, _ | ⟨_, _⟩⟩
      · exact alike_newTuple []
      · exact alike_asTuple value
      · exact alike_refuse _
    · rcases arguments with _ | ⟨value, _ | ⟨_, _⟩⟩
      · exact alike_newList []
      · exact alike_bind (Value.alike_items value) alike_newList
      · exact alike_refuse _
    · have hqueue (items : List Value) :
          Alike numbering (allocate (.queue items 0)) (allocate (.queue (rename numbering items) 0)) :=
        alike_allocate (.queue items 0)
      rcases arguments with _ | ⟨value, _ | ⟨longest, _ | ⟨_, _⟩⟩⟩
      · exact hqueue []
      · exact alike_bind (Value.alike_items value) hqueue
      · cases longest with
        | nil => exact alike_bind (Value.alike_items value) hqueue
        | tuple items mark =>
          rw [rename_cons, rename_cons, Value.rename_tuple]
          exact alike_refuse _
        | _ => exact alike_refuse _
      · cases longest <;> exact alike_refuse _
    · rcases arguments with _ | ⟨value, _ | ⟨_, _⟩⟩
      · exact alike_newTable []
      · refine alike_bind (alike_newTable []) fun table ↦ ?_
        exact alike_bind (alike_updateTable table [] [] value) fun _ ↦ alike_pure table
      · exact alike_refuse _
    · rcases arguments with _ | ⟨value, _ | ⟨name, names⟩⟩
      · exact alike_pure (Value.bytes [] .common)
      · exact alike_asBytes value
      · refine alike_bind (alike_encoded value (name :: names)) fun data ↦ ?_
        rw [rename_list_of_addressless]
        exact alike_newBytePart data
    · rcases arguments with _ | ⟨value, _ | ⟨name, names⟩⟩
      · exact alike_allocate (.buffer [])
      · refine alike_bind (alike_bytesOf value) fun data ↦ ?_
        rw [rename_list_of_addressless]
        exact alike_allocate (.buffer data)
      · refine alike_bind (alike_encoded value (name :: names)) fun data ↦ ?_
        rw [rename_list_of_addressless]
        exact alike_allocate (.buffer data)
    · rcases arguments with _ | ⟨first, _ | ⟨last, _ | ⟨exclusive, _ | ⟨_, _⟩⟩⟩⟩
      · exact alike_refuse _
      · exact alike_refuse _
      · exact alike_newRange first last false
      · apply alike_get
        intro left right hmirrors
        rw [hmirrors.isGranted]
        exact alike_newRange first last _
      · exact alike_refuse _
    · rcases arguments with _ | ⟨start, _ | ⟨stop, _ | ⟨step, _ | ⟨_, _⟩⟩⟩⟩
      · exact alike_refuse _
      · exact alike_bind (alike_integerArgument start) fun i ↦ alike_newProgression 0 i 1
      · exact alike_stepped start stop (.ofInt 1)
      · exact alike_stepped start stop step
      · exact alike_refuse _
    · rcases arguments with _ | ⟨tag, _ | ⟨children, _ | ⟨_, _⟩⟩⟩
      · exact alike_refuse _
      · exact alike_newNode tag []
      · exact alike_bind (Value.alike_items children) (alike_newNode tag)
      · exact alike_refuse _
  · rw [build_of_not_mem hclass, build_of_not_mem hclass]
    exact alike_refuse _

theorem alike_buildWith (className : String) (arguments : List Value) (block : Option Value) :
    Alike numbering (buildWith className arguments block)
      (buildWith className (rename numbering arguments) (rename numbering block)) := by
  cases block with
  | none => exact alike_build className arguments
  | some given =>
    change Alike numbering (if _ then _ else _) (if _ then _ else _)
    split
    · refine alike_bind (alike_build className arguments) fun table ↦ ?_
      exact alike_bind (alike_fileBlock table given) fun _ ↦ alike_pure table
    · exact alike_refuse _

end Builder

end Treewalk
