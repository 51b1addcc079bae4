import Treewalk.Charset
import Treewalk.Operator
import Treewalk.Proofs.AlikeComputations

/-!
Operators on memories that are numbered differently. An operator does alike on both sides: what it
joins, repeats, formats, compares and looks up is the same under other addresses, and arithmetic fails
for reasons of the platform, which name no address (`FailsPlainly`).
-/

set_option autoImplicit false
set_option relaxedAutoImplicit false

namespace Treewalk

open Compute

variable {numbering : Numbering}

/-! ### Pure steps -/

/-- Whether a pure step fails, if it does, for a reason of the platform. -/
def FailsPlainly {α : Type} (ended : Except Cause α) : Prop :=
  ∀ cause, ended = .error cause → ∃ kind, cause = .plain kind

namespace FailsPlainly

variable {α β : Type}

theorem ok (result : α) : FailsPlainly (.ok result) := nofun

theorem error (kind : Kind) : FailsPlainly (.error (.plain kind) : Except Cause α) := by
  rintro cause ⟨⟩
  exact ⟨kind, rfl⟩

theorem bind {ended : Except Cause α} {after : α → Except Cause β} (hended : FailsPlainly ended)
    (hafter : ∀ result, FailsPlainly (after result)) : FailsPlainly (ended >>= after) := by
  cases ended with
  | error cause =>
    obtain ⟨kind, rfl⟩ := hended cause rfl
    exact error kind
  | ok result => exact hafter result

theorem map {ended : Except Cause α} (f : α → β) (hended : FailsPlainly ended) :
    FailsPlainly (ended.map f) := by
  cases ended with
  | error cause =>
    obtain ⟨kind, rfl⟩ := hended cause rfl
    exact error kind
  | ok result => exact ok (f result)

end FailsPlainly

namespace Number

open FailsPlainly

theorem failsPlainly_toBinary64 (number : Number) : FailsPlainly number.toBinary64 := by
  cases number with
  | int i =>
    simp only [toBinary64]
    cases Binary64.ofInt? i with
    | some x => exact ok x
    | none => exact error _
  | float x => exact ok x

theorem failsPlainly_lift (operation : Binary64 → Binary64 → Binary64) (a b : Number) :
    FailsPlainly (lift operation a b) :=
  bind (failsPlainly_toBinary64 a) fun _ ↦ bind (failsPlainly_toBinary64 b) fun _ ↦ ok _

theorem failsPlainly_add (a b : Number) : FailsPlainly (add a b) := by
  unfold add
  split
  · exact ok _
  · exact failsPlainly_lift _ a b

theorem failsPlainly_sub (a b : Number) : FailsPlainly (sub a b) := by
  unfold sub
  split
  · exact ok _
  · exact failsPlainly_lift _ a b

theorem failsPlainly_mul (a b : Number) : FailsPlainly (mul a b) := by
  unfold mul
  split
  · exact ok _
  · exact failsPlainly_lift _ a b

/-- Both operands are rounded, and a divisor that is zero is refused. -/
theorem failsPlainly_rounded {α : Type} (a b : Number) (isRefused : Binary64 → Bool)
    (result : Binary64 → Binary64 → α) :
    FailsPlainly (do
      let x ← a.toBinary64
      let y ← b.toBinary64
      if isRefused y then .error (.plain .division) else .ok (result x y)) := by
  refine bind (failsPlainly_toBinary64 a) fun x ↦ bind (failsPlainly_toBinary64 b) fun y ↦ ?_
  split
  · exact error _
  · exact ok _

theorem failsPlainly_div (a b : Number) : FailsPlainly (div a b) := by
  unfold div
  split
  · split
    · exact error _
    · split
      · exact ok _
      · exact error _
  · exact failsPlainly_rounded a b Binary64.isZero fun x y ↦ float (x.div y)

theorem failsPlainly_mod (a b : Number) : FailsPlainly (mod a b) := by
  unfold mod
  split
  · split
    · exact error _
    · exact ok _
  · exact failsPlainly_rounded a b Binary64.isZero fun x y ↦ float (x.mod y)

theorem failsPlainly_floatPow (x y : Binary64) : FailsPlainly (floatPow x y) := by
  unfold floatPow
  dsimp only
  split_ifs <;> first | exact error _ | exact ok _

theorem failsPlainly_pow (a b : Number) : FailsPlainly (pow a b) := by
  have hrounded (a b : Number) :
      FailsPlainly (do floatPow (← a.toBinary64) (← b.toBinary64)) :=
    bind (failsPlainly_toBinary64 a) fun x ↦ bind (failsPlainly_toBinary64 b) fun y ↦
      failsPlainly_floatPow x y
  unfold pow
  split
  · split
    · exact ok _
    · exact hrounded _ _
  · exact hrounded a b

theorem failsPlainly_shiftLeft (i j : Int) : FailsPlainly (shiftLeft i j) := by
  unfold shiftLeft
  split_ifs <;> first | exact error _ | exact ok _

theorem failsPlainly_shiftRight (i j : Int) : FailsPlainly (shiftRight i j) := by
  unfold shiftRight
  split_ifs <;> first | exact error _ | exact ok _

theorem failsPlainly_truncate (number : Number) : FailsPlainly number.truncate := by
  cases number with
  | int i => exact ok i
  | float x =>
    unfold truncate
    dsimp only
    split_ifs <;> first | exact error _ | exact ok _

end Number

namespace Charset

open FailsPlainly

theorem failsPlainly_remedied {α : Type} (failure : Kind) (substitute : α) (remedy : String)
    (parts : List (Option α)) : FailsPlainly (remedied failure substitute remedy parts) := by
  unfold remedied
  split
  · exact ok _
  · split <;> first | exact error _ | exact ok _

theorem failsPlainly_read (charset remedy : String) (data : List UInt8) :
    FailsPlainly (read charset remedy data) := by
  unfold read
  split
  · exact ok _
  · split
    · exact (failsPlainly_remedied _ _ _ _).map _
    · exact error _

theorem failsPlainly_write (charset remedy s : String) : FailsPlainly (write charset remedy s) := by
  unfold write
  split
  · exact (failsPlainly_remedied _ _ _ _).map _
  · exact error _

end Charset

/-- A pure step that fails for reasons of the platform only is the same on both sides. -/
theorem Compute.alike_ofPlain {α : Type} [Addressless α] {ended : Except Cause α}
    (hended : FailsPlainly ended) : Alike numbering (ofExcept ended) (ofExcept ended) := by
  cases ended with
  | ok result => exact alike_pure result
  | error cause =>
    obtain ⟨kind, rfl⟩ := hended cause rfl
    exact alike_refuse kind

/-! ### Formatting of texts -/

namespace Format

instance : Renamable Arguments :=
  ⟨fun numbering arguments ↦ { arguments with rest := rename numbering arguments.rest }⟩

@[simp] theorem rename_arguments (rest : List Value) (optional : Bool) :
    rename numbering (Arguments.mk rest optional) = ⟨rename numbering rest, optional⟩ := rfl

theorem alike_directive (letter : Char) (argument : Value) :
    Alike numbering (directive letter argument) (directive letter (rename numbering argument)) := by
  unfold directive
  split
  · exact alike_plain argument
  · split
    · refine alike_bind (alike_view argument) fun datum ↦ ?_
      rw [Datum.literal_rename]
      exact alike_ofPrinted datum.literal
    · split
      · rw [Value.number?_rename]
        cases argument.number? with
        | none => exact alike_refuse _
        | some number =>
          exact alike_bind (alike_ofPlain number.failsPlainly_truncate) fun i ↦
            alike_ofPrinted (writtenInt i)
      · exact alike_refuse _

theorem alike_byteDirective (letter : Char) (argument : Value) :
    Alike numbering (byteDirective letter argument)
      (byteDirective letter (rename numbering argument)) := by
  unfold byteDirective
  split
  · apply alike_get
    intro left right hmirrors
    rw [hmirrors.bytes?]
    cases left.bytes? argument with
    | none => exact alike_refuse _
    | some data => exact alike_pure (String.ofList (Charset.latin1.decode data))
  · split
    · exact alike_directive letter argument
    · exact alike_refuse _

theorem alike_run {directive : Char → Value → Compute String}
    (hdirective : ∀ letter argument,
      Alike numbering (directive letter argument) (directive letter (rename numbering argument)))
    (text : List Char) (arguments : Arguments) :
    Alike numbering (run directive text arguments)
      (run directive text (rename numbering arguments)) := by
  fun_induction run directive text arguments with
  | case1 arguments hrest =>
    have hused : ((rename numbering arguments).rest.isEmpty ||
        (rename numbering arguments).optional) = true := by
      rw [← hrest]
      exact congrArg (· || arguments.optional) (isEmpty_rename arguments.rest)
    rw [run, if_pos hused]
    exact alike_pure []
  | case2 arguments hrest =>
    have hused : ((rename numbering arguments).rest.isEmpty ||
        (rename numbering arguments).optional) ≠ true := by
      intro hused
      apply hrest
      rw [← hused]
      exact congrArg (· || arguments.optional) (isEmpty_rename arguments.rest).symm
    rw [run, if_neg hused]
    exact alike_refuse _
  | case3 => exact alike_refuse _
  | case4 rest arguments ih =>
    rw [run, if_pos rfl]
    exact alike_bind ih fun others ↦ alike_pure ('%' :: others)
  | case5 letter rest arguments hletter hrest =>
    have hnone : (rename numbering arguments).rest = [] := by
      change rename numbering arguments.rest = []
      rw [hrest, rename_nil]
    rw [run, if_neg hletter, hnone]
    exact alike_refuse _
  | case6 letter rest arguments hletter argument remaining hrest ih =>
    have hsome : (rename numbering arguments).rest =
        rename numbering argument :: rename numbering remaining := by
      change rename numbering arguments.rest = _
      rw [hrest, rename_cons]
    rw [run, if_neg hletter, hsome]
    exact alike_bind (hdirective letter argument) fun put ↦
      alike_bind ih fun others ↦ alike_pure_of_eq (by simp)
  | case7 c rest arguments hlast hmore ih =>
    rw [run]
    · exact alike_bind ih fun others ↦ alike_pure_of_eq (by simp)
    · exact hlast
    · exact hmore

theorem alike_arguments (value : Value) :
    Alike numbering (arguments value) (arguments (rename numbering value)) := by
  cases value with
  | tuple items mark =>
    rw [Value.rename_tuple]
    exact alike_pure (Arguments.mk items false)
  | node tag children mark => exact alike_pure (Arguments.mk [.node tag children mark] true)
  | bytes data mark => exact alike_pure (Arguments.mk [.bytes data mark] true)
  | progression start stop step mark =>
    exact alike_pure (Arguments.mk [.progression start stop step mark] true)
  | _ =>
    refine alike_bind (alike_cell? _) fun found ↦ ?_
    match found with
    | some (.list _) | some (.table _ _) | some (.buffer _) =>
      exact alike_pure (Arguments.mk [_] true)
    | some (.queue _ _) | some (.object _ _ _) | none => exact alike_pure (Arguments.mk [_] false)

theorem alike_byteArguments (value : Value) :
    Alike numbering (byteArguments value) (byteArguments (rename numbering value)) := by
  refine alike_bind (alike_arguments value) fun given ↦ ?_
  apply alike_get
  intro left right hmirrors
  rw [hmirrors.bytes?]
  exact alike_pure { given with optional := given.optional && (left.bytes? value).isNone }

end Format

/-! ### Arithmetic, joining and repeating -/

namespace Operator

theorem alike_arithmetic {operation : Number → Number → Except Cause Number}
    (hoperation : ∀ x y, FailsPlainly (operation x y)) (a b : Value) :
    Alike numbering (arithmetic operation a b)
      (arithmetic operation (rename numbering a) (rename numbering b)) := by
  unfold arithmetic
  rw [Value.number?_rename, Value.number?_rename]
  cases a.number? with
  | none => exact alike_refuse _
  | some x =>
    cases b.number? with
    | none => exact alike_refuse _
    | some y => exact alike_bind (alike_ofPlain (hoperation x y)) alike_newNumber

@[simp] theorem isEmptyText_rename (value : Value) :
    isEmptyText (rename numbering value) = isEmptyText value := by
  cases value <;> rfl

theorem alike_joinTexts (a b : Value) (s t : String) :
    Alike numbering (joinTexts a b s t)
      (joinTexts (rename numbering a) (rename numbering b) s t) := by
  unfold joinTexts
  rw [isEmptyText_rename, isEmptyText_rename]
  split_ifs
  · exact alike_asText b
  · exact alike_asText a
  · exact alike_newText _

theorem alike_joinBytes (a b : Value) (data others : List UInt8) :
    Alike numbering (joinBytes a b data others)
      (joinBytes (rename numbering a) (rename numbering b) data others) := by
  match data, others with
  | [], [] =>
    cases b with
    | bytes data mark => exact alike_pure (Value.bytes data mark)
    | tuple items mark =>
      rw [Value.rename_tuple]
      exact alike_pure a
    | _ => exact alike_pure a
  | [], other :: rest =>
    cases b with
    | bytes data mark => exact alike_pure (Value.bytes data mark)
    | tuple items mark =>
      rw [Value.rename_tuple]
      exact alike_newBytes _
    | _ => exact alike_newBytes _
  | first :: remaining, [] => exact alike_pure a
  | first :: remaining, other :: rest => exact alike_newBytes _

theorem alike_add (a b : Value) :
    Alike numbering (arithmetic Number.add a b)
      (arithmetic Number.add (rename numbering a) (rename numbering b)) :=
  alike_arithmetic Number.failsPlainly_add a b

/-- What is done with the bytes of a value, if it has any, is done with the same bytes. -/
theorem alike_onBytes (value : Value) {use use' : List UInt8 → Compute Value}
    (huse : ∀ data, Alike numbering (use data) (use' data)) :
    Alike numbering (onBytes value use) (onBytes (rename numbering value) use') := by
  apply alike_get
  intro left right hmirrors
  rw [hmirrors.bytes?]
  cases left.bytes? value with
  | none => exact alike_refuse _
  | some data => exact huse data

theorem alike_joinCells (a b : Value) :
    Alike numbering (joinCells a b) (joinCells (rename numbering a) (rename numbering b)) := by
  refine alike_bind (alike_cell? a) fun found ↦ alike_bind (alike_cell? b) fun other ↦ ?_
  match found with
  | some (.buffer data) =>
    exact alike_onBytes b fun others ↦ alike_allocate (.buffer (data ++ others))
  | some (.list items) =>
    match other with
    | some (.list others) =>
      simp only [rename_some, Cell.rename_list, ← rename_append]
      exact alike_newList _
    | some (.table _ _) | some (.queue _ _) | some (.buffer _) | some (.object _ _ _) | none =>
      exact alike_refuse _
  | some (.queue items _) =>
    match other with
    | some (.queue others _) =>
      simp only [rename_some, Cell.rename_queue, ← rename_append]
      exact alike_allocate (.queue (items ++ others) 0)
    | some (.table _ _) | some (.list _) | some (.buffer _) | some (.object _ _ _) | none =>
      exact alike_refuse _
  | some (.table _ _) | some (.object _ _ _) | none => exact alike_refuse _

theorem alike_joinSequences (a b : Value) :
    Alike numbering (joinSequences a b)
      (joinSequences (rename numbering a) (rename numbering b)) := by
  have hadd : Alike numbering (arithmetic Number.add a b)
      (arithmetic Number.add (rename numbering a) (rename numbering b)) := alike_add a b
  cases a with
  | bytes data mark => exact alike_onBytes b (alike_joinBytes (.bytes data mark) b data)
  | cell address => exact alike_joinCells (.cell address) b
  | tuple items mark =>
    cases b with
    | tuple others mark' =>
      rw [Value.rename_tuple, Value.rename_tuple]
      match items, others with
      | [], others => exact alike_pure_of_eq (Value.rename_tuple others mark').symm
      | item :: rest, [] => exact alike_pure_of_eq (Value.rename_tuple (item :: rest) mark).symm
      | item :: rest, other :: remaining =>
        rw [rename_cons, rename_cons]
        unfold joinSequences
        dsimp only
        rw [← rename_cons, ← rename_cons, ← rename_append]
        exact alike_newTuple _
    | _ =>
      rw [Value.rename_tuple]
      cases items <;> exact alike_refuse .type
  | _ => exact hadd

theorem alike_join (a b : Value) :
    Alike numbering (join a b) (join (rename numbering a) (rename numbering b)) := by
  unfold join
  rw [Value.text?_rename, Value.text?_rename]
  cases a.text? with
  | none => exact alike_joinSequences a b
  | some s =>
    cases b.text? with
    | none => exact alike_joinSequences a b
    | some t => exact alike_joinTexts a b s t

@[simp] theorem rename_repeatList {α : Type} [Renamable α] (count : Int) (items : List α) :
    rename numbering (repeatList count items) = repeatList count (rename numbering items) := by
  unfold repeatList
  rw [isEmpty_rename]
  split
  · rfl
  · simp [rename_list]

theorem alike_checkedCount (count : Int) :
    Alike numbering (checkedCount count) (checkedCount count) := by
  unfold checkedCount
  split
  · exact alike_pure count
  · exact alike_refuse _

theorem alike_repeatAtoms {α : Type} [Addressless α] (count : Int) (atoms : List α) :
    Alike numbering (repeatAtoms count atoms) (repeatAtoms count atoms) :=
  alike_bind (alike_checkedCount _) fun _ ↦ alike_pure_of_eq (by simp)

theorem alike_repeatText (value : Value) (s : String) (count : Int) :
    Alike numbering (repeatText value s count) (repeatText (rename numbering value) s count) := by
  unfold repeatText
  split
  · exact alike_asText value
  · refine alike_bind (alike_repeatAtoms _ _) fun atoms ↦ ?_
    rw [rename_list_of_addressless]
    exact alike_newText _

theorem alike_repeated (value : Value) (count : Int) :
    Alike numbering (repeated value count) (repeated (rename numbering value) count) := by
  cases value with
  | text s mark =>
    exact alike_bind (alike_checkedCount count) fun times ↦ alike_repeatText (.text s mark) s times
  | symbol s mark =>
    exact alike_bind (alike_checkedCount count) fun times ↦
      alike_repeatText (.symbol s mark) s times
  | tuple items mark =>
    rw [Value.rename_tuple]
    refine alike_bind (alike_checkedCount count) fun times ↦ ?_
    dsimp only [rename_of_addressless]
    split
    · exact alike_pure_of_eq (Value.rename_tuple items mark).symm
    · rw [← rename_repeatList]
      exact alike_newTuple _
  | bytes data mark =>
    refine alike_bind (alike_checkedCount count) fun times ↦ ?_
    dsimp only [rename_of_addressless]
    split
    · exact alike_pure (Value.bytes data mark)
    · refine alike_bind (alike_repeatAtoms _ _) fun atoms ↦ ?_
      rw [rename_list_of_addressless]
      exact alike_newBytes _
  | _ =>
    refine alike_bind (alike_cell? _) fun found ↦ ?_
    match found with
    | some (.list items) =>
      refine alike_bind (alike_checkedCount count) fun times ↦ ?_
      rw [← rename_repeatList]
      exact alike_newList _
    | some (.queue items _) =>
      refine alike_bind (alike_checkedCount count) fun times ↦ ?_
      rw [← rename_repeatList]
      exact alike_allocate (.queue (repeatList times items) 0)
    | some (.buffer data) =>
      exact alike_bind (alike_checkedCount count) fun times ↦
        alike_allocate (.buffer (repeatList times data))
    | some (.table _ _) | some (.object _ _ _) | none => exact alike_refuse _

theorem alike_repeatedEither (a b : Value) :
    Alike numbering (repeatedEither a b)
      (repeatedEither (rename numbering a) (rename numbering b)) := by
  unfold repeatedEither
  rw [Value.integer?_rename, Value.integer?_rename]
  cases a.integer? with
  | none =>
    cases b.integer? with
    | none => exact alike_refuse _
    | some count => exact alike_repeated a count
  | some count =>
    cases b.integer? with
    | none => exact alike_repeated b count
    | some other => exact alike_refuse _

theorem alike_product (a b : Value) :
    Alike numbering (product a b) (product (rename numbering a) (rename numbering b)) := by
  unfold product
  rw [Value.number?_rename, Value.number?_rename]
  cases a.number? with
  | none => exact alike_repeatedEither a b
  | some x =>
    cases b.number? with
    | none => exact alike_repeatedEither a b
    | some y => exact alike_arithmetic Number.failsPlainly_mul a b

theorem alike_formatOnly (s result : String) (argument : Value) :
    Alike numbering (formatOnly s result argument)
      (formatOnly s result (rename numbering argument)) := by
  have hwritten : Alike numbering
      (if s = "%s" then Compute.asText argument else Compute.newText result)
      (if s = "%s" then Compute.asText (rename numbering argument)
        else Compute.newText result) := by
    split
    · exact alike_asText argument
    · exact alike_newText result
  cases argument with
  | int i mark => exact alike_newPart result
  | tuple items mark =>
    rw [Value.rename_tuple] at hwritten ⊢
    exact hwritten
  | _ => exact hwritten

theorem alike_format (value : Value) (s : String) (arguments : Format.Arguments) :
    Alike numbering (format value s arguments)
      (format (rename numbering value) s (rename numbering arguments)) := by
  refine alike_bind (Format.alike_run Format.alike_directive s.toList arguments) fun written ↦ ?_
  rw [rename_list_of_addressless]
  split
  · exact alike_pure value
  · obtain ⟨given, optional⟩ := arguments
    rw [Format.rename_arguments]
    match given with
    | [argument] =>
      change Alike numbering (if _ then _ else _) (if _ then _ else _)
      split
      · exact alike_formatOnly s _ argument
      · exact alike_newPart _
    | [] | first :: second :: others => exact alike_newPart _

theorem alike_formatBytes (value : Value) (data : List UInt8) (arguments : Format.Arguments) :
    Alike numbering (formatBytes value data arguments)
      (formatBytes (rename numbering value) data (rename numbering arguments)) := by
  refine alike_bind (Format.alike_run Format.alike_byteDirective _ arguments) fun written ↦ ?_
  rw [rename_list_of_addressless]
  cases value with
  | bytes data mark => exact alike_newBytePart _
  | tuple items mark =>
    rw [Value.rename_tuple]
    exact alike_allocate (.buffer _)
  | _ => exact alike_allocate (.buffer _)

theorem alike_rest (a b : Value) :
    Alike numbering (rest a b) (rest (rename numbering a) (rename numbering b)) := by
  unfold rest
  rw [Value.text?_rename]
  cases a.text? with
  | some s => exact alike_bind (Format.alike_arguments b) (alike_format a s)
  | none =>
    apply alike_get
    intro left right hmirrors
    rw [hmirrors.bytes?]
    cases left.bytes? a with
    | some data => exact alike_bind (Format.alike_byteArguments b) (alike_formatBytes a data)
    | none => exact alike_arithmetic Number.failsPlainly_mod a b

/-! ### Bits -/

theorem alike_onIntegers {operation : Int → Int → Except Cause Int}
    (hoperation : ∀ i j, FailsPlainly (operation i j)) (a b : Value) :
    Alike numbering (onIntegers operation a b)
      (onIntegers operation (rename numbering a) (rename numbering b)) := by
  unfold onIntegers
  rw [Value.integer?_rename, Value.integer?_rename]
  cases a.integer? with
  | none => exact alike_refuse _
  | some i =>
    cases b.integer? with
    | none => exact alike_refuse _
    | some j => exact alike_bind (alike_ofPlain (hoperation i j)) alike_newInt

theorem alike_bits (operation : Bool → Bool → Bool) (a b : Value) :
    Alike numbering (bits operation a b)
      (bits operation (rename numbering a) (rename numbering b)) := by
  have hbitwise : Alike numbering
      (onIntegers (fun i j ↦ .ok (Number.bitwise operation i j)) a b)
      (onIntegers (fun i j ↦ .ok (Number.bitwise operation i j)) (rename numbering a)
        (rename numbering b)) :=
    alike_onIntegers (fun _ _ ↦ FailsPlainly.ok _) a b
  cases a with
  | bool x =>
    cases b with
    | bool y => exact alike_pure (Value.bool (operation x y))
    | tuple items mark =>
      rw [Value.rename_tuple] at hbitwise ⊢
      exact hbitwise
    | _ => exact hbitwise
  | tuple items mark =>
    rw [Value.rename_tuple] at hbitwise ⊢
    exact hbitwise
  | _ => exact hbitwise

theorem alike_union (a b : Value) :
    Alike numbering (union a b) (union (rename numbering a) (rename numbering b)) := by
  have hbits : Alike numbering (bits (fun x y ↦ x || y) a b)
      (bits (fun x y ↦ x || y) (rename numbering a) (rename numbering b)) := alike_bits _ a b
  refine alike_bind (alike_cell? a) fun found ↦ alike_bind (alike_cell? b) fun other ↦ ?_
  match found, other with
  | some (.table entries _), some (.table others _) =>
    simp only [rename_some, Cell.rename_table, ← Table.rename_merge]
    exact alike_newTable _
  | some (.table _ _), some (.list _) | some (.table _ _), some (.queue _ _)
  | some (.table _ _), some (.buffer _) | some (.table _ _), some (.object _ _ _)
  | some (.table _ _), none | some (.list _), _ | some (.queue _ _), _ | some (.buffer _), _
  | some (.object _ _ _), _ | none, _ => exact hbits

/-! ### Comparison -/

theorem alike_areEqual (a b : Value) :
    Alike numbering (areEqual a b) (areEqual (rename numbering a) (rename numbering b)) :=
  alike_get fun _ _ hmirrors ↦ alike_pure_of_eq (hmirrors.same a b)

theorem alike_ordered (relation : Relation) (a b : Value) :
    Alike numbering (ordered relation a b)
      (ordered relation (rename numbering a) (rename numbering b)) := by
  apply alike_get
  intro left right hmirrors
  rw [hmirrors.ordered?]
  cases left.ordered? relation a b with
  | none => exact alike_refuse _
  | some answer => exact alike_pure answer

theorem alike_spaceship (a b : Value) :
    Alike numbering (spaceship a b) (spaceship (rename numbering a) (rename numbering b)) := by
  apply alike_get
  intro left right hmirrors
  simp only [hmirrors.ordered?]
  cases left.ordered? .greater a b with
  | none => exact alike_pure Value.nil
  | some more =>
    cases left.ordered? .less a b with
    | none => exact alike_pure Value.nil
    | some fewer => exact alike_pure (Value.ofInt _)

/-! ### Access by index -/

theorem alike_placeAt (length : Nat) (index : Value) :
    Alike numbering (placeAt length index) (placeAt length (rename numbering index)) := by
  unfold placeAt
  rw [Value.integer?_rename]
  cases index.integer? with
  | none => exact alike_refuse _
  | some i =>
    dsimp only
    cases position? length i with
    | none => exact alike_refuse _
    | some place => exact alike_pure place

theorem alike_itemAt {α : Type} [Renamable α] (items : List α) (index : Value) :
    Alike numbering (itemAt items index)
      (itemAt (rename numbering items) (rename numbering index)) := by
  unfold itemAt
  rw [length_rename]
  refine alike_bind (alike_placeAt _ index) fun place ↦ ?_
  simp only [rename_of_addressless, getElem?_rename]
  cases items[place]? with
  | none => exact alike_refuse _
  | some item => exact alike_pure item

theorem alike_plainItemAt {α : Type} [Addressless α] (items : List α) (index : Value) :
    Alike numbering (itemAt items index) (itemAt items (rename numbering index)) := by
  have hitem : Alike numbering (itemAt items index)
      (itemAt (rename numbering items) (rename numbering index)) := alike_itemAt items index
  rwa [rename_list_of_addressless] at hitem

theorem alike_characterAt (s : String) (index : Value) :
    Alike numbering (characterAt s index) (characterAt s (rename numbering index)) :=
  alike_bind (alike_plainItemAt s.toList index) fun _ ↦ alike_newPart _

/-- An item of things that are the same on both sides. -/
theorem alike_fixedItemAt {items : List Value} (hitems : rename numbering items = items)
    (index : Value) : Alike numbering (itemAt items index) (itemAt items (rename numbering index)) := by
  have hitem : Alike numbering (itemAt items index)
      (itemAt (rename numbering items) (rename numbering index)) := alike_itemAt items index
  rwa [hitems] at hitem

theorem alike_lookUp (receiver key : Value) :
    Alike numbering (lookUp receiver key)
      (lookUp (rename numbering receiver) (rename numbering key)) := by
  cases receiver with
  | text s mark => exact alike_characterAt s key
  | symbol s mark => exact alike_characterAt s key
  | tuple items mark =>
    rw [Value.rename_tuple]
    exact alike_itemAt items key
  | bytes data mark => exact alike_fixedItemAt (rename_byteItems data) key
  | progression start stop step mark =>
    exact alike_bind (alike_placeAt _ key) fun place ↦ alike_newInt _
  | node tag children mark => exact alike_fixedItemAt (rename_childrenOf mark children) key
  | _ =>
    refine alike_bind (alike_cell? _) fun found ↦ ?_
    match found with
    | some (.list items) => exact alike_itemAt items key
    | some (.queue items _) => exact alike_itemAt items key
    | some (.buffer data) => exact alike_fixedItemAt (rename_byteItems data) key
    | some (.table entries _) =>
      refine alike_bind (alike_key key) fun found ↦ ?_
      simp only [Table.find?_rename]
      cases entries.find? found with
      | none => exact alike_refuse _
      | some value => exact alike_pure value
    | some (.object _ _ _) | none => exact alike_refuse _

theorem alike_replaceAt {α : Type} [Renamable α] (items : List α) (index : Value) (item : α) :
    Alike numbering (replaceAt items index item)
      (replaceAt (rename numbering items) (rename numbering index) (rename numbering item)) := by
  unfold replaceAt
  rw [length_rename]
  exact alike_bind (alike_placeAt _ index) fun place ↦
    alike_pure_of_eq (rename_set items place item).symm

theorem alike_plainReplaceAt {α : Type} [Addressless α] (items : List α) (index : Value) (item : α) :
    Alike numbering (replaceAt items index item) (replaceAt items (rename numbering index) item) := by
  have hchanged : Alike numbering (replaceAt items index item)
      (replaceAt (rename numbering items) (rename numbering index) (rename numbering item)) :=
    alike_replaceAt items index item
  rwa [rename_list_of_addressless] at hchanged

theorem alike_byte (value : Value) :
    Alike numbering (byte value) (byte (rename numbering value)) := by
  unfold byte
  rw [Value.integer?_rename]
  cases value.integer? with
  | none => exact alike_refuse _
  | some i =>
    dsimp only
    split
    · exact alike_pure (UInt8.ofNat i.toNat)
    · exact alike_refuse _

@[simp] theorem isTooWide_rename (index : Value) :
    isTooWide (rename numbering index) = isTooWide index := by
  rw [isTooWide, isTooWide, Value.integer?_rename]

theorem alike_isOrdered (receiver : Value) :
    Alike numbering (isOrdered receiver) (isOrdered (rename numbering receiver)) := by
  cases receiver with
  | closure number =>
    apply alike_get
    intro left right hmirrors
    rw [hmirrors.closure?]
    cases left.closure? number with
    | none => exact alike_pure false
    | some closure => cases closure <;> exact alike_pure _
  | tuple items mark =>
    rw [Value.rename_tuple]
    exact alike_pure true
  | nil | bool b | int i mark | float x mark | regexp pattern | inner index part | hostClass name
  | function name | method receiver name mark => exact alike_pure false
  | _ => exact alike_pure true

theorem alike_refusePut (receiver key : Value) :
    Alike numbering (refusePut receiver key)
      (refusePut (rename numbering receiver) (rename numbering key)) := by
  unfold refusePut
  rw [isTooWide_rename]
  refine alike_bind (alike_isOrdered receiver) fun answer ↦ ?_
  rw [rename_of_addressless]
  split
  · exact alike_refuse _
  · exact alike_refuse _

theorem alike_put (receiver key value : Value) :
    Alike numbering (put receiver key value)
      (put (rename numbering receiver) (rename numbering key) (rename numbering value)) := by
  refine alike_bind (alike_cell? receiver) fun found ↦ ?_
  match found with
  | some (.list items) =>
    exact alike_bind (alike_replaceAt items key value) fun changed ↦
      alike_store receiver (.list changed)
  | some (.queue items revision) =>
    exact alike_bind (alike_replaceAt items key value) fun changed ↦
      alike_store receiver (.queue changed revision)
  | some (.table entries removals) =>
    refine alike_bind (alike_key key) fun found ↦ ?_
    rw [← Table.rename_insert]
    exact alike_store receiver (.table (entries.insert found key value) removals)
  | some (.buffer data) =>
    simp only [rename_some, Cell.rename_buffer, isTooWide_rename, Value.integer?_rename]
    split
    · exact alike_refuse _
    · cases key.integer? with
      | none => exact alike_refuse _
      | some i =>
        refine alike_bind (alike_byte value) fun item ↦ ?_
        refine alike_bind (alike_plainReplaceAt data key item) fun changed ↦ ?_
        rw [rename_list_of_addressless]
        exact alike_store receiver (.buffer changed)
  | some (.object _ _ _) | none => exact alike_refusePut receiver key

theorem alike_oneKey (keys : List Value) :
    Alike numbering (oneKey keys) (oneKey (rename numbering keys)) := by
  match keys with
  | [key] => exact alike_pure key
  | [] => exact alike_newTuple []
  | first :: second :: rest => exact alike_newTuple (first :: second :: rest)

/-! ### Application -/

/-- An answer as a value. -/
theorem alike_answer {answer answer' : Compute Bool} (hanswer : Alike numbering answer answer')
    (use : Bool → Bool) :
    Alike numbering (do return .bool (use (← answer)) : Compute Value)
      (do return .bool (use (← answer'))) :=
  alike_bind hanswer fun b ↦ alike_pure (Value.bool (use b))

theorem alike_binary (operator : Operator) (a b : Value) :
    Alike numbering (binary operator a b)
      (binary operator (rename numbering a) (rename numbering b)) := by
  cases operator with
  | add => exact alike_join a b
  | subtract => exact alike_arithmetic Number.failsPlainly_sub a b
  | multiply => exact alike_product a b
  | divide => exact alike_arithmetic Number.failsPlainly_div a b
  | remainder => exact alike_rest a b
  | power => exact alike_arithmetic Number.failsPlainly_pow a b
  | equal => exact alike_answer (alike_areEqual a b) id
  | notEqual => exact alike_answer (alike_areEqual a b) not
  | less => exact alike_answer (alike_ordered .less a b) id
  | atMost => exact alike_answer (alike_ordered .atMost a b) id
  | greater => exact alike_answer (alike_ordered .greater a b) id
  | atLeast => exact alike_answer (alike_ordered .atLeast a b) id
  | compare => exact alike_spaceship a b
  | shiftLeft => exact alike_onIntegers Number.failsPlainly_shiftLeft a b
  | shiftRight => exact alike_onIntegers Number.failsPlainly_shiftRight a b
  | bitAnd => exact alike_bits _ a b
  | bitOr => exact alike_union a b
  | bitXor => exact alike_bits _ a b
  | negate | affirm | invert | logicalNot | index | indexSet => exact alike_refuse _

theorem alike_affirmed (value : Value) :
    Alike numbering (affirmed value) (affirmed (rename numbering value)) := by
  cases value with
  | int i mark => exact alike_pure (Value.int i mark)
  | float x mark => exact alike_pure (Value.float x mark)
  | bool b => exact alike_newInt _
  | tuple items mark =>
    rw [Value.rename_tuple]
    exact alike_refuse _
  | _ => exact alike_refuse _

theorem alike_unary (operator : Operator) (a : Value) :
    Alike numbering (unary operator a) (unary operator (rename numbering a)) := by
  cases operator with
  | negate =>
    simp only [unary, Value.number?_rename]
    cases a.number? with
    | none => exact alike_refuse _
    | some number => exact alike_newNumber _
  | affirm => exact alike_affirmed a
  | invert =>
    simp only [unary, Value.integer?_rename]
    cases a.integer? with
    | none => exact alike_refuse _
    | some i => exact alike_newInt _
  | logicalNot => exact alike_pure_of_eq (by simp)
  | _ => exact alike_refuse _

theorem alike_plainly (operator : Operator) (receiver : Value) (arguments : List Value) :
    Alike numbering (plainly operator receiver arguments)
      (plainly operator (rename numbering receiver) (rename numbering arguments)) := by
  match arguments with
  | [] => exact alike_unary operator receiver
  | [argument] => exact alike_binary operator receiver argument
  | first :: second :: rest => exact alike_refuse _

/-- An operator does the same with renamed operands. -/
theorem alike_apply (operator : Operator) (receiver : Value) (arguments : List Value) :
    Alike numbering (apply operator receiver arguments)
      (apply operator (rename numbering receiver) (rename numbering arguments)) := by
  cases operator with
  | index => exact alike_bind (alike_oneKey arguments) (alike_lookUp receiver)
  | indexSet =>
    simp only [apply, ← rename_getLast?, ← rename_dropLast]
    cases arguments.getLast? with
    | none => exact alike_refuse _
    | some value =>
      exact alike_bind (alike_oneKey arguments.dropLast) fun key ↦
        alike_bind (alike_put receiver key value) fun _ ↦ alike_pure value
  | _ => exact alike_plainly _ receiver arguments

end Operator

end Treewalk
