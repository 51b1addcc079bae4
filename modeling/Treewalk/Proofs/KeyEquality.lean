import Treewalk.Proofs.JsonRoundTrip
import Treewalk.Proofs.NumberEquality

/-!
Two values that can be names of table entries have the same key exactly if they are equal
(`Value.key_eq_iff_equals`). What equality means is said by `Value.Equals`, without keys: numbers are
equal by size across their kinds, a symbol and a text by their characters, tuples item by item, ranges
by their bounds, progressions by the integers that they list, nodes by tag and children, and what has
an identity of its own only if it is the same thing.

Keys list the parts of a value in prefix order. That no two values get the same list by accident rests
on unique decoding: the first part of a key says how many complete keys follow it (`Key.Part.arity`),
so that the end of a complete key is known from its beginning (`Key.Complete.cancel`). A not-a-number
equals nothing, but its key is that of the thing it is, and so values that hold one are left out.
-/

set_option autoImplicit false
set_option relaxedAutoImplicit false

namespace Treewalk

/-! ### Unique decoding -/

namespace Key

/-- How many complete keys follow a part before its own key is complete. -/
def Part.arity : Part → Nat
  | .tuple size => size
  | .range _ => 2
  | .node _ size => size
  | .named sort _ => if sort = "progression" then 3 else 0
  | .member _ => 1
  | _ => 0

/-- What is left behind the first few complete keys. -/
def skip : Nat → Key → Option Key
  | 0, key => some key
  | _ + 1, [] => none
  | count + 1, part :: rest => skip (count + part.arity) rest

theorem skip_zero (key : Key) : skip 0 key = some key := by
  cases key <;> rfl

/-- A key is made of a number of complete ones. -/
def Complete (count : Nat) (key : Key) : Prop :=
  ∀ more rest, skip (count + more) (key ++ rest) = skip more rest

namespace Complete

variable {count more : Nat} {key other : Key}

theorem nil : Complete 0 [] := fun more rest ↦ by rw [Nat.zero_add, List.nil_append]

theorem append (hkey : Complete count key) (hother : Complete more other) :
    Complete (count + more) (key ++ other) := fun further rest ↦ by
  rw [List.append_assoc, Nat.add_assoc, hkey, hother]

/-- A part completes the keys that it announces. -/
theorem cons {part : Part} (hkey : Complete part.arity key) : Complete 1 (part :: key) :=
  fun further rest ↦ by
    rw [Nat.add_comm, List.cons_append, skip, Nat.add_comm, hkey]

theorem single {part : Part} (harity : part.arity = 0) : Complete 1 [part] :=
  cons (harity ▸ nil)

/-- Where one key ends, so does another one that begins alike. -/
theorem cancel {rest last : Key} (hkey : Complete count key) (hother : Complete count other)
    (happend : key ++ rest = other ++ last) : key = other ∧ rest = last := by
  have hrest : rest = last := by
    have hskip : skip (count + 0) (key ++ rest) = skip (count + 0) (other ++ last) := by rw [happend]
    rwa [hkey, hother, skip_zero, skip_zero, Option.some_inj] at hskip
  exact ⟨List.append_cancel_right (hrest ▸ happend), hrest⟩

theorem thing (mark : Mark) (hkey : Complete 1 key) : Complete 1 (Key.thing mark key) := by
  cases mark with
  | common => exact hkey
  | own serial path => exact single rfl

theorem ofFloat (mark : Mark) (x : Binary64) : Complete 1 (Key.ofFloat mark x) := by
  unfold Key.ofFloat
  split
  · exact single rfl
  · split
    · exact thing mark (single rfl)
    · exact single rfl

theorem scalar (mark : Mark) (scalar : Scalar) : Complete 1 (scalar.key mark) := by
  cases scalar with
  | float x => exact ofFloat _ x
  | _ => exact single rfl

mutual

theorem tree (mark : Mark) : ∀ tree : Tree, Complete 1 (tree.key mark)
  | .leaf scalar => by
    rw [Tree.key]
    exact Complete.scalar mark scalar
  | .node tag children => by
    rw [Tree.key]
    exact cons (trees mark 0 children)

theorem trees (mark : Mark) (place : Nat) :
    ∀ trees : List Tree, Complete trees.length (Tree.keys mark place trees)
  | [] => by
    rw [Tree.keys]
    exact nil
  | first :: rest => by
    rw [Tree.keys, List.length_cons, Nat.add_comm]
    exact (tree (mark.child place) first).append (trees mark (place + 1) rest)

end

mutual

theorem identity : ∀ value : Value, Complete 1 value.identity
  | .nil | .bool _ | .regexp _ | .cell _ | .closure _ | .inner _ _ | .hostClass _ | .function _ => by
    rw [Value.identity]
    exact single rfl
  | .int _ mark | .float _ mark | .text _ mark | .symbol _ mark | .bytes _ mark => by
    rw [Value.identity]
    exact thing mark (single rfl)
  | .progression start stop step mark => by
    rw [Value.identity]
    exact thing mark (cons ((single rfl).append ((single rfl).append (single rfl))))
  | .node tag children mark => by
    rw [Value.identity]
    exact thing mark (tree mark (.node tag children))
  | .tuple items mark => by
    rw [Value.identity]
    exact thing mark (cons (identities items))
  | .range first last exclusive mark => by
    rw [Value.identity]
    exact thing mark (cons ((identity first).append (identity last)))
  | .method receiver name mark => by
    rw [Value.identity]
    exact thing mark (cons (identity receiver))

theorem identities : ∀ values : List Value, Complete values.length (Value.identities values)
  | [] => by
    rw [Value.identities]
    exact nil
  | first :: rest => by
    rw [Value.identities, List.length_cons, Nat.add_comm]
    exact (identity first).append (identities rest)

end

end Complete

end Key

namespace Value

variable {heap : Array Cell} {key : Key}

theorem key?_tuple_eq_some_iff {items : List Value} {mark : Mark} :
    (tuple items mark).key? heap = some key ↔
      ∃ parts, keys? heap items = some parts ∧ .tuple items.length :: parts = key := by
  rw [key?, Option.map_eq_some_iff]

theorem key?_range_eq_some_iff {first last : Value} {exclusive : Bool} {mark : Mark} :
    (range first last exclusive mark).key? heap = some key ↔
      ∃ a b, first.key? heap = some a ∧ last.key? heap = some b ∧
        .range exclusive :: a ++ b = key := by
  simp [key?, Option.bind_eq_some_iff]

theorem key?_cell_eq_some {address : Nat} (hkey : (cell address).key? heap = some key) :
    [.cell address] = key := by
  rw [key?] at hkey
  split at hkey
  · exact Option.some_inj.mp hkey
  · cases hkey

theorem key?_inner_eq_some {index : Nat} {part : Inner} (hkey : (inner index part).key? heap = some key) :
    [.inner index part] = key := by
  rw [key?] at hkey
  split at hkey
  · exact Option.some_inj.mp hkey
  · cases hkey

theorem keys?_cons_eq_some_iff {item : Value} {rest : List Value} :
    keys? heap (item :: rest) = some key ↔
      ∃ a b, item.key? heap = some a ∧ keys? heap rest = some b ∧ a ++ b = key := by
  simp [keys?, Option.bind_eq_some_iff]

mutual

/-- The key of a value that can be a name is complete. -/
theorem complete_key? (value : Value) {key : Key} (hkey : value.key? heap = some key) :
    key.Complete 1 := by
  cases value with
  | tuple items mark =>
    obtain ⟨parts, hparts, rfl⟩ := key?_tuple_eq_some_iff.mp hkey
    exact .cons (complete_keys? items hparts)
  | range first last exclusive mark =>
    obtain ⟨a, b, hfirst, hlast, rfl⟩ := key?_range_eq_some_iff.mp hkey
    exact .cons ((complete_key? first hfirst).append (complete_key? last hlast))
  | cell address =>
    obtain rfl := key?_cell_eq_some hkey
    exact .single rfl
  | inner index part =>
    obtain rfl := key?_inner_eq_some hkey
    exact .single rfl
  | float x mark =>
    obtain rfl := Option.some_inj.mp hkey
    exact .ofFloat mark x
  | progression start stop step mark =>
    obtain rfl := Option.some_inj.mp hkey
    refine .single ?_
    unfold Progression.key
    split <;> rfl
  | node tag children mark =>
    obtain rfl := Option.some_inj.mp hkey
    exact .tree mark (.node tag children)
  | method receiver name mark =>
    obtain rfl := Option.some_inj.mp hkey
    exact .cons (.identity receiver)
  | _ =>
    obtain rfl := Option.some_inj.mp hkey
    exact .single rfl

theorem complete_keys? (values : List Value) {key : Key} (hkey : keys? heap values = some key) :
    key.Complete values.length := by
  cases values with
  | nil =>
    obtain rfl := Option.some_inj.mp hkey
    exact .nil
  | cons item rest =>
    obtain ⟨a, b, hitem, hrest, rfl⟩ := keys?_cons_eq_some_iff.mp hkey
    rw [List.length_cons, Nat.add_comm]
    exact (complete_key? item hitem).append (complete_keys? rest hrest)

end

end Value

/-! ### Equality -/

namespace Value

/-- Values without parts that are equal: nil, numbers of the same size, and texts of the same
characters, among which are symbols. -/
inductive EqualsSimple : Value → Value → Prop where
  | nil : EqualsSimple .nil .nil
  | number {a b : Value} {x y : Number} (hx : a.number? = some x) (hy : b.number? = some y)
      (hequal : x.compare? y = some .eq) : EqualsSimple a b
  | text {a b : Value} {s : String} (ha : a.text? = some s) (hb : b.text? = some s) :
      EqualsSimple a b

end Value

namespace Tree

mutual

/-- Trees that are equal: leaves of equal scalars, and nodes of one tag with equal children. -/
inductive Equals : Tree → Tree → Prop where
  | leaf {a b : Scalar} (hequal : (a.toValue .common).EqualsSimple (b.toValue .common)) :
      Equals (.leaf a) (.leaf b)
  | node (tag : String) {children others : List Tree} (hequal : AllEqual children others) :
      Equals (.node tag children) (.node tag others)

/-- Lists of trees that are equal tree by tree. -/
inductive AllEqual : List Tree → List Tree → Prop where
  | nil : AllEqual [] []
  | cons {a b : Tree} {rest others : List Tree} (hfirst : Equals a b)
      (hrest : AllEqual rest others) : AllEqual (a :: rest) (b :: others)

end

end Tree

namespace Value

mutual

/-- Values that are equal, whichever things they are. Of what has an identity of its own, only the same
thing is equal; a method equals the one of the same name of the same receiver. -/
inductive Equals : Value → Value → Prop where
  | simple {a b : Value} (hequal : a.EqualsSimple b) : Equals a b
  | tuple {items others : List Value} (mark other : Mark) (hequal : AllEqual items others) :
      Equals (.tuple items mark) (.tuple others other)
  | range {first first' last last' : Value} (exclusive : Bool) (mark other : Mark)
      (hfirst : Equals first first') (hlast : Equals last last') :
      Equals (.range first last exclusive mark) (.range first' last' exclusive other)
  | regexp (pattern : Regexp) : Equals (.regexp pattern) (.regexp pattern)
  | bytes (data : List UInt8) (mark other : Mark) : Equals (.bytes data mark) (.bytes data other)
  | progression {start stop step start' stop' step' : Int} (mark other : Mark)
      (hequal : Progression.items start stop step = Progression.items start' stop' step') :
      Equals (.progression start stop step mark) (.progression start' stop' step' other)
  | node (tag : String) {children others : List Tree} (mark other : Mark)
      (hequal : Tree.AllEqual children others) :
      Equals (.node tag children mark) (.node tag others other)
  | cell (address : Nat) : Equals (.cell address) (.cell address)
  | closure (index : Nat) : Equals (.closure index) (.closure index)
  | inner (index : Nat) (part : Inner) : Equals (.inner index part) (.inner index part)
  | hostClass (name : String) : Equals (.hostClass name) (.hostClass name)
  | function (name : String) : Equals (.function name) (.function name)
  | method {receiver receiver' : Value} (name : String) (mark other : Mark)
      (hequal : receiver.identical receiver' = true) :
      Equals (.method receiver name mark) (.method receiver' name other)

/-- Lists of values that are equal value by value. -/
inductive AllEqual : List Value → List Value → Prop where
  | nil : AllEqual [] []
  | cons {a b : Value} {rest others : List Value} (hfirst : Equals a b)
      (hrest : AllEqual rest others) : AllEqual (a :: rest) (b :: others)

end

mutual

/-- Whether a value is or holds a not-a-number. -/
def holdsNaN : Value → Bool
  | .float x _ => x.isNaN
  | .tuple items _ => anyHoldsNaN items
  | .range first last _ _ => holdsNaN first || holdsNaN last
  | .node tag children _ => (Tree.node tag children).holdsNaN
  | _ => false

/-- Whether one of several values is or holds a not-a-number. -/
def anyHoldsNaN : List Value → Bool
  | [] => false
  | item :: rest => holdsNaN item || anyHoldsNaN rest

end

end Value

/-! ### Families of keys -/

/-- What a key is the key of, told from its first part. -/
inductive Key.Family where
  | nil
  | number
  | text
  | bytes
  | tuple
  | range
  | progression
  | regexp
  | node
  | cell
  | closure
  | inner
  | hostClass
  | function
  | method

/-- The family that a first part tells. -/
def Key.Part.family : Key.Part → Key.Family
  | .nil => .nil
  | .integer _ => .number
  | .fraction _ => .number
  | .thing _ => .number
  | .text _ => .text
  | .bytes _ => .bytes
  | .tuple _ => .tuple
  | .range _ => .range
  | .progression _ _ _ => .progression
  | .regexp _ => .regexp
  | .node _ _ => .node
  | .cell _ => .cell
  | .closure _ => .closure
  | .inner _ _ => .inner
  | .named sort _ => if sort = "class" then .hostClass else .function
  | .member _ => .method

/-- The family of the key of a value. -/
def Value.family : Value → Key.Family
  | .nil => .nil
  | .bool _ => .number
  | .int _ _ => .number
  | .float _ _ => .number
  | .text _ _ => .text
  | .symbol _ _ => .text
  | .tuple _ _ => .tuple
  | .range _ _ _ _ => .range
  | .regexp _ => .regexp
  | .bytes _ _ => .bytes
  | .progression _ _ _ _ => .progression
  | .node _ _ _ => .node
  | .cell _ => .cell
  | .closure _ => .closure
  | .inner _ _ => .inner
  | .hostClass _ => .hostClass
  | .function _ => .function
  | .method _ _ _ => .method

theorem Value.family_of_key? {heap : Array Cell} {value : Value} {key : Key}
    (hkey : value.key? heap = some key) : key.head?.map Key.Part.family = some value.family := by
  cases value with
  | tuple items mark =>
    obtain ⟨parts, -, rfl⟩ := key?_tuple_eq_some_iff.mp hkey
    rfl
  | range first last exclusive mark =>
    obtain ⟨a, b, -, -, rfl⟩ := key?_range_eq_some_iff.mp hkey
    rfl
  | cell address =>
    obtain rfl := key?_cell_eq_some hkey
    rfl
  | inner index part =>
    obtain rfl := key?_inner_eq_some hkey
    rfl
  | float x mark =>
    obtain rfl := Option.some_inj.mp hkey
    simp only [Key.ofFloat, Key.thing]
    split
    · rfl
    · split
      · cases mark <;> rfl
      · rfl
  | progression start stop step mark =>
    obtain rfl := Option.some_inj.mp hkey
    simp only [Progression.key]
    split <;> rfl
  | _ =>
    obtain rfl := Option.some_inj.mp hkey
    rfl

/-! ### Keys of equal values -/

namespace Value

variable {heap other : Array Cell} {a b : Value} {key : Key}

theorem isNaN_of_number? {x : Number} (hx : a.number? = some x) : x.isNaN = a.holdsNaN := by
  cases a with
  | bool _ | int _ _ | float _ _ =>
    obtain rfl := Option.some_inj.mp hx
    rfl
  | _ => cases hx

theorem key?_of_number? {x : Number} (hx : a.number? = some x) (hnumber : x.isNaN = false) :
    a.key? heap = some x.key := by
  cases a with
  | bool _ | int _ _ =>
    obtain rfl := Option.some_inj.mp hx
    rfl
  | float y mark =>
    obtain rfl := Option.some_inj.mp hx
    have hy : y.isNaN = false := hnumber
    rw [key?, Number.key, Key.ofFloat, Key.ofFloat, hy]
    rfl
  | _ => cases hx

theorem key?_of_text? {s : String} (hs : a.text? = some s) : a.key? heap = some [.text s] := by
  cases a with
  | text _ _ | symbol _ _ =>
    obtain rfl := Option.some_inj.mp hs
    rfl
  | _ => cases hs

theorem family_of_number? {x : Number} (hx : a.number? = some x) : a.family = .number := by
  cases a with
  | bool _ | int _ _ | float _ _ => rfl
  | _ => cases hx

theorem family_of_text? {s : String} (hs : a.text? = some s) : a.family = .text := by
  cases a with
  | text _ _ | symbol _ _ => rfl
  | _ => cases hs

theorem exists_number? (hfamily : a.family = .number) : ∃ x, a.number? = some x := by
  cases a with
  | bool _ | int _ _ | float _ _ => exact ⟨_, rfl⟩
  | _ => cases hfamily

theorem exists_text? (hfamily : a.family = .text) : ∃ s, a.text? = some s := by
  cases a with
  | text _ _ | symbol _ _ => exact ⟨_, rfl⟩
  | _ => cases hfamily

theorem eq_nil_of_family (hfamily : a.family = .nil) : a = .nil := by
  cases a with
  | nil => rfl
  | _ => cases hfamily

/-- Values with the same key are of one family. -/
theorem family_eq (ha : a.key? heap = some key) (hb : b.key? other = some key) :
    a.family = b.family :=
  Option.some_inj.mp ((family_of_key? ha).symm.trans (family_of_key? hb))

/-- Simple values that are equal have the same key. -/
theorem EqualsSimple.key_eq (hequal : a.EqualsSimple b) (ha : a.holdsNaN = false)
    (hb : b.holdsNaN = false) : a.key? heap = b.key? other := by
  cases hequal with
  | nil => rfl
  | number hx hy hequal =>
    have hfirst := (isNaN_of_number? hx).trans ha
    have hsecond := (isNaN_of_number? hy).trans hb
    rw [key?_of_number? hx hfirst, key?_of_number? hy hsecond,
      (Number.compare?_eq_iff hfirst hsecond).mp hequal]
  | text hs ht => rw [key?_of_text? hs, key?_of_text? ht]

theorem equalsSimple_of_number? {x : Number} (hx : a.number? = some x) (hnumber : a.holdsNaN = false)
    (hother : b.holdsNaN = false) (ha : a.key? heap = some key) (hb : b.key? other = some key) :
    a.EqualsSimple b := by
  obtain ⟨y, hy⟩ := exists_number? ((family_eq ha hb).symm.trans (family_of_number? hx))
  have hfirst := (isNaN_of_number? hx).trans hnumber
  have hsecond := (isNaN_of_number? hy).trans hother
  rw [key?_of_number? hx hfirst, Option.some_inj] at ha
  rw [key?_of_number? hy hsecond, Option.some_inj] at hb
  exact .number hx hy ((Number.compare?_eq_iff hfirst hsecond).mpr (ha.trans hb.symm))

theorem equalsSimple_of_text? {s : String} (hs : a.text? = some s) (ha : a.key? heap = some key)
    (hb : b.key? other = some key) : a.EqualsSimple b := by
  obtain ⟨t, ht⟩ := exists_text? ((family_eq ha hb).symm.trans (family_of_text? hs))
  rw [key?_of_text? hs, ← hb, key?_of_text? ht] at ha
  obtain rfl : s = t := by simpa using ha
  exact .text hs ht

end Value

namespace Progression

/-- Progressions have the same key exactly if they list the same integers. -/
theorem key_eq_iff {start stop step start' stop' step' : Int} :
    key start stop step = key start' stop' step' ↔
      items start stop step = items start' stop' step' := by
  unfold key items
  generalize size start stop step = count
  generalize size start' stop' step' = other
  by_cases hcount : count = other
  · subst hcount
    match count with
    | 0 => simp
    | 1 => simp [item]
    | more + 2 =>
      constructor
      · rintro hkey
        obtain ⟨-, rfl, rfl⟩ := Key.Part.progression.inj hkey
        rfl
      · intro hitems
        have hitem (place : Nat) (hplace : place < more + 2) :
            item start step place = item start' step' place := by
          have hget := congrArg (·[place]?) hitems
          simpa [hplace] using hget
        have hstart : start = start' := by simpa [item] using hitem 0 (by omega)
        have hstep : step = step' := by simpa [item, hstart] using hitem 1 (by omega)
        rw [hstart, hstep]
  · refine iff_of_false (fun hkey ↦ hcount ?_) fun hitems ↦ hcount ?_
    · split at hkey <;> split at hkey <;> simp_all
    · simpa using congrArg List.length hitems

end Progression

/-- Without a mark, a small integer is like any other. -/
theorem Value.markedInt_common (i : Int) : markedInt i .common = .int i .common := ite_self _

theorem Value.markedText_common (s : String) : markedText s .common = .text s .common := ite_self _

namespace Scalar

theorem holdsNaN_toValue (scalar : Scalar) :
    (scalar.toValue .common).holdsNaN = (Tree.leaf scalar).holdsNaN := by
  cases scalar with
  | int i =>
    rw [toValue, Value.markedInt_common]
    rfl
  | text s =>
    rw [toValue, Value.markedText_common]
    rfl
  | _ => rfl

/-- A scalar is nil, a number or a text. -/
theorem toValue_cases (scalar : Scalar) :
    scalar = .null ∨ (∃ x, (scalar.toValue .common).number? = some x) ∨
      ∃ s, (scalar.toValue .common).text? = some s := by
  cases scalar with
  | null => exact Or.inl rfl
  | bool b | float x => exact Or.inr (Or.inl ⟨_, rfl⟩)
  | int i =>
    refine Or.inr (Or.inl ⟨.int i, ?_⟩)
    rw [toValue, Value.markedInt_common]
    rfl
  | text s =>
    refine Or.inr (Or.inr ⟨s, ?_⟩)
    rw [toValue, Value.markedText_common]
    rfl
  | symbol s => exact Or.inr (Or.inr ⟨_, rfl⟩)

/-- A scalar in a tree has the key of its value. -/
theorem key?_toValue {scalar : Scalar} (hnumber : (Tree.leaf scalar).holdsNaN = false)
    (heap : Array Cell) (mark : Mark) :
    (scalar.toValue .common).key? heap = some (scalar.key mark) := by
  cases scalar with
  | int i =>
    rw [toValue, Value.markedInt_common]
    rfl
  | text s =>
    rw [toValue, Value.markedText_common]
    rfl
  | float x =>
    have hx : x.isNaN = false := hnumber
    rw [key, toValue, Value.key?, Key.ofFloat, Key.ofFloat, hx]
    rfl
  | _ => rfl

/-- Scalars have the same key exactly if they are equal. -/
theorem key_eq_iff {a b : Scalar} (ha : (Tree.leaf a).holdsNaN = false)
    (hb : (Tree.leaf b).holdsNaN = false) (mark other : Mark) :
    a.key mark = b.key other ↔ (a.toValue .common).EqualsSimple (b.toValue .common) := by
  have hfirst := key?_toValue ha #[] mark
  have hsecond := key?_toValue hb #[] other
  have hnumber := (holdsNaN_toValue a).trans ha
  have hothers := (holdsNaN_toValue b).trans hb
  constructor
  · intro hkey
    rw [← hkey] at hsecond
    rcases toValue_cases a with rfl | ⟨x, hx⟩ | ⟨s, hs⟩
    · rw [Value.eq_nil_of_family (Value.family_eq hfirst hsecond).symm]
      exact .nil
    · exact Value.equalsSimple_of_number? hx hnumber hothers hfirst hsecond
    · exact Value.equalsSimple_of_text? hs hfirst hsecond
  · intro hequal
    have hkey : (a.toValue .common).key? #[] = (b.toValue .common).key? #[] :=
      hequal.key_eq hnumber hothers
    rwa [hfirst, hsecond, Option.some_inj] at hkey

end Scalar

namespace Tree

theorem AllEqual.length_eq {trees others : List Tree} (hequal : AllEqual trees others) :
    trees.length = others.length := by
  match hequal with
  | .nil => rfl
  | .cons _ hrest => rw [List.length_cons, List.length_cons, hrest.length_eq]

/-- The key of a leaf is not that of a node. -/
theorem key_leaf_ne_node {scalar : Scalar} (hnumber : (leaf scalar).holdsNaN = false) {tag : String}
    {children : List Tree} (mark other : Mark) :
    (leaf scalar).key mark ≠ (node tag children).key other := by
  intro hkey
  have hfirst := Scalar.key?_toValue hnumber #[] mark
  have hsecond : (Value.node tag children other).key? #[] = some (scalar.key mark) := by
    rw [Value.key?, ← hkey, key]
  have hfamily := Value.family_eq hfirst hsecond
  rcases scalar.toValue_cases with rfl | ⟨x, hx⟩ | ⟨s, hs⟩
  · cases hfamily
  · cases (Value.family_of_number? hx).symm.trans hfamily
  · cases (Value.family_of_text? hs).symm.trans hfamily

mutual

/-- Trees without a not-a-number have the same key exactly if they are equal. -/
theorem key_eq_iff_equals {a b : Tree} (ha : a.holdsNaN = false) (hb : b.holdsNaN = false)
    (mark other : Mark) : a.key mark = b.key other ↔ a.Equals b := by
  cases a with
  | leaf first =>
    cases b with
    | leaf second =>
      rw [key, key, Scalar.key_eq_iff ha hb mark other]
      refine ⟨.leaf, fun hequal ↦ ?_⟩
      cases hequal
      assumption
    | node tag children =>
      exact iff_of_false (key_leaf_ne_node ha mark other) nofun
  | node tag children =>
    cases b with
    | leaf second =>
      exact iff_of_false (key_leaf_ne_node hb other mark).symm nofun
    | node tag' others =>
      have hchildren := keys_eq_iff_allEqual ha hb mark other 0 0
      rw [key, key, List.cons.injEq, Key.Part.node.injEq, and_assoc, hchildren]
      constructor
      · rintro ⟨rfl, hequal⟩
        exact .node tag hequal
      · intro hequal
        cases hequal
        exact ⟨rfl, by assumption⟩

theorem keys_eq_iff_allEqual {trees others : List Tree} (htrees : anyHoldsNaN trees = false)
    (hothers : anyHoldsNaN others = false) (mark other : Mark) (place place' : Nat) :
    trees.length = others.length ∧ keys mark place trees = keys other place' others ↔
      AllEqual trees others := by
  cases trees with
  | nil =>
    cases others with
    | nil => exact iff_of_true ⟨rfl, rfl⟩ .nil
    | cons second more => exact iff_of_false (fun hkeys ↦ nomatch hkeys.1) nofun
  | cons first rest =>
    cases others with
    | nil => exact iff_of_false (fun hkeys ↦ nomatch hkeys.1) nofun
    | cons second more =>
      obtain ⟨hfirst, hrest⟩ := Bool.or_eq_false_iff.mp htrees
      obtain ⟨hsecond, hmore⟩ := Bool.or_eq_false_iff.mp hothers
      have hhead := key_eq_iff_equals hfirst hsecond (mark.child place) (other.child place')
      have htail := keys_eq_iff_allEqual hrest hmore mark other (place + 1) (place' + 1)
      rw [keys, keys]
      constructor
      · rintro ⟨hlength, hkeys⟩
        obtain ⟨hkey, hothers⟩ := (Key.Complete.tree _ first).cancel (.tree _ second) hkeys
        exact .cons (hhead.mp hkey) (htail.mp ⟨Nat.succ.inj hlength, hothers⟩)
      · intro hequal
        cases hequal with
        | cons hequal hothers =>
          obtain ⟨hlength, hkeys⟩ := htail.mpr hothers
          exact ⟨congrArg (· + 1) hlength, by rw [hhead.mpr hequal, hkeys]⟩

end

end Tree

namespace Value

variable {heap other : Array Cell}

mutual

/-- Values with the same key are equal. -/
theorem equals_of_key? {a b : Value} {key : Key} (ha : a.key? heap = some key)
    (hb : b.key? other = some key) (hnumber : a.holdsNaN = false) (hothers : b.holdsNaN = false) :
    a.Equals b := by
  have hfamily := family_eq ha hb
  have hkeys := ha.trans hb.symm
  cases a with
  | nil =>
    rw [eq_nil_of_family hfamily.symm]
    exact .simple .nil
  | bool _ | int _ _ | float _ _ =>
    exact .simple (equalsSimple_of_number? rfl hnumber hothers ha hb)
  | text _ _ | symbol _ _ => exact .simple (equalsSimple_of_text? rfl ha hb)
  | tuple items mark =>
    cases b with
    | tuple items' mark' =>
      obtain ⟨parts, hparts, rfl⟩ := key?_tuple_eq_some_iff.mp ha
      obtain ⟨parts', hparts', hkey⟩ := key?_tuple_eq_some_iff.mp hb
      obtain ⟨hpart, rfl⟩ := List.cons.inj hkey
      exact .tuple mark mark'
        (allEqual_of_keys? hparts hparts' (Key.Part.tuple.inj hpart).symm hnumber hothers)
    | _ => cases hfamily
  | range first last exclusive mark =>
    cases b with
    | range first' last' exclusive' mark' =>
      obtain ⟨x, y, hfirst, hlast, rfl⟩ := key?_range_eq_some_iff.mp ha
      obtain ⟨x', y', hfirst', hlast', hkey⟩ := key?_range_eq_some_iff.mp hb
      obtain ⟨hpart, hparts⟩ := List.cons.inj hkey
      obtain ⟨rfl, rfl⟩ := (complete_key? first' hfirst').cancel (complete_key? first hfirst) hparts
      obtain ⟨hleft, hright⟩ := Bool.or_eq_false_iff.mp hnumber
      obtain ⟨hleft', hright'⟩ := Bool.or_eq_false_iff.mp hothers
      rw [Key.Part.range.inj hpart]
      exact .range exclusive mark mark' (equals_of_key? hfirst hfirst' hleft hleft')
        (equals_of_key? hlast hlast' hright hright')
    | _ => cases hfamily
  | regexp pattern =>
    cases b with
    | regexp pattern' =>
      obtain rfl : pattern = pattern' := by simpa [key?] using hkeys
      exact .regexp pattern
    | _ => cases hfamily
  | bytes data mark =>
    cases b with
    | bytes data' mark' =>
      obtain rfl : data = data' := by simpa [key?] using hkeys
      exact .bytes data mark mark'
    | _ => cases hfamily
  | progression start stop step mark =>
    cases b with
    | progression start' stop' step' mark' =>
      refine .progression mark mark' (Progression.key_eq_iff.mp ?_)
      simpa [key?] using hkeys
    | _ => cases hfamily
  | node tag children mark =>
    cases b with
    | node tag' children' mark' =>
      have htrees := (Tree.key_eq_iff_equals hnumber hothers mark mark').mp
        (Option.some_inj.mp hkeys)
      cases htrees with
      | node tag hequal => exact .node tag mark mark' hequal
    | _ => cases hfamily
  | cell address =>
    cases b with
    | cell address' =>
      obtain rfl : address = address' := by
        simpa using (key?_cell_eq_some ha).trans (key?_cell_eq_some hb).symm
      exact .cell address
    | _ => cases hfamily
  | closure index =>
    cases b with
    | closure index' =>
      obtain rfl : index = index' := by simpa [key?] using hkeys
      exact .closure index
    | _ => cases hfamily
  | inner index part =>
    cases b with
    | inner index' part' =>
      obtain ⟨rfl, rfl⟩ : index = index' ∧ part = part' := by
        simpa using (key?_inner_eq_some ha).trans (key?_inner_eq_some hb).symm
      exact .inner index part
    | _ => cases hfamily
  | hostClass name =>
    cases b with
    | hostClass name' =>
      obtain rfl : name = name' := by simpa [key?] using hkeys
      exact .hostClass name
    | _ => cases hfamily
  | function name =>
    cases b with
    | function name' =>
      obtain rfl : name = name' := by simpa [key?] using hkeys
      exact .function name
    | _ => cases hfamily
  | method receiver name mark =>
    cases b with
    | method receiver' name' mark' =>
      have hparts : name = name' ∧ receiver.identity = receiver'.identity := by
        simpa [key?] using hkeys
      obtain ⟨rfl, hidentity⟩ := hparts
      exact .method name mark mark' (decide_eq_true hidentity)
    | _ => cases hfamily

theorem allEqual_of_keys? {items others : List Value} {key : Key} (ha : keys? heap items = some key)
    (hb : keys? other others = some key) (hlength : items.length = others.length)
    (hnumber : anyHoldsNaN items = false) (hothers : anyHoldsNaN others = false) :
    AllEqual items others := by
  cases items with
  | nil =>
    cases others with
    | nil => exact .nil
    | cons second more => cases hlength
  | cons first rest =>
    cases others with
    | nil => cases hlength
    | cons second more =>
      obtain ⟨x, y, hx, hy, rfl⟩ := keys?_cons_eq_some_iff.mp ha
      obtain ⟨x', y', hx', hy', hkeys⟩ := keys?_cons_eq_some_iff.mp hb
      -- Both keys end where the first item's ends.
      obtain ⟨rfl, rfl⟩ := (complete_key? second hx').cancel (complete_key? first hx) hkeys
      obtain ⟨hfirst, hrest⟩ := Bool.or_eq_false_iff.mp hnumber
      obtain ⟨hsecond, hmore⟩ := Bool.or_eq_false_iff.mp hothers
      exact .cons (equals_of_key? hx hx' hfirst hsecond)
        (allEqual_of_keys? hy hy' (Nat.succ.inj hlength) hrest hmore)

end

mutual

/-- Values that are equal have the same key. -/
theorem Equals.key_eq {a b : Value} {key key' : Key} (hequal : a.Equals b)
    (ha : a.key? heap = some key) (hb : b.key? other = some key') (hnumber : a.holdsNaN = false)
    (hothers : b.holdsNaN = false) : key = key' := by
  by_cases hsimple : a.EqualsSimple b
  · rw [hsimple.key_eq hnumber hothers, hb, Option.some_inj] at ha
    exact ha.symm
  cases a with
  | tuple items mark =>
    cases hequal with
    | simple hequal => exact absurd hequal hsimple
    | tuple mark mark' hequal =>
      obtain ⟨parts, hparts, rfl⟩ := key?_tuple_eq_some_iff.mp ha
      obtain ⟨parts', hparts', rfl⟩ := key?_tuple_eq_some_iff.mp hb
      obtain ⟨hlength, rfl⟩ := hequal.keys_eq hparts hparts' hnumber hothers
      rw [hlength]
  | range first last exclusive mark =>
    cases hequal with
    | simple hequal => exact absurd hequal hsimple
    | range exclusive mark mark' hequal hequal' =>
      obtain ⟨x, y, hfirst, hlast, rfl⟩ := key?_range_eq_some_iff.mp ha
      obtain ⟨x', y', hfirst', hlast', rfl⟩ := key?_range_eq_some_iff.mp hb
      obtain ⟨hleft, hright⟩ := Bool.or_eq_false_iff.mp hnumber
      obtain ⟨hleft', hright'⟩ := Bool.or_eq_false_iff.mp hothers
      rw [hequal.key_eq hfirst hfirst' hleft hleft', hequal'.key_eq hlast hlast' hright hright']
  | progression start stop step mark =>
    cases hequal with
    | simple hequal => exact absurd hequal hsimple
    | progression mark mark' hequal =>
      rw [key?, Progression.key_eq_iff.mpr hequal] at ha
      exact Option.some_inj.mp (ha.symm.trans hb)
  | node tag children mark =>
    cases hequal with
    | simple hequal => exact absurd hequal hsimple
    | node tag mark mark' hequal =>
      rw [key?, (Tree.key_eq_iff_equals hnumber hothers mark mark').mpr (.node tag hequal)] at ha
      exact Option.some_inj.mp (ha.symm.trans hb)
  | cell address =>
    cases hequal with
    | simple hequal => exact absurd hequal hsimple
    | cell address => exact (key?_cell_eq_some ha).symm.trans (key?_cell_eq_some hb)
  | inner index part =>
    cases hequal with
    | simple hequal => exact absurd hequal hsimple
    | inner index part => exact (key?_inner_eq_some ha).symm.trans (key?_inner_eq_some hb)
  | method receiver name mark =>
    cases hequal with
    | simple hequal => exact absurd hequal hsimple
    | method name mark mark' hequal =>
      rw [key?, of_decide_eq_true hequal] at ha
      exact Option.some_inj.mp (ha.symm.trans hb)
  | _ =>
    cases hequal with
    | simple hequal => exact absurd hequal hsimple
    | _ => exact Option.some_inj.mp (ha.symm.trans hb)

theorem AllEqual.keys_eq {items others : List Value} {key key' : Key}
    (hequal : AllEqual items others) (ha : keys? heap items = some key)
    (hb : keys? other others = some key') (hnumber : anyHoldsNaN items = false)
    (hothers : anyHoldsNaN others = false) : items.length = others.length ∧ key = key' := by
  cases items with
  | nil =>
    cases hequal with
    | nil => exact ⟨rfl, Option.some_inj.mp (ha.symm.trans hb)⟩
  | cons first rest =>
    cases hequal with
    | cons hhead htail =>
      obtain ⟨x, y, hx, hy, rfl⟩ := keys?_cons_eq_some_iff.mp ha
      obtain ⟨x', y', hx', hy', rfl⟩ := keys?_cons_eq_some_iff.mp hb
      obtain ⟨hfirst, hrest⟩ := Bool.or_eq_false_iff.mp hnumber
      obtain ⟨hsecond, hmore⟩ := Bool.or_eq_false_iff.mp hothers
      obtain ⟨hlength, rfl⟩ := htail.keys_eq hy hy' hrest hmore
      exact ⟨congrArg (· + 1) hlength, by rw [hhead.key_eq hx hx' hfirst hsecond]⟩

end

/-- Values without a not-a-number that can be names have the same key exactly if they are equal. -/
theorem key_eq_iff_equals {a b : Value} {key key' : Key} (ha : a.key? heap = some key)
    (hb : b.key? other = some key') (hnumber : a.holdsNaN = false) (hothers : b.holdsNaN = false) :
    key = key' ↔ a.Equals b :=
  ⟨fun hkey ↦ equals_of_key? ha (hkey ▸ hb) hnumber hothers,
    fun hequal ↦ hequal.key_eq ha hb hnumber hothers⟩

example : (Value.tuple [.bool true, .symbol "a" .common] .common).Equals
    (.tuple [.float (Binary64.ofInt 1) (.own 3 []), .text "a" .common] (.own 4 [])) :=
  .tuple _ _ (.cons (.simple (.number rfl rfl (by decide +kernel)))
    (.cons (.simple (.text rfl rfl)) .nil))

end Value

end Treewalk
