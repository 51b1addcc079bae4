import Treewalk.Proofs.KeyEquality

/-!
Names that hold a not-a-number, beside names that hold none. The first part of the key of a number
tells whether it is one (`Key.Part.isNaN`), and so two names with the same key agree on whether they
hold one (`Value.holdsNaN_eq`). Nothing that holds one is equal to anything (`Value.Equals.holdsNaN`).
The two together let one name without a not-a-number be compared with all others: it has the key of
those that it is equal to, and of no other (`Value.key_eq_iff_equals_of_ordered`).
-/

set_option autoImplicit false
set_option relaxedAutoImplicit false

namespace Treewalk

/-! ### First parts of keys -/

/-- Whether a first part is that of the key of a not-a-number. -/
def Key.Part.isNaN : Key.Part → Bool
  | .thing _ => true
  | .fraction x => x.isNaN
  | _ => false

theorem Binary64.toInt?_eq_none_of_isNaN {x : Binary64} (hx : x.isNaN = true) : x.toInt? = none := by
  by_contra hsome
  obtain ⟨i, hi⟩ := Option.ne_none_iff_exists'.mp hsome
  have hfinite := (Binary64.toInt?_eq_some_iff.mp hi).1
  rw [(Binary64.plain_of_finite hfinite).1] at hx
  cases hx

theorem Key.head?_ofFloat (mark : Mark) (x : Binary64) :
    (Key.ofFloat mark x).head?.map Key.Part.isNaN = some x.isNaN := by
  unfold Key.ofFloat
  by_cases hx : x.isNaN = true
  · rw [Binary64.toInt?_eq_none_of_isNaN hx]
    cases mark <;> simp [hx, Key.thing, Key.Part.isNaN]
  · split
    · simp [hx, Key.Part.isNaN]
    · simp [hx, Key.Part.isNaN]

theorem Scalar.head?_key (mark : Mark) (scalar : Scalar) :
    (scalar.key mark).head?.map Key.Part.isNaN = some (Tree.leaf scalar).holdsNaN := by
  cases scalar with
  | float x => exact Key.head?_ofFloat _ x
  | _ => rfl

namespace Tree

mutual

/-- Trees with the same key agree on whether they hold a not-a-number. -/
theorem holdsNaN_eq {a b : Tree} {mark other : Mark} (hkey : a.key mark = b.key other) :
    a.holdsNaN = b.holdsNaN := by
  cases a with
  | leaf first =>
    have hfirst := Scalar.head?_key mark first
    cases b with
    | leaf second =>
      have hsecond := Scalar.head?_key other second
      rw [key, key] at hkey
      rw [hkey, hsecond] at hfirst
      exact (Option.some_inj.mp hfirst).symm
    | node tag children =>
      rw [key, key] at hkey
      rw [hkey] at hfirst
      exact absurd (by rwa [key]) (key_leaf_ne_node (Option.some_inj.mp hfirst).symm mark other)
  | node tag children =>
    cases b with
    | leaf second =>
      have hsecond := Scalar.head?_key other second
      rw [key, key] at hkey
      rw [← hkey] at hsecond
      exact absurd (hkey.symm.trans (by rw [key]))
        (key_leaf_ne_node (Option.some_inj.mp hsecond).symm other mark)
    | node tag' others =>
      rw [key, key] at hkey
      obtain ⟨hpart, hkeys⟩ := List.cons.inj hkey
      exact anyHoldsNaN_eq (Key.Part.node.inj hpart).2 hkeys

theorem anyHoldsNaN_eq {trees others : List Tree} {mark other : Mark} {place place' : Nat}
    (hlength : trees.length = others.length)
    (hkeys : keys mark place trees = keys other place' others) :
    anyHoldsNaN trees = anyHoldsNaN others := by
  cases trees with
  | nil =>
    cases others with
    | nil => rfl
    | cons second more => cases hlength
  | cons first rest =>
    cases others with
    | nil => cases hlength
    | cons second more =>
      rw [keys, keys] at hkeys
      obtain ⟨hfirst, hrest⟩ := (Key.Complete.tree _ first).cancel (.tree _ second) hkeys
      rw [anyHoldsNaN, anyHoldsNaN, holdsNaN_eq hfirst, anyHoldsNaN_eq (Nat.succ.inj hlength) hrest]

end

end Tree

namespace Value

variable {heap other : Array Cell}

theorem isNaN_head?_key {value : Value} {x : Number} {key : Key} (hx : value.number? = some x)
    (hkey : value.key? heap = some key) : key.head?.map Key.Part.isNaN = some x.isNaN := by
  cases value with
  | bool _ | int _ _ =>
    obtain rfl := Option.some_inj.mp hx
    obtain rfl := Option.some_inj.mp hkey
    rfl
  | float y mark =>
    obtain rfl := Option.some_inj.mp hx
    obtain rfl := Option.some_inj.mp hkey
    exact Key.head?_ofFloat mark y
  | _ => cases hx

mutual

/-- Names with the same key agree on whether they hold a not-a-number. -/
theorem holdsNaN_eq {a b : Value} {key : Key} (ha : a.key? heap = some key)
    (hb : b.key? other = some key) : a.holdsNaN = b.holdsNaN := by
  have hfamily := family_eq ha hb
  cases a with
  | bool _ | int _ _ | float _ _ =>
    obtain ⟨x, hx⟩ := exists_number? hfamily.symm
    rw [← isNaN_of_number? hx, ← isNaN_of_number? rfl]
    exact Option.some_inj.mp ((isNaN_head?_key rfl ha).symm.trans (isNaN_head?_key hx hb))
  | tuple items mark =>
    cases b with
    | tuple items' mark' =>
      obtain ⟨parts, hparts, rfl⟩ := key?_tuple_eq_some_iff.mp ha
      obtain ⟨parts', hparts', hkey⟩ := key?_tuple_eq_some_iff.mp hb
      obtain ⟨hpart, rfl⟩ := List.cons.inj hkey
      exact anyHoldsNaN_eq (Key.Part.tuple.inj hpart).symm hparts hparts'
    | _ => cases hfamily
  | range first last exclusive mark =>
    cases b with
    | range first' last' exclusive' mark' =>
      obtain ⟨x, y, hfirst, hlast, rfl⟩ := key?_range_eq_some_iff.mp ha
      obtain ⟨x', y', hfirst', hlast', hkey⟩ := key?_range_eq_some_iff.mp hb
      obtain ⟨-, hparts⟩ := List.cons.inj hkey
      obtain ⟨rfl, rfl⟩ := (complete_key? first' hfirst').cancel (complete_key? first hfirst) hparts
      rw [holdsNaN, holdsNaN, holdsNaN_eq hfirst hfirst', holdsNaN_eq hlast hlast']
    | _ => cases hfamily
  | node tag children mark =>
    cases b with
    | node tag' children' mark' =>
      exact Tree.holdsNaN_eq (Option.some_inj.mp (ha.trans hb.symm))
    | _ => cases hfamily
  | _ =>
    cases b with
    | bool _ | int _ _ | float _ _ | tuple _ _ | range _ _ _ _ | node _ _ _ => cases hfamily
    | _ => rfl

theorem anyHoldsNaN_eq {items others : List Value} {key : Key} (hlength : items.length = others.length)
    (ha : keys? heap items = some key) (hb : keys? other others = some key) :
    anyHoldsNaN items = anyHoldsNaN others := by
  cases items with
  | nil =>
    cases others with
    | nil => rfl
    | cons second more => cases hlength
  | cons first rest =>
    cases others with
    | nil => cases hlength
    | cons second more =>
      obtain ⟨x, y, hx, hy, rfl⟩ := keys?_cons_eq_some_iff.mp ha
      obtain ⟨x', y', hx', hy', hkeys⟩ := keys?_cons_eq_some_iff.mp hb
      obtain ⟨rfl, rfl⟩ := (complete_key? second hx').cancel (complete_key? first hx) hkeys
      rw [anyHoldsNaN, anyHoldsNaN, holdsNaN_eq hx hx', anyHoldsNaN_eq (Nat.succ.inj hlength) hy hy']

end

end Value

/-! ### Equality -/

/-- A number that is equal to one is no not-a-number, nor is the other. -/
theorem Number.isNaN_eq_false_of_compare? {x y : Number} (hequal : x.compare? y = some .eq) :
    x.isNaN = false ∧ y.isNaN = false := by
  cases x with
  | int i =>
    cases y with
    | int j => exact ⟨rfl, rfl⟩
    | float y =>
      refine ⟨rfl, ?_⟩
      by_contra hy
      simp_all [compare?, isNaN, Binary64.compareInt?]
  | float x =>
    cases y with
    | int j =>
      refine ⟨?_, rfl⟩
      by_contra hx
      simp_all [compare?, isNaN, Binary64.compareInt?]
    | float y =>
      rw [compare?] at hequal
      unfold Binary64.compare? at hequal
      split at hequal
      · cases hequal
      · next hnumbers =>
        rw [Bool.or_eq_true, not_or, Bool.not_eq_true, Bool.not_eq_true] at hnumbers
        exact hnumbers

namespace Value

theorem EqualsSimple.holdsNaN {a b : Value} (hequal : a.EqualsSimple b) :
    a.holdsNaN = false ∧ b.holdsNaN = false := by
  cases hequal with
  | nil => exact ⟨rfl, rfl⟩
  | number hx hy hequal =>
    rw [← isNaN_of_number? hx, ← isNaN_of_number? hy]
    exact Number.isNaN_eq_false_of_compare? hequal
  | text hs ht =>
    have hnone {value : Value} {s : String} (htext : value.text? = some s) :
        value.holdsNaN = false := by
      cases value with
      | text _ _ | symbol _ _ => rfl
      | _ => cases htext
    exact ⟨hnone hs, hnone ht⟩

end Value

namespace Tree

mutual

theorem Equals.holdsNaN {a b : Tree} (hequal : a.Equals b) :
    a.holdsNaN = false ∧ b.holdsNaN = false := by
  match hequal with
  | .leaf hequal =>
    rw [← Scalar.holdsNaN_toValue, ← Scalar.holdsNaN_toValue]
    exact hequal.holdsNaN
  | .node tag hequal => exact hequal.anyHoldsNaN

theorem AllEqual.anyHoldsNaN {trees others : List Tree} (hequal : AllEqual trees others) :
    Tree.anyHoldsNaN trees = false ∧ Tree.anyHoldsNaN others = false := by
  match hequal with
  | .nil => exact ⟨rfl, rfl⟩
  | .cons hfirst hrest =>
    simp only [Tree.anyHoldsNaN, hfirst.holdsNaN, hrest.anyHoldsNaN, Bool.or_self, and_self]

end

end Tree

namespace Value

mutual

/-- What is equal to anything holds no not-a-number. -/
theorem Equals.holdsNaN {a b : Value} (hequal : a.Equals b) :
    a.holdsNaN = false ∧ b.holdsNaN = false := by
  match hequal with
  | .simple hequal => exact hequal.holdsNaN
  | .tuple _ _ hequal => exact hequal.anyHoldsNaN
  | .range _ _ _ hfirst hlast =>
    simp only [Value.holdsNaN, hfirst.holdsNaN, hlast.holdsNaN, Bool.or_self, and_self]
  | .node _ _ _ hequal => exact hequal.anyHoldsNaN
  | .regexp _ | .bytes _ _ _ | .progression _ _ _ | .cell _ | .closure _ | .inner _ _
  | .hostClass _ | .function _ | .method _ _ _ _ => exact ⟨rfl, rfl⟩

theorem AllEqual.anyHoldsNaN {items others : List Value} (hequal : AllEqual items others) :
    Value.anyHoldsNaN items = false ∧ Value.anyHoldsNaN others = false := by
  match hequal with
  | .nil => exact ⟨rfl, rfl⟩
  | .cons hfirst hrest =>
    simp only [Value.anyHoldsNaN, hfirst.holdsNaN, hrest.anyHoldsNaN, Bool.or_self, and_self]

end

/-- A name without a not-a-number has the key of another name exactly if the two are equal. -/
theorem key_eq_iff_equals_of_ordered {heap other : Array Cell} {a b : Value} {key key' : Key}
    (ha : a.key? heap = some key) (hb : b.key? other = some key') (hnumber : b.holdsNaN = false) :
    key = key' ↔ a.Equals b := by
  constructor
  · rintro rfl
    exact equals_of_key? ha hb ((holdsNaN_eq ha hb).trans hnumber) hnumber
  · exact fun hequal ↦ hequal.key_eq ha hb hequal.holdsNaN.1 hnumber

end Value

end Treewalk
