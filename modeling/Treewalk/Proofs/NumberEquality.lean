import Treewalk.Equality
import Treewalk.Proofs.Rounding

/-!
When two numbers have the same key. A finite number is a rational (`Binary64.rational`): it is its
signed significand over any power of two that does not exceed its scale, and the comparisons of
numbers compare these rationals (`compare?_eq_iff`, `compareInt?_eq_iff`). The key of a number is the
integer that it is, or else its pattern; a pattern that is no integer is the only one of its rational
(`rational_injective`). So two numbers, other than a not-a-number, have the same key exactly if they
are equal (`Number.compare?_eq_iff`).
-/

set_option autoImplicit false
set_option relaxedAutoImplicit false

namespace Treewalk

namespace Binary64

/-! ### Rational values -/

/-- The rational number that a finite number is. -/
def rational (x : Binary64) : ℚ := if x.negative then -x.magnitude else x.magnitude

theorem abs_rational (x : Binary64) : |x.rational| = x.magnitude := by
  have hnonneg : 0 ≤ x.magnitude := by
    unfold magnitude
    positivity
  unfold rational
  split
  · rw [abs_neg, abs_of_nonneg hnonneg]
  · exact abs_of_nonneg hnonneg

/-- The sign bit of a number other than zero says whether it is below zero. -/
theorem negative_iff {x : Binary64} (hzero : x.rational ≠ 0) : x.negative = true ↔ x.rational < 0 := by
  have hpositive : 0 < x.magnitude := x.abs_rational ▸ abs_pos.mpr hzero
  unfold rational
  split
  · next hnegative => exact iff_of_true hnegative (by linarith)
  · next hnegative => exact iff_of_false hnegative (by linarith)

theorem two_pow_mul {power scale : ℤ} (hpower : power ≤ scale) :
    (2 : ℚ) ^ (scale - power).toNat * 2 ^ power = 2 ^ scale := by
  rw [← zpow_natCast, ← zpow_add₀ (by norm_num)]
  congr 1
  omega

/-- A signed significand over a lesser power of two is the same number. -/
theorem scaledTo_mul (x : Binary64) {power : ℤ} (hpower : power ≤ x.scale) :
    (x.scaledTo power : ℚ) * 2 ^ power = x.rational := by
  unfold scaledTo rational magnitude
  split <;> push_cast [Int.pow_eq]
  · rw [neg_mul, mul_assoc, two_pow_mul hpower]
  · rw [mul_assoc, two_pow_mul hpower]

/-- Numbers over one power of two are equal exactly if their signed significands are. -/
theorem scaledTo_eq_iff {x y : Binary64} {power : ℤ} (hx : power ≤ x.scale) (hy : power ≤ y.scale) :
    x.scaledTo power = y.scaledTo power ↔ x.rational = y.rational := by
  have hunit : (2 : ℚ) ^ power ≠ 0 := by positivity
  rw [← scaledTo_mul x hx, ← scaledTo_mul y hy, mul_left_inj' hunit, Int.cast_inj]

theorem plain_of_finite {x : Binary64} (hx : x.isFinite = true) :
    x.isNaN = false ∧ x.isInfinite = false := by
  simp_all [isFinite, isNaN, isInfinite]

theorem compare?_eq_iff {x y : Binary64} (hx : x.isFinite = true) (hy : y.isFinite = true) :
    x.compare? y = some .eq ↔ x.rational = y.rational := by
  rw [← scaledTo_eq_iff (min_le_left x.scale y.scale) (min_le_right x.scale y.scale)]
  simp [compare?, plain_of_finite hx, plain_of_finite hy]

theorem compareInt?_eq_iff {x : Binary64} (hx : x.isFinite = true) (i : ℤ) :
    x.compareInt? i = some .eq ↔ x.rational = i := by
  have hunit : (2 : ℚ) ^ min x.scale 0 ≠ 0 := by positivity
  have hinteger : ((i * Int.pow 2 (-min x.scale 0).toNat : ℤ) : ℚ) * 2 ^ min x.scale 0 = i := by
    push_cast [Int.pow_eq]
    rw [← zero_sub, mul_assoc, two_pow_mul (min_le_right x.scale 0), zpow_zero, mul_one]
  calc x.compareInt? i = some .eq
      ↔ x.scaledTo (min x.scale 0) = i * Int.pow 2 (-min x.scale 0).toNat := by
        simp [compareInt?, plain_of_finite hx]
    _ ↔ (x.scaledTo (min x.scale 0) : ℚ) * 2 ^ min x.scale 0 =
          ((i * Int.pow 2 (-min x.scale 0).toNat : ℤ) : ℚ) * 2 ^ min x.scale 0 := by
        rw [mul_left_inj' hunit, Int.cast_inj]
    _ ↔ x.rational = i := by rw [scaledTo_mul x (min_le_left x.scale 0), hinteger]

/-- The whole magnitude of a number, if its magnitude is whole. -/
def whole? (x : Binary64) : Option ℕ :=
  if 0 ≤ x.scale then some (x.significand * Nat.pow 2 x.scale.toNat)
  else
    let unit := Nat.pow 2 (-x.scale).toNat
    if x.significand % unit = 0 then some (x.significand / unit) else none

theorem whole?_eq_some_iff {x : Binary64} {m : ℕ} : x.whole? = some m ↔ x.magnitude = m := by
  unfold whole? magnitude
  split
  · next hscale =>
    obtain ⟨n, hn⟩ := Int.eq_ofNat_of_zero_le hscale
    rw [hn, Option.some_inj, zpow_natCast, Int.toNat_natCast, ← @Nat.cast_inj ℚ]
    push_cast [Nat.pow_eq]
    rfl
  · next hscale =>
    obtain ⟨n, hn⟩ := Int.eq_ofNat_of_zero_le (show 0 ≤ -x.scale by omega)
    have hpower : x.scale = -(n : ℤ) := by omega
    have hunit : (0 : ℚ) < 2 ^ n := by positivity
    rw [hn, Int.toNat_natCast, hpower, zpow_neg, zpow_natCast, ← div_eq_mul_inv,
      div_eq_iff hunit.ne']
    simp only [Nat.pow_eq]
    split
    · next hdivides =>
      rw [Option.some_inj, Nat.div_eq_iff_eq_mul_left (by positivity) (Nat.dvd_of_mod_eq_zero hdivides)]
      exact_mod_cast Iff.rfl
    · next hdivides =>
      refine iff_of_false nofun fun heq ↦ hdivides ?_
      have heq : x.significand = m * 2 ^ n := by exact_mod_cast heq
      rw [heq, Nat.mul_mod_left]

theorem toInt?_eq_some_iff {x : Binary64} {i : ℤ} :
    x.toInt? = some i ↔ x.isFinite = true ∧ x.rational = i := by
  have hunfold : x.toInt? =
      if !x.isFinite then none
      else (x.whole?.bind fun m ↦ some (m : ℤ)).map fun m ↦ if x.negative then -m else m := rfl
  rw [hunfold]
  by_cases hfinite : x.isFinite = true
  · simp only [hfinite, Bool.not_true, Bool.false_eq_true, if_false, true_and,
      Option.map_eq_some_iff, Option.bind_eq_some_iff, Option.some_inj, whole?_eq_some_iff]
    constructor
    · rintro ⟨-, ⟨m, hm, rfl⟩, rfl⟩
      unfold rational
      rw [hm]
      split <;> push_cast <;> rfl
    · intro hi
      refine ⟨i.natAbs, ⟨i.natAbs, ?_, rfl⟩, ?_⟩
      · rw [← abs_rational, hi, Nat.cast_natAbs, Int.cast_abs]
      · by_cases hzero : x.rational = 0
        · have : i = 0 := by exact_mod_cast hi.symm.trans hzero
          simp [this]
        · have hsign := negative_iff hzero
          rw [hi, Int.cast_lt_zero] at hsign
          rcases lt_or_ge i 0 with hbelow | habove
          · rw [if_pos (hsign.mpr hbelow)]
            omega
          · rw [if_neg fun hnegative ↦ habove.not_gt (hsign.mp hnegative)]
            omega
  · simp [hfinite]

/-- A number other than zero is told by the rational that it is. -/
theorem rational_injective {x y : Binary64} (hx : x.isFinite = true) (hy : y.isFinite = true)
    (hzero : x.rational ≠ 0) (hrational : x.rational = y.rational) : x = y := by
  have hmagnitude : x.magnitude = y.magnitude := by rw [← abs_rational, hrational, abs_rational]
  have hpositive : 0 < x.magnitude := x.abs_rational ▸ abs_pos.mpr hzero
  have hsign : x.negative = y.negative := by
    rw [Bool.eq_iff_iff, negative_iff hzero, negative_iff (hrational ▸ hzero), hrational]
  -- Both are what the rounding makes of their common magnitude.
  have hnumerator : 0 < x.magnitude.num.natAbs :=
    Int.natAbs_pos.mpr (Rat.num_pos.mpr hpositive).ne'
  have hquotient : (x.magnitude.num.natAbs : ℚ) / x.magnitude.den = x.magnitude := by
    rw [Nat.cast_natAbs, abs_of_pos (Rat.num_pos.mpr hpositive), Rat.num_div_den]
  have hrounded {z : Binary64} (hz : z.isFinite = true) (hequal : x.magnitude = z.magnitude) :
      ofRatio false x.magnitude.num.natAbs x.magnitude.den =
        ofFields false z.exponentField z.fractionField := by
    have hsignificand : 0 < z.significand := by
      refine Nat.pos_of_ne_zero fun hnone ↦ hpositive.ne' ?_
      rw [hequal, magnitude, hnone, Nat.cast_zero, zero_mul]
    refine ofRatio_of_close hz hsignificand hnumerator x.magnitude.den_pos ?_
    rw [hquotient, ← hequal, sub_self, abs_zero]
    positivity
  rw [← ofFields_fields x, ← ofFields_fields y, ofFields_withSign, ofFields_withSign y.negative,
    hsign, ← hrounded hx rfl, ← hrounded hy hmagnitude]

/-! ### Infinities -/

theorem infinite_of_not_finite {x : Binary64} (hx : x.isNaN = false) (hfinite : x.isFinite ≠ true) :
    x.isInfinite = true := by
  simp_all [isNaN, isFinite, isInfinite]

/-- There is one infinity of each sign. -/
theorem eq_of_infinite {x y : Binary64} (hx : x.isInfinite = true) (hy : y.isInfinite = true)
    (hsign : x.negative = y.negative) : x = y := by
  simp only [isInfinite, Bool.and_eq_true, beq_iff_eq] at hx hy
  rw [← ofFields_fields x, ← ofFields_fields y, hx.1, hx.2, hy.1, hy.2, hsign]

/-- An infinity equals itself only. -/
theorem compare?_infinite_iff {x y : Binary64} (hx : x.isNaN = false) (hy : y.isNaN = false)
    (hinfinite : x.isInfinite = true ∨ y.isInfinite = true) :
    x.compare? y = some .eq ↔ x = y := by
  have hrank : x.compare? y = some .eq ↔ x.isInfinite = y.isInfinite ∧ x.negative = y.negative := by
    unfold compare?
    rw [hx, hy]
    cases hfirst : x.isInfinite <;> cases hsecond : y.isInfinite <;> cases hsign : x.negative <;>
      cases hother : y.negative <;> simp_all +decide
  rw [hrank]
  constructor
  · rintro ⟨hkind, hsign⟩
    rcases hinfinite with hinfinite | hinfinite
    · exact eq_of_infinite hinfinite (hkind ▸ hinfinite) hsign
    · exact eq_of_infinite (hkind ▸ hinfinite) hinfinite hsign
  · rintro rfl
    exact ⟨rfl, rfl⟩

end Binary64

/-! ### Keys of numbers -/

namespace Number

/-- Whether a number is none. -/
def isNaN : Number → Bool
  | int _ => false
  | float x => x.isNaN

/-- The key of a number. -/
def key : Number → Key
  | int i => [.integer i]
  | float x => Key.ofFloat .common x

/-- Two floating-point numbers have the same key if they are the same pattern or the same integer. -/
theorem key_float_eq_iff {x y : Binary64} :
    (float x).key = (float y).key ↔ x = y ∨ ∃ i, x.toInt? = some i ∧ y.toInt? = some i := by
  have hkey (z : Binary64) : (float z).key = z.toInt?.elim [.fraction z] fun i ↦ [.integer i] := by
    simp only [key, Key.ofFloat, Key.thing, ite_self]
    cases z.toInt? <;> rfl
  rw [hkey, hkey]
  constructor
  · intro hequal
    cases hx : x.toInt? <;> cases hy : y.toInt? <;> simp_all
  · rintro (rfl | ⟨i, hi, hj⟩)
    · rfl
    · simp only [hi, hj, Option.elim_some]

theorem key_float_eq_int_iff {x : Binary64} {i : ℤ} :
    (float x).key = (int i).key ↔ x.toInt? = some i := by
  simp only [key, Key.ofFloat, Key.thing, ite_self]
  cases x.toInt? <;> simp

/-- A number is an integer exactly if its key is that of the integer. -/
theorem compareInt?_eq_iff_key {x : Binary64} (hx : x.isNaN = false) (i : ℤ) :
    x.compareInt? i = some .eq ↔ (float x).key = (int i).key := by
  rw [key_float_eq_int_iff, Binary64.toInt?_eq_some_iff]
  by_cases hfinite : x.isFinite = true
  · rw [Binary64.compareInt?_eq_iff hfinite, and_iff_right hfinite]
  · refine iff_of_false ?_ fun hinteger ↦ hfinite hinteger.1
    unfold Binary64.compareInt?
    rw [hx, Binary64.infinite_of_not_finite hx hfinite]
    cases x.negative <;> simp

theorem compareFloat?_eq_iff_key {x y : Binary64} (hx : x.isNaN = false) (hy : y.isNaN = false) :
    x.compare? y = some .eq ↔ (float x).key = (float y).key := by
  rw [key_float_eq_iff]
  by_cases hfinite : x.isFinite = true ∧ y.isFinite = true
  · have hint {z : Binary64} (hz : z.isFinite = true) (i : ℤ) : z.toInt? = some i ↔ z.rational = i :=
      Binary64.toInt?_eq_some_iff.trans (and_iff_right hz)
    simp only [Binary64.compare?_eq_iff hfinite.1 hfinite.2, hint hfinite.1, hint hfinite.2]
    constructor
    · intro hrational
      by_cases hwhole : ∃ i : ℤ, x.rational = i
      · obtain ⟨i, hi⟩ := hwhole
        exact Or.inr ⟨i, hi, hrational ▸ hi⟩
      · refine Or.inl (Binary64.rational_injective hfinite.1 hfinite.2 (fun hzero ↦ hwhole ⟨0, ?_⟩)
          hrational)
        rw [hzero, Int.cast_zero]
    · rintro (rfl | ⟨i, hi, hj⟩)
      · rfl
      · rw [hi, hj]
  · have hinfinite : x.isInfinite = true ∨ y.isInfinite = true := by
      rcases not_and_or.mp hfinite with hfirst | hsecond
      · exact Or.inl (Binary64.infinite_of_not_finite hx hfirst)
      · exact Or.inr (Binary64.infinite_of_not_finite hy hsecond)
    rw [Binary64.compare?_infinite_iff hx hy hinfinite]
    refine (or_iff_left ?_).symm
    rintro ⟨i, hi, hj⟩
    exact hfinite ⟨(Binary64.toInt?_eq_some_iff.mp hi).1, (Binary64.toInt?_eq_some_iff.mp hj).1⟩

/-- Two numbers are equal exactly if they have the same key. -/
theorem compare?_eq_iff {a b : Number} (ha : a.isNaN = false) (hb : b.isNaN = false) :
    a.compare? b = some .eq ↔ a.key = b.key := by
  cases a with
  | int i =>
    cases b with
    | int j => simp [compare?, key]
    | float y =>
      rw [@eq_comm Key, ← compareInt?_eq_iff_key hb, compare?, Option.map_eq_some_iff]
      constructor
      · rintro ⟨order, horder, hswap⟩
        cases order <;> first | exact horder | cases hswap
      · exact fun horder ↦ ⟨.eq, horder, rfl⟩
  | float x =>
    cases b with
    | int j => exact compareInt?_eq_iff_key ha j
    | float y => exact compareFloat?_eq_iff_key ha hb

end Number

end Treewalk
