import Mathlib.Data.Int.Log
import Mathlib.Data.Rat.Floor
import Mathlib.Tactic
import Treewalk.Number.Binary64

/-!
Rounding of quotients to double-precision numbers. What `Binary64.ofRatio` makes of a quotient
depends on nothing but the rational number that it is (`ofRatio_congr`), and the sign that it is
given has no part in the rounding (`ofRatio_withSign`). A quotient that differs from a positive
number by less than one part in two to the fifty-fourth is rounded to it (`ofRatio_of_close`).
-/

set_option autoImplicit false
set_option relaxedAutoImplicit false

namespace Treewalk.Binary64

/-! ### Fields -/

/-- A number is what its three fields say. -/
theorem ofFields_fields (x : Binary64) :
    ofFields x.negative x.exponentField x.fractionField = x := by
  have hbits := x.bits.toNat_lt
  have hsum : (if x.negative then Nat.pow 2 63 else 0) + x.exponentField * Nat.pow 2 52 +
      x.fractionField = x.bits.toNat := by
    unfold negative exponentField fractionField
    simp only [Nat.pow_eq, decide_eq_true_eq]
    split <;> omega
  unfold ofFields
  rw [hsum, UInt64.ofNat_toNat]

/-- The number with the sign bit set, if it is to be. -/
def withSign (isNegative : Bool) (x : Binary64) : Binary64 :=
  if isNegative then ⟨UInt64.ofNat (Nat.pow 2 63) + x.bits⟩ else x

theorem ofFields_withSign (isNegative : Bool) (exponent fraction : ℕ) :
    ofFields isNegative exponent fraction =
      withSign isNegative (ofFields false exponent fraction) := by
  cases isNegative with
  | false => rfl
  | true =>
    unfold withSign ofFields
    simp only [if_true, Bool.false_eq_true, if_false]
    rw [← UInt64.ofNat_add]
    congr 2
    omega

/-! ### Logarithms -/

/-- A power of two is at most a quotient exactly if the cross products say so. -/
theorem zpow_le_div_iff (numerator : ℕ) {denominator : ℕ} (hdenominator : 0 < denominator)
    (power : ℤ) :
    (2 : ℚ) ^ power ≤ numerator / denominator ↔
      if 0 ≤ power then denominator * Nat.pow 2 power.toNat ≤ numerator
      else denominator ≤ numerator * Nat.pow 2 (-power).toNat := by
  have hpositive : (0 : ℚ) < denominator := by exact_mod_cast hdenominator
  rw [le_div_iff₀ hpositive]
  split
  · next hpower =>
    obtain ⟨n, rfl⟩ := Int.eq_ofNat_of_zero_le hpower
    simp only [zpow_natCast, Int.toNat_natCast, Nat.pow_eq]
    rw [mul_comm]
    exact_mod_cast Iff.rfl
  · next hpower =>
    obtain ⟨n, hn⟩ := Int.eq_ofNat_of_zero_le (show 0 ≤ -power by omega)
    obtain rfl : power = -(n : ℤ) := by omega
    simp only [neg_neg, Int.toNat_natCast, Nat.pow_eq, zpow_neg, zpow_natCast]
    rw [inv_mul_le_iff₀ (by positivity), mul_comm]
    exact_mod_cast Iff.rfl

/-- A logarithm is known by the two powers that a number lies between. -/
theorem log_eq_of_bounds {base : ℕ} (hbase : 1 < base) {ratio : ℚ} {power : ℤ}
    (hlower : (base : ℚ) ^ power ≤ ratio) (hupper : ratio < (base : ℚ) ^ (power + 1)) :
    Int.log base ratio = power := by
  have hpositive : 0 < ratio := lt_of_lt_of_le (by positivity) hlower
  have hle := (Int.zpow_le_iff_le_log hbase hpositive).mp hlower
  have hlt := (Int.lt_zpow_iff_log_lt hbase hpositive).mp hupper
  omega

/-- A quotient is below twice the quotient of the powers of two that its parts begin with. -/
theorem div_lt_zpow_log2 (numerator : ℕ) {denominator : ℕ} (hdenominator : 0 < denominator) :
    (numerator : ℚ) / denominator < 2 ^ ((numerator.log2 : ℤ) - denominator.log2 + 1) := by
  have hpositive : (0 : ℚ) < denominator := by exact_mod_cast hdenominator
  have hlt : (numerator : ℚ) < 2 ^ (numerator.log2 + 1) := by exact_mod_cast Nat.lt_log2_self
  have hle : (2 : ℚ) ^ denominator.log2 ≤ denominator := by
    exact_mod_cast Nat.log2_self_le hdenominator.ne'
  have hsplit : (2 : ℚ) ^ (numerator.log2 + 1) =
      2 ^ ((numerator.log2 : ℤ) - denominator.log2 + 1) * 2 ^ denominator.log2 := by
    rw [← zpow_natCast, ← zpow_natCast, ← zpow_add₀ (by norm_num)]
    congr 1
    push_cast
    ring
  rw [div_lt_iff₀ hpositive]
  calc (numerator : ℚ) < 2 ^ (numerator.log2 + 1) := hlt
    _ = 2 ^ ((numerator.log2 : ℤ) - denominator.log2 + 1) * 2 ^ denominator.log2 := hsplit
    _ ≤ 2 ^ ((numerator.log2 : ℤ) - denominator.log2 + 1) * denominator := by gcongr

/-- A quotient is at least half the quotient of the powers of two that its parts begin with. -/
theorem zpow_log2_le_div {numerator denominator : ℕ} (hnumerator : 0 < numerator)
    (hdenominator : 0 < denominator) :
    2 ^ ((numerator.log2 : ℤ) - denominator.log2 - 1) ≤ (numerator : ℚ) / denominator := by
  have hpositive : (0 : ℚ) < denominator := by exact_mod_cast hdenominator
  have hle : (2 : ℚ) ^ numerator.log2 ≤ numerator := by
    exact_mod_cast Nat.log2_self_le hnumerator.ne'
  have hlt : (denominator : ℚ) ≤ 2 ^ (denominator.log2 + 1) := by
    exact_mod_cast Nat.lt_log2_self.le
  have hsplit : (2 : ℚ) ^ numerator.log2 =
      2 ^ ((numerator.log2 : ℤ) - denominator.log2 - 1) * 2 ^ (denominator.log2 + 1) := by
    rw [← zpow_natCast, ← zpow_natCast, ← zpow_add₀ (by norm_num)]
    congr 1
    push_cast
    ring
  rw [le_div_iff₀ hpositive]
  calc (2 : ℚ) ^ ((numerator.log2 : ℤ) - denominator.log2 - 1) * denominator
      ≤ 2 ^ ((numerator.log2 : ℤ) - denominator.log2 - 1) * 2 ^ (denominator.log2 + 1) := by
        gcongr
    _ = 2 ^ numerator.log2 := hsplit.symm
    _ ≤ numerator := hle

theorem floorLog2_eq_log {numerator denominator : ℕ} (hnumerator : 0 < numerator)
    (hdenominator : 0 < denominator) :
    floorLog2 numerator denominator = Int.log 2 ((numerator : ℚ) / denominator) := by
  have habove := div_lt_zpow_log2 numerator hdenominator
  have hbelow := zpow_log2_le_div hnumerator hdenominator
  have hreached := zpow_le_div_iff numerator hdenominator
    ((numerator.log2 : ℤ) - denominator.log2)
  unfold floorLog2
  simp only [← hreached]
  split
  · next hguess => exact (log_eq_of_bounds (by norm_num) (by exact_mod_cast hguess)
      (by exact_mod_cast habove)).symm
  · next hguess =>
    refine (log_eq_of_bounds (by norm_num) (by exact_mod_cast hbelow) ?_).symm
    rw [sub_add_cancel]
    exact_mod_cast not_le.mp hguess

/-! ### Rounding to natural numbers -/

theorem roundHalfEven_mul (numerator denominator : ℕ) {factor : ℕ} (hfactor : 0 < factor) :
    roundHalfEven (numerator * factor) (denominator * factor) =
      roundHalfEven numerator denominator := by
  have hless (a b : ℕ) : 2 * (a * factor) < b * factor ↔ 2 * a < b := by
    rw [← mul_assoc]
    exact Nat.mul_lt_mul_right hfactor
  have hmore (a b : ℕ) : b * factor < 2 * (a * factor) ↔ b < 2 * a := by
    rw [← mul_assoc]
    exact Nat.mul_lt_mul_right hfactor
  unfold roundHalfEven
  simp only [Nat.mul_div_mul_right _ _ hfactor, Nat.mul_mod_mul_right, hless, hmore]

/-- A quotient is rounded to a natural number that is nearer than a half. -/
theorem roundHalfEven_of_close {numerator denominator : ℕ} (hdenominator : 0 < denominator)
    {nearest : ℕ} (hclose : |(numerator : ℚ) / denominator - nearest| < 1 / 2) :
    roundHalfEven numerator denominator = nearest := by
  have hpositive : (0 : ℚ) < denominator := by exact_mod_cast hdenominator
  -- Times twice the denominator the bound is one between integers.
  obtain ⟨hlower, hupper⟩ := abs_lt.mp hclose
  rw [lt_sub_iff_add_lt, lt_div_iff₀ hpositive] at hlower
  rw [sub_lt_iff_lt_add, div_lt_iff₀ hpositive] at hupper
  have hlower : 2 * ((nearest : ℤ) * denominator) - denominator < 2 * numerator := by
    have : 2 * ((nearest : ℚ) * denominator) - denominator < 2 * numerator := by linarith
    exact_mod_cast this
  have hupper : 2 * (numerator : ℤ) < 2 * (nearest * denominator) + denominator := by
    have : 2 * (numerator : ℚ) < 2 * (nearest * denominator) + denominator := by linarith
    exact_mod_cast this
  have hdivision : (numerator : ℤ) =
      denominator * (numerator / denominator : ℕ) + (numerator % denominator : ℕ) := by
    exact_mod_cast (Nat.div_add_mod numerator denominator).symm
  have hrest := Nat.mod_lt numerator hdenominator
  unfold roundHalfEven
  generalize numerator / denominator = whole at hdivision ⊢
  generalize numerator % denominator = rest at hdivision hrest ⊢
  have hwhole : (nearest : ℤ) = whole ∨ (nearest : ℤ) = whole + 1 := by
    have hge : (whole : ℤ) ≤ nearest := by
      by_contra hlt
      nlinarith
    have hle : (nearest : ℤ) ≤ whole + 1 := by
      by_contra hgt
      nlinarith
    omega
  rcases hwhole with hsame | hnext
  · have hless : 2 * rest < denominator := by
      rw [hsame] at hupper
      zify
      linarith
    simp only [if_pos hless]
    omega
  · have hmore : denominator < 2 * rest := by
      rw [hnext] at hlower
      zify
      linarith
    rw [if_neg (by omega), if_pos hmore]
    omega

/-- A quotient over a power of two, rounded to a natural number. -/
def roundOver (numerator denominator : ℕ) (power : ℤ) : ℕ :=
  if 0 ≤ power then roundHalfEven numerator (denominator * Nat.pow 2 power.toNat)
  else roundHalfEven (numerator * Nat.pow 2 (-power).toNat) denominator

theorem roundOver_mul (numerator denominator : ℕ) {factor : ℕ} (hfactor : 0 < factor)
    (power : ℤ) : roundOver (numerator * factor) (denominator * factor) power =
      roundOver numerator denominator power := by
  unfold roundOver
  split
  · rw [mul_right_comm, roundHalfEven_mul _ _ hfactor]
  · rw [mul_right_comm, roundHalfEven_mul _ _ hfactor]

theorem roundOver_of_close {numerator denominator : ℕ} (hdenominator : 0 < denominator)
    {power : ℤ} {nearest : ℕ}
    (hclose : |(numerator : ℚ) / denominator - nearest * 2 ^ power| < 2 ^ power / 2) :
    roundOver numerator denominator power = nearest := by
  have hpower : (0 : ℚ) < 2 ^ power := by positivity
  have hscaled : |(numerator : ℚ) / denominator / 2 ^ power - nearest| < 1 / 2 := by
    have hsplit : (numerator : ℚ) / denominator / 2 ^ power - nearest =
        ((numerator : ℚ) / denominator - nearest * 2 ^ power) / 2 ^ power := by field_simp
    rw [hsplit, abs_div, abs_of_pos hpower, div_lt_iff₀ hpower]
    linarith
  unfold roundOver
  split
  · next hsign =>
    obtain ⟨n, rfl⟩ := Int.eq_ofNat_of_zero_le hsign
    refine roundHalfEven_of_close (by simp only [Nat.pow_eq]; positivity) ?_
    simpa [div_div] using hscaled
  · next hsign =>
    obtain ⟨n, hn⟩ := Int.eq_ofNat_of_zero_le (show 0 ≤ -power by omega)
    obtain rfl : power = -(n : ℤ) := by omega
    refine roundHalfEven_of_close hdenominator ?_
    have hratio : (numerator : ℚ) / denominator / 2 ^ (-(n : ℤ)) =
        numerator * 2 ^ n / denominator := by
      rw [zpow_neg, zpow_natCast, div_inv_eq_mul, div_mul_eq_mul_div]
    rw [hratio] at hscaled
    simpa using hscaled

/-! ### Rounding to numbers -/

/-- The power of two over which a quotient is rounded. -/
def unitPower (numerator denominator : ℕ) : ℤ :=
  max (floorLog2 numerator denominator - 52) (-1074)

/-- The number with a rounded significand over a power of two; one digit too many is carried. -/
def assemble (isNegative : Bool) (rounded : ℕ) (power : ℤ) : Binary64 :=
  let carried := rounded = Nat.pow 2 53
  let digits := if carried then Nat.pow 2 52 else rounded
  let power := if carried then power + 1 else power
  if digits < Nat.pow 2 52 then ofFields isNegative 0 digits
  else
    let exponent := (power + 1075).toNat
    if 2047 ≤ exponent then infinity isNegative
    else ofFields isNegative exponent (digits - Nat.pow 2 52)

theorem ofRatio_eq_assemble (isNegative : Bool) {numerator : ℕ} (hnumerator : 0 < numerator)
    (denominator : ℕ) : ofRatio isNegative numerator denominator =
      assemble isNegative
        (roundOver numerator denominator (unitPower numerator denominator))
        (unitPower numerator denominator) := by
  unfold ofRatio
  rw [if_neg hnumerator.ne']
  rfl

/-- What a quotient is rounded to depends on the rational number only. -/
theorem ofRatio_congr (isNegative : Bool) {numerator denominator other divisor : ℕ}
    (hnumerator : 0 < numerator) (hdenominator : 0 < denominator) (hother : 0 < other)
    (hdivisor : 0 < divisor) (hsame : (numerator : ℚ) / denominator = other / divisor) :
    ofRatio isNegative numerator denominator = ofRatio isNegative other divisor := by
  have hpower : unitPower numerator denominator = unitPower other divisor := by
    unfold unitPower
    rw [floorLog2_eq_log hnumerator hdenominator, floorLog2_eq_log hother hdivisor, hsame]
  have hcross : numerator * divisor = other * denominator := by
    rw [div_eq_div_iff (by positivity) (by positivity)] at hsame
    exact_mod_cast hsame
  rw [ofRatio_eq_assemble isNegative hnumerator, ofRatio_eq_assemble isNegative hother, hpower,
    ← roundOver_mul numerator denominator hdivisor, hcross, mul_comm denominator,
    roundOver_mul other divisor hdenominator]

/-- The sign has no part in the rounding. -/
theorem ofRatio_withSign (isNegative : Bool) (numerator denominator : ℕ) :
    ofRatio isNegative numerator denominator =
      withSign isNegative (ofRatio false numerator denominator) := by
  rcases Nat.eq_zero_or_pos numerator with rfl | hnumerator
  · exact ofFields_withSign isNegative 0 0
  · rw [ofRatio_eq_assemble isNegative hnumerator, ofRatio_eq_assemble false hnumerator]
    unfold assemble
    dsimp only
    split_ifs <;> exact ofFields_withSign isNegative _ _

/-! ### Quotients near a number -/

/-- The magnitude of a finite number. -/
def magnitude (x : Binary64) : ℚ := x.significand * 2 ^ x.scale

theorem fractionField_lt (x : Binary64) : x.fractionField < 2 ^ 52 := by
  unfold fractionField
  simp only [Nat.pow_eq]
  omega

/-- The significand of a number has fifty-three digits, or fewer at the least scale. -/
theorem significand_cases {x : Binary64} (hfinite : x.isFinite = true) :
    (2 ^ 52 ≤ x.significand ∧ x.significand < 2 ^ 53 ∧ -1074 ≤ x.scale ∧
      x.exponentField = (x.scale + 1075).toNat ∧ x.exponentField < 2047 ∧
      x.fractionField = x.significand - 2 ^ 52) ∨
    (x.significand < 2 ^ 52 ∧ x.scale = -1074 ∧ x.exponentField = 0 ∧
      x.fractionField = x.significand) := by
  have hfraction := x.fractionField_lt
  have hexponent : x.exponentField < 2047 := by
    have hrange : x.exponentField < 2048 := by
      unfold exponentField
      simp only [Nat.pow_eq]
      omega
    have hne : x.exponentField ≠ 2047 := by simpa [isFinite] using hfinite
    omega
  unfold significand scale
  simp only [Nat.pow_eq]
  split
  · next hzero => exact Or.inr ⟨hfraction, rfl, hzero, rfl⟩
  · exact Or.inl ⟨by omega, by omega, by omega, by omega, hexponent, by omega⟩

/-- A quotient near a number is rounded over the scale of the number, or over half of that if it
lies below a power of two that the number is. -/
theorem unitPower_of_close {x : Binary64} (hfinite : x.isFinite = true)
    (hpositive : 0 < x.significand) {numerator denominator : ℕ} (hnumerator : 0 < numerator)
    (hdenominator : 0 < denominator)
    (hclose : |(numerator : ℚ) / denominator - x.magnitude| < x.magnitude / 2 ^ 54) :
    unitPower numerator denominator = x.scale ∨
      x.significand = 2 ^ 52 ∧ unitPower numerator denominator = x.scale - 1 := by
  have hunit : (0 : ℚ) < 2 ^ x.scale := by positivity
  have hratio : (0 : ℚ) < (numerator : ℚ) / denominator := by positivity
  have hpower (n : ℕ) : (2 : ℚ) ^ (x.scale + n) = 2 ^ n * 2 ^ x.scale := by
    rw [zpow_add₀ (by norm_num), zpow_natCast, mul_comm]
  obtain ⟨hlower, hupper⟩ := abs_lt.mp hclose
  unfold magnitude at hlower hupper
  unfold unitPower
  rw [floorLog2_eq_log hnumerator hdenominator]
  generalize (numerator : ℚ) / denominator = ratio at *
  have hbelow {n : ℕ} (hn : ratio < 2 ^ n * 2 ^ x.scale) : Int.log 2 ratio < x.scale + n :=
    (Int.lt_zpow_iff_log_lt (by norm_num) hratio).mp (by exact_mod_cast (hpower n).symm ▸ hn)
  have habove {n : ℕ} (hn : 2 ^ n * 2 ^ x.scale ≤ ratio) : x.scale + n ≤ Int.log 2 ratio :=
    (Int.zpow_le_iff_le_log (by norm_num) hratio).mp (by exact_mod_cast (hpower n).symm ▸ hn)
  rcases significand_cases hfinite with ⟨hleast, hmost, hscale, -⟩ | ⟨hmost, hscale, -⟩
  · have hmost : (x.significand : ℚ) ≤ 2 ^ 53 - 1 := by
      have : x.significand + 1 ≤ 2 ^ 53 := hmost
      rw [le_sub_iff_add_le]
      exact_mod_cast this
    have hleast' : (2 : ℚ) ^ 52 ≤ x.significand := by exact_mod_cast hleast
    have htop : Int.log 2 ratio < x.scale + 53 := hbelow (by nlinarith)
    have hbottom : x.scale + 51 ≤ Int.log 2 ratio := habove (by nlinarith)
    by_cases hreached : 2 ^ 52 * 2 ^ x.scale ≤ ratio
    · have hlog := habove hreached
      omega
    · have hlog := hbelow (not_le.mp hreached)
      have hsignificand : x.significand = 2 ^ 52 := by
        refine le_antisymm (not_lt.mp fun hmore ↦ hreached ?_) hleast
        have hmore : (2 : ℚ) ^ 52 + 1 ≤ x.significand := by exact_mod_cast hmore
        nlinarith
      omega
  · have hmost : (x.significand : ℚ) ≤ 2 ^ 52 - 1 := by
      have : x.significand + 1 ≤ 2 ^ 52 := hmost
      rw [le_sub_iff_add_le]
      exact_mod_cast this
    have hlog : Int.log 2 ratio < x.scale + 52 := hbelow (by nlinarith)
    omega

/-- A quotient near a positive number is rounded to it. -/
theorem ofRatio_of_close {x : Binary64} (hfinite : x.isFinite = true)
    (hpositive : 0 < x.significand) {numerator denominator : ℕ} (hnumerator : 0 < numerator)
    (hdenominator : 0 < denominator)
    (hclose : |(numerator : ℚ) / denominator - x.magnitude| < x.magnitude / 2 ^ 54) :
    ofRatio false numerator denominator = ofFields false x.exponentField x.fractionField := by
  have hunit : (0 : ℚ) < 2 ^ x.scale := by positivity
  have hcases := significand_cases hfinite
  rw [ofRatio_eq_assemble false hnumerator]
  rcases unitPower_of_close hfinite hpositive hnumerator hdenominator hclose with
    hpower | ⟨hsignificand, hpower⟩
  · have hmost : (x.significand : ℚ) < 2 ^ 53 := by
      have : x.significand < 2 ^ 53 := by omega
      exact_mod_cast this
    have hrounded : roundOver numerator denominator x.scale = x.significand := by
      refine roundOver_of_close hdenominator (hclose.trans ?_)
      unfold magnitude
      nlinarith
    rw [hpower, hrounded]
    unfold assemble
    simp only [Nat.pow_eq, if_neg (show x.significand ≠ 2 ^ 53 by omega)]
    rcases hcases with ⟨hleast, -, -, hexponent, hbound, hfraction⟩ |
      ⟨hless, -, hexponent, hfraction⟩
    · rw [if_neg (by omega), if_neg (by omega), hexponent, hfraction]
    · rw [if_pos hless, hexponent, hfraction]
  · -- The quotient lies below the power of two: it is rounded up to it, over half the unit.
    have hhalf : (2 : ℚ) ^ x.scale = 2 * 2 ^ (x.scale - 1) := by
      rw [zpow_sub_one₀ (by norm_num)]
      ring
    have hrounded : roundOver numerator denominator (x.scale - 1) = 2 ^ 53 := by
      refine roundOver_of_close hdenominator ?_
      have hmagnitude : x.magnitude = (2 ^ 53 : ℕ) * 2 ^ (x.scale - 1) := by
        unfold magnitude
        rw [hsignificand, hhalf]
        push_cast
        ring
      rw [← hmagnitude]
      refine hclose.trans_le ?_
      rw [hmagnitude]
      push_cast
      apply le_of_eq
      ring
    rw [hpower, hrounded]
    unfold assemble
    simp only [Nat.pow_eq, if_true]
    rcases hcases with ⟨hleast, -, -, hexponent, hbound, hfraction⟩ | ⟨hless, -⟩
    · rw [if_neg (by omega), if_neg (by omega), sub_add_cancel, hexponent, hfraction,
        hsignificand]
    · omega

end Treewalk.Binary64
