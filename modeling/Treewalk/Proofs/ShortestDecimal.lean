import Treewalk.Number.Decimal
import Treewalk.Proofs.Rounding

/-!
Decimals that read back. What `Decimal.value` makes of digits and a power of ten depends on nothing
but the rational number that they stand for (`Decimal.value_congr`). Seventeen digits are enough to
read a number back (`Decimal.exists_onGrid?_seventeen`): on their grid one of the neighbours of the
number is nearer to it than rounding can tell apart. So the search for the fewest digits finds some
that read back as the number (`Decimal.readsAs_shortest`).
-/

set_option autoImplicit false
set_option relaxedAutoImplicit false

namespace Treewalk.Decimal

open Binary64

/-! ### Numbers of digits -/

theorem digitCount_le_iff {n count : ℕ} (hcount : 0 < count) :
    digitCount n ≤ count ↔ n < 10 ^ count :=
  Nat.length_toDigits_le_iff (by decide) hcount

theorem digitCount_pos (n : ℕ) : 0 < digitCount n := Nat.length_toDigits_pos

theorem lt_pow_digitCount (n : ℕ) : n < 10 ^ digitCount n :=
  (digitCount_le_iff (digitCount_pos n)).mp le_rfl

theorem pow_digitCount_le {n : ℕ} (hn : 0 < n) : 10 ^ (digitCount n - 1) ≤ n := by
  rcases Nat.lt_or_ge 1 (digitCount n) with hmany | hone
  · by_contra hlt
    have hless := (digitCount_le_iff (by omega)).mpr (not_le.mp hlt)
    omega
  · rw [Nat.sub_eq_zero_of_le hone]
    exact hn

/-- The number of digits of a decimal tells the logarithm of the number that it stands for. -/
theorem digitCount_add {digits : ℕ} (hdigits : 0 < digits) (power : ℤ) :
    (digitCount digits : ℤ) + power = Int.log 10 ((digits : ℚ) * 10 ^ power) + 1 := by
  have hcount := digitCount_pos digits
  have hunit : (0 : ℚ) < 10 ^ power := by positivity
  have hlower : (10 : ℚ) ^ ((digitCount digits : ℤ) + power - 1) ≤ digits * 10 ^ power := by
    have hle : (10 : ℚ) ^ (digitCount digits - 1) ≤ digits := by
      exact_mod_cast pow_digitCount_le hdigits
    have hsplit : (10 : ℚ) ^ ((digitCount digits : ℤ) + power - 1) =
        10 ^ (digitCount digits - 1) * 10 ^ power := by
      rw [← zpow_natCast, ← zpow_add₀ (by norm_num)]
      congr 1
      omega
    rw [hsplit]
    gcongr
  have hupper : (digits : ℚ) * 10 ^ power < 10 ^ ((digitCount digits : ℤ) + power) := by
    have hlt : (digits : ℚ) < 10 ^ digitCount digits := by
      exact_mod_cast lt_pow_digitCount digits
    rw [zpow_add₀ (by norm_num), zpow_natCast]
    gcongr
  have hlog : Int.log 10 ((digits : ℚ) * 10 ^ power) = (digitCount digits : ℤ) + power - 1 := by
    refine log_eq_of_bounds (by norm_num) (by exact_mod_cast hlower) ?_
    rw [sub_add_cancel]
    exact_mod_cast hupper
  omega

/-- The logarithm of a quotient of at least one is told by the digits of its whole part. -/
theorem log_div_of_le {numerator denominator : ℕ} (hdenominator : 0 < denominator)
    (hlarge : denominator ≤ numerator) :
    Int.log 10 ((numerator : ℚ) / denominator) = digitCount (numerator / denominator) - 1 := by
  have hbottom : (0 : ℚ) < denominator := by exact_mod_cast hdenominator
  have hwhole : 0 < numerator / denominator := Nat.div_pos hlarge hdenominator
  have hcount := digitCount_pos (numerator / denominator)
  refine log_eq_of_bounds (by norm_num) ?_ ?_
  · have hle := pow_digitCount_le hwhole
    rw [Nat.le_div_iff_mul_le hdenominator] at hle
    rw [le_div_iff₀ hbottom]
    have hpower : ((10 : ℕ) : ℚ) ^ ((digitCount (numerator / denominator) : ℤ) - 1) =
        ((10 ^ (digitCount (numerator / denominator) - 1) : ℕ) : ℚ) := by
      push_cast
      rw [← zpow_natCast]
      congr 1
      omega
    rw [hpower]
    exact_mod_cast hle
  · have hlt := lt_pow_digitCount (numerator / denominator)
    rw [Nat.div_lt_iff_lt_mul hdenominator] at hlt
    rw [div_lt_iff₀ hbottom, sub_add_cancel, zpow_natCast]
    exact_mod_cast hlt

/-- The logarithm of a quotient below one is told by the digits of a number that its inverse lies right
above. -/
theorem log_div_of_inverse {numerator denominator inverse : ℕ} (hnumerator : 0 < numerator)
    (hpositive : 0 < inverse) (hless : inverse * numerator < denominator)
    (hmore : denominator ≤ (inverse + 1) * numerator) :
    Int.log 10 ((numerator : ℚ) / denominator) = -digitCount inverse := by
  have hbottom : (0 : ℚ) < denominator := by exact_mod_cast Nat.zero_lt_of_lt hless
  have htop : (0 : ℚ) < numerator := by exact_mod_cast hnumerator
  have hcount := digitCount_pos inverse
  refine log_eq_of_bounds (by norm_num) ?_ ?_
  · have hle : inverse + 1 ≤ 10 ^ digitCount inverse := lt_pow_digitCount inverse
    have hcross : denominator ≤ 10 ^ digitCount inverse * numerator :=
      hmore.trans (Nat.mul_le_mul_right _ hle)
    rw [zpow_neg, zpow_natCast, inv_le_comm₀ (by positivity) (by positivity), inv_div,
      div_le_iff₀ htop]
    exact_mod_cast hcross
  · have hcross : 10 ^ (digitCount inverse - 1) * numerator < denominator :=
      (Nat.mul_le_mul_right _ (pow_digitCount_le hpositive)).trans_lt hless
    have hpower : ((10 : ℕ) : ℚ) ^ (-(digitCount inverse : ℤ) + 1) =
        ((10 : ℚ) ^ (digitCount inverse - 1))⁻¹ := by
      push_cast
      rw [← zpow_natCast, ← zpow_neg]
      congr 1
      omega
    rw [hpower, lt_inv_comm₀ (by positivity) (by positivity), inv_div, lt_div_iff₀ htop]
    exact_mod_cast hcross

theorem floorLog10_eq_log {numerator denominator : ℕ} (hnumerator : 0 < numerator)
    (hdenominator : 0 < denominator) :
    floorLog10 numerator denominator = Int.log 10 ((numerator : ℚ) / denominator) := by
  unfold floorLog10
  split
  · next hlarge => exact (log_div_of_le hdenominator hlarge).symm
  · next hsmall =>
    -- The inverse lies between its ceiling less one and its ceiling.
    obtain ⟨inverse, hinverse⟩ : ∃ inverse,
        inverse + 1 = (denominator + numerator - 1) / numerator := by
      refine ⟨(denominator + numerator - 1) / numerator - 1, Nat.sub_add_cancel ?_⟩
      exact Nat.div_pos (by omega) hnumerator
    have hless : inverse * numerator < denominator := by
      have hle : (inverse + 1) * numerator ≤ denominator + numerator - 1 :=
        (Nat.le_div_iff_mul_le hnumerator).mp hinverse.le
      rw [add_mul] at hle
      omega
    have hmore : denominator ≤ (inverse + 1) * numerator := by
      have hlt : denominator + numerator - 1 < (inverse + 1 + 1) * numerator :=
        (Nat.div_lt_iff_lt_mul hnumerator).mp (by omega)
      rw [add_mul] at hlt
      omega
    have hpositive : 0 < inverse := by
      by_contra hzero
      obtain rfl : inverse = 0 := by omega
      omega
    simp only [← hinverse, Nat.add_sub_cancel]
    rw [if_neg (by omega)]
    exact (log_div_of_inverse hnumerator hpositive hless hmore).symm

/-! ### Values of decimals -/

/-- Unless it is cut off, a decimal is rounded as the quotient that it stands for. -/
theorem value_eq_ofRatio (isNegative : Bool) {digits : ℕ} (hdigits : 0 < digits) (power : ℤ) :
    ∃ numerator denominator : ℕ, 0 < numerator ∧ 0 < denominator ∧
      (numerator : ℚ) / denominator = digits * 10 ^ power ∧
      value isNegative digits power =
        if 400 < (digitCount digits : ℤ) + power then infinity isNegative
        else if (digitCount digits : ℤ) + power < -400 then zero isNegative
        else ofRatio isNegative numerator denominator := by
  unfold value
  simp only [if_neg hdigits.ne']
  by_cases hpower : 0 ≤ power
  · obtain ⟨n, rfl⟩ := Int.eq_ofNat_of_zero_le hpower
    refine ⟨digits * Nat.pow 10 n, 1, ?_, one_pos, ?_, ?_⟩
    · simp only [Nat.pow_eq]
      positivity
    · simp
    · simp
  · obtain ⟨n, hn⟩ := Int.eq_ofNat_of_zero_le (show 0 ≤ -power by omega)
    obtain rfl : power = -(n : ℤ) := by omega
    refine ⟨digits, Nat.pow 10 n, hdigits, ?_, ?_, ?_⟩
    · simp only [Nat.pow_eq]
      positivity
    · rw [zpow_neg, zpow_natCast, ← div_eq_mul_inv]
      simp
    · rw [if_neg hpower]
      simp

/-- The value of a decimal depends on the rational number that it stands for only. -/
theorem value_congr (isNegative : Bool) {digits other : ℕ} (hdigits : 0 < digits)
    (hother : 0 < other) {power exponent : ℤ}
    (hsame : (digits : ℚ) * 10 ^ power = other * 10 ^ exponent) :
    value isNegative digits power = value isNegative other exponent := by
  obtain ⟨a, b, ha, hb, hratio, hvalue⟩ := value_eq_ofRatio isNegative hdigits power
  obtain ⟨c, d, hc, hd, hratio', hvalue'⟩ := value_eq_ofRatio isNegative hother exponent
  have hcount : (digitCount digits : ℤ) + power = digitCount other + exponent := by
    rw [digitCount_add hdigits, digitCount_add hother, hsame]
  rw [hvalue, hvalue', hcount,
    ofRatio_congr isNegative ha hb hc hd (hratio.trans (hsame.trans hratio'.symm))]

/-- The sign has no part in the value. -/
theorem value_withSign (isNegative : Bool) (digits : ℕ) (power : ℤ) :
    value isNegative digits power = withSign isNegative (value false digits power) := by
  unfold value
  dsimp only
  split_ifs
  · exact ofFields_withSign isNegative _ _
  · exact ofFields_withSign isNegative _ _
  · exact ofFields_withSign isNegative _ _
  · exact ofRatio_withSign isNegative _ _
  · exact ofRatio_withSign isNegative _ _

/-- A decimal near a positive number has the number as its value. -/
theorem value_of_close {x : Binary64} (hfinite : x.isFinite = true)
    (hpositive : 0 < x.significand) {digits : ℕ} (hdigits : 0 < digits) {power : ℤ}
    (hleast : -400 ≤ (digitCount digits : ℤ) + power)
    (hmost : (digitCount digits : ℤ) + power ≤ 400)
    (hclose : |(digits : ℚ) * 10 ^ power - x.magnitude| < x.magnitude / 2 ^ 54) :
    value false digits power = ofFields false x.exponentField x.fractionField := by
  obtain ⟨numerator, denominator, hnumerator, hdenominator, hratio, hvalue⟩ :=
    value_eq_ofRatio false hdigits power
  rw [hvalue, if_neg (by omega), if_neg (by omega)]
  rw [← hratio] at hclose
  exact ofRatio_of_close hfinite hpositive hnumerator hdenominator hclose

/-! ### Grids -/

/-- The neighbour of a quotient below it on the grid of a power of ten. -/
def gridFloor (numerator denominator : ℕ) (unit : ℤ) : ℕ :=
  (if 0 ≤ unit then numerator else numerator * Nat.pow 10 (-unit).toNat) /
    (if 0 ≤ unit then denominator * Nat.pow 10 unit.toNat else denominator)

/-- Of the two numbers on the grid that lie around a value, one that reads as the value is taken; if
both do, it is one of them. -/
theorem exists_onGrid?_eq (x : Binary64) (numerator denominator : ℕ) (leading : ℤ) (count : ℕ) :
    ∃ isUpper : Bool,
      onGrid? x numerator denominator leading count =
        match value false (gridFloor numerator denominator (leading - count + 1))
            (leading - count + 1) == x,
          value false (gridFloor numerator denominator (leading - count + 1) + 1)
            (leading - count + 1) == x with
        | true, true =>
          if isUpper then some (gridFloor numerator denominator (leading - count + 1) + 1)
          else some (gridFloor numerator denominator (leading - count + 1))
        | true, false => some (gridFloor numerator denominator (leading - count + 1))
        | false, true => some (gridFloor numerator denominator (leading - count + 1) + 1)
        | false, false => none :=
  ⟨_, rfl⟩

/-- What is found on a grid is one of the two neighbours, and reads back. -/
theorem onGrid?_cases (x : Binary64) (numerator denominator : ℕ) (leading : ℤ) (count : ℕ) :
    (∃ digits, onGrid? x numerator denominator leading count = some digits ∧
      value false digits (leading - count + 1) = x) ∨
    onGrid? x numerator denominator leading count = none ∧
      value false (gridFloor numerator denominator (leading - count + 1)) (leading - count + 1) ≠
        x ∧
      value false (gridFloor numerator denominator (leading - count + 1) + 1)
        (leading - count + 1) ≠ x := by
  obtain ⟨isUpper, hgrid⟩ := exists_onGrid?_eq x numerator denominator leading count
  rw [hgrid]
  generalize gridFloor numerator denominator (leading - count + 1) = lower
  cases hlower : value false lower (leading - count + 1) == x <;>
    cases hupper : value false (lower + 1) (leading - count + 1) == x
  · exact Or.inr ⟨rfl, ne_of_beq_false hlower, ne_of_beq_false hupper⟩
  · exact Or.inl ⟨lower + 1, rfl, eq_of_beq hupper⟩
  · exact Or.inl ⟨lower, rfl, eq_of_beq hlower⟩
  · cases isUpper
    · exact Or.inl ⟨lower, rfl, eq_of_beq hlower⟩
    · exact Or.inl ⟨lower + 1, rfl, eq_of_beq hupper⟩

/-- The logarithm of a positive number is far from where decimals are cut off. -/
theorem log_magnitude_bounds {x : Binary64} (hfinite : x.isFinite = true)
    (hpositive : 0 < x.significand) :
    -324 ≤ Int.log 10 x.magnitude ∧ Int.log 10 x.magnitude < 309 := by
  have hone : (1 : ℚ) ≤ x.significand := by exact_mod_cast hpositive
  have hmagnitude : 0 < x.magnitude := by
    unfold magnitude
    positivity
  have hscale : -1074 ≤ x.scale ∧ x.scale ≤ 971 ∧ x.significand < 2 ^ 53 := by
    rcases significand_cases hfinite with ⟨-, hmost, hleast, hexponent, hbound, -⟩ |
      ⟨hmost, hleast, -⟩
    · omega
    · omega
  obtain ⟨hleast, hmost, hsignificand⟩ := hscale
  constructor
  · refine (Int.zpow_le_iff_le_log (by norm_num) hmagnitude).mp ?_
    have hpowers : (2 : ℚ) ^ 1074 ≤ 10 ^ 324 := by
      exact_mod_cast (by decide +kernel : (2 : ℕ) ^ 1074 ≤ 10 ^ 324)
    calc ((10 : ℕ) : ℚ) ^ (-324 : ℤ) ≤ 2 ^ (-1074 : ℤ) := by
          rw [zpow_neg, zpow_neg]
          gcongr
          exact hpowers
      _ ≤ 2 ^ x.scale := zpow_le_zpow_right₀ (by norm_num) hleast
      _ ≤ x.magnitude := le_mul_of_one_le_left (by positivity) hone
  · refine (Int.lt_zpow_iff_log_lt (by norm_num) hmagnitude).mp ?_
    have hpowers : (2 : ℚ) ^ 53 * 2 ^ 971 ≤ 10 ^ 309 := by
      exact_mod_cast (by decide +kernel : (2 : ℕ) ^ 53 * 2 ^ 971 ≤ 10 ^ 309)
    calc x.magnitude < 2 ^ 53 * 2 ^ x.scale := by
          unfold magnitude
          gcongr
          exact_mod_cast hsignificand
      _ ≤ 2 ^ 53 * 2 ^ (971 : ℤ) := by
          gcongr
          norm_num
      _ ≤ ((10 : ℕ) : ℚ) ^ (309 : ℤ) := hpowers

/-- The neighbour below lies at most one unit below the quotient. -/
theorem gridFloor_bounds (numerator : ℕ) {denominator : ℕ} (hdenominator : 0 < denominator)
    (unit : ℤ) :
    (gridFloor numerator denominator unit : ℚ) * 10 ^ unit ≤ numerator / denominator ∧
      (numerator : ℚ) / denominator < (gridFloor numerator denominator unit + 1) * 10 ^ unit := by
  have hscale : (0 : ℚ) < 10 ^ unit := by positivity
  have hfloor (a : ℕ) {b : ℕ} (hb : 0 < b) :
      ((a / b : ℕ) : ℚ) ≤ a / b ∧ (a : ℚ) / b < (a / b : ℕ) + 1 := by
    refine ⟨Nat.cast_div_le, ?_⟩
    rw [div_lt_iff₀ (by exact_mod_cast hb), mul_comm]
    exact_mod_cast Nat.lt_mul_div_succ a hb
  have hscaled : (gridFloor numerator denominator unit : ℚ) ≤ numerator / denominator / 10 ^ unit ∧
      (numerator : ℚ) / denominator / 10 ^ unit < gridFloor numerator denominator unit + 1 := by
    unfold gridFloor
    by_cases hunit : 0 ≤ unit
    · obtain ⟨n, rfl⟩ := Int.eq_ofNat_of_zero_le hunit
      simpa [div_div] using hfloor numerator (show 0 < denominator * 10 ^ n by positivity)
    · obtain ⟨n, hn⟩ := Int.eq_ofNat_of_zero_le (show 0 ≤ -unit by omega)
      obtain rfl : unit = -(n : ℤ) := by omega
      have hratio : (numerator : ℚ) / denominator / 10 ^ (-(n : ℤ)) =
          (numerator * 10 ^ n : ℕ) / denominator := by
        rw [zpow_neg, zpow_natCast, div_inv_eq_mul, div_mul_eq_mul_div]
        push_cast
        rfl
      rw [hratio, if_neg hunit, if_neg hunit, neg_neg, Int.toNat_natCast, Nat.pow_eq]
      exact hfloor (numerator * 10 ^ n) hdenominator
  exact ⟨(le_div_iff₀ hscale).mp hscaled.1, (div_lt_iff₀ hscale).mp hscaled.2⟩

/-- Seventeen digits that are no more than half a unit off are read back. -/
theorem value_of_half_unit {x : Binary64} (hfinite : x.isFinite = true) (hpositive : 0 < x.significand)
    {unit : ℤ} (hleast : -324 ≤ unit + 16) (hmost : unit + 16 < 309)
    (hlower : 10 ^ 16 * 10 ^ unit ≤ x.magnitude) {digits : ℕ} (hdigits : 10 ^ 16 ≤ digits)
    (hbound : digits ≤ 10 ^ 17)
    (hnear : |(digits : ℚ) * 10 ^ unit - x.magnitude| ≤ 10 ^ unit / 2) :
    value false digits unit = ofFields false x.exponentField x.fractionField := by
  have hscale : (0 : ℚ) < 10 ^ unit := by positivity
  have hcount : digitCount digits ≤ 18 := (digitCount_le_iff (by norm_num)).mpr (by omega)
  refine value_of_close hfinite hpositive (by omega) (by omega) (by omega) (hnear.trans_lt ?_)
  rw [lt_div_iff₀ (by norm_num)]
  linarith

/-- On the grid of seventeen digits something reads back. -/
theorem exists_onGrid?_seventeen {x : Binary64} (hfinite : x.isFinite = true)
    (hpositive : 0 < x.significand) {numerator denominator : ℕ} (hnumerator : 0 < numerator)
    (hdenominator : 0 < denominator)
    (hratio : (numerator : ℚ) / denominator = x.magnitude) :
    ∃ digits, onGrid? (ofFields false x.exponentField x.fractionField) numerator denominator
      (floorLog10 numerator denominator) 17 = some digits := by
  obtain ⟨hleast, hmost⟩ := log_magnitude_bounds hfinite hpositive
  have hlog := floorLog10_eq_log hnumerator hdenominator
  rw [hratio] at hlog
  have hmagnitude : 0 < x.magnitude := by
    rw [← hratio]
    positivity
  have hlower := Int.zpow_log_le_self (b := 10) (by norm_num) hmagnitude
  have hupper := Int.lt_zpow_succ_log_self (b := 10) (by norm_num) x.magnitude
  rw [← hlog] at hleast hmost hlower hupper
  rcases onGrid?_cases (ofFields false x.exponentField x.fractionField) numerator denominator
    (floorLog10 numerator denominator) 17 with ⟨digits, hfound, -⟩ | ⟨-, hbelow, habove⟩
  · exact ⟨digits, hfound⟩
  · obtain ⟨hfloor, hceiling⟩ := gridFloor_bounds numerator hdenominator
      (floorLog10 numerator denominator - (17 : ℕ) + 1)
    rw [hratio] at hfloor hceiling
    generalize floorLog10 numerator denominator = leading at *
    generalize hunit : leading - (17 : ℕ) + 1 = unit at *
    obtain rfl : leading = unit + 16 := by push_cast at hunit; omega
    generalize gridFloor numerator denominator unit = lower at *
    have hscale : (0 : ℚ) < 10 ^ unit := by positivity
    have hlower : 10 ^ 16 * 10 ^ unit ≤ x.magnitude := by
      rw [zpow_add₀ (by norm_num)] at hlower
      push_cast at hlower
      rw [mul_comm]
      exact hlower
    have hupper : x.magnitude < 10 ^ 17 * 10 ^ unit := by
      rw [zpow_add₀ (by norm_num), zpow_add₀ (by norm_num)] at hupper
      push_cast at hupper
      nlinarith
    -- Both neighbours have seventeen digits, unless the upper one is a power of ten.
    have hfew : 10 ^ 16 ≤ lower := by
      have hlt : (10 : ℚ) ^ 16 * 10 ^ unit < (lower + 1) * 10 ^ unit := hlower.trans_lt hceiling
      have hlt : (10 : ℚ) ^ 16 < lower + 1 := lt_of_mul_lt_mul_right hlt hscale.le
      exact Nat.lt_succ_iff.mp (by exact_mod_cast hlt)
    have hmany : lower < 10 ^ 17 := by
      have hlt : (lower : ℚ) * 10 ^ unit < 10 ^ 17 * 10 ^ unit := hfloor.trans_lt hupper
      exact_mod_cast lt_of_mul_lt_mul_right hlt hscale.le
    by_cases hhalf : x.magnitude - lower * 10 ^ unit ≤ 10 ^ unit / 2
    · refine absurd (value_of_half_unit hfinite hpositive hleast hmost hlower hfew hmany.le ?_) hbelow
      rw [abs_sub_comm, abs_of_nonneg (by linarith)]
      exact hhalf
    · refine absurd
        (value_of_half_unit hfinite hpositive hleast hmost hlower (by omega) hmany ?_) habove
      push_cast
      rw [abs_of_nonneg (by linarith)]
      linarith

/-! ### The search -/

/-- A decimal that reads back as a number. -/
def ReadsAs (decimal : Decimal) (x : Binary64) : Prop :=
  value false decimal.digits (decimal.leading - digitCount decimal.digits + 1) = x

/-- The search comes upon the first grid on which something reads back. -/
theorem readsAs_search {x : Binary64} {numerator denominator : ℕ} {leading : ℤ} (fuel count : ℕ)
    (hfound : ∃ fine, count ≤ fine ∧ fine < count + fuel ∧
      ∃ digits, onGrid? x numerator denominator leading fine = some digits) :
    (search x numerator denominator leading fuel count).ReadsAs x := by
  induction fuel generalizing count with
  | zero =>
    obtain ⟨fine, hleast, hmost, -⟩ := hfound
    omega
  | succ fuel ih =>
    unfold search
    rcases onGrid?_cases x numerator denominator leading count with
      ⟨digits, hgrid, hvalue⟩ | ⟨hgrid, -⟩
    · rw [hgrid]
      unfold ReadsAs
      dsimp only
      have hpower : leading + ((digitCount digits : ℤ) - count) - digitCount digits + 1 =
          leading - count + 1 := by omega
      rw [hpower]
      exact hvalue
    · rw [hgrid]
      refine ih (count + 1) ?_
      obtain ⟨fine, hleast, hmost, digits, hdigits⟩ := hfound
      have hne : fine ≠ count := by
        rintro rfl
        rw [hgrid] at hdigits
        cases hdigits
      exact ⟨fine, by omega, by omega, digits, hdigits⟩

theorem exists_eq_trimZeros_mul (fuel digits : ℕ) :
    ∃ zeros, digits = trimZeros fuel digits * 10 ^ zeros := by
  induction fuel generalizing digits with
  | zero => exact ⟨0, by simp [trimZeros]⟩
  | succ fuel ih =>
    unfold trimZeros
    split
    · next hzero =>
      obtain ⟨zeros, hzeros⟩ := ih (digits / 10)
      refine ⟨zeros + 1, ?_⟩
      rw [pow_succ, ← mul_assoc, ← hzeros]
      omega
    · exact ⟨0, by simp⟩

/-- Zeros at the end make no difference. -/
theorem readsAs_trimZeros {x : Binary64} {digits : ℕ} {leading : ℤ} (hdigits : 0 < digits)
    (hreads : ReadsAs ⟨digits, leading⟩ x) (fuel : ℕ) :
    0 < trimZeros fuel digits ∧ ReadsAs ⟨trimZeros fuel digits, leading⟩ x := by
  obtain ⟨zeros, hzeros⟩ := exists_eq_trimZeros_mul fuel digits
  generalize trimZeros fuel digits = trimmed at *
  subst hzeros
  have htrimmed : 0 < trimmed := Nat.pos_of_mul_pos_right hdigits
  have hcount : (digitCount (trimmed * 10 ^ zeros) : ℤ) = digitCount trimmed + zeros := by
    have hwhole := digitCount_add hdigits 0
    rw [digitCount_add htrimmed zeros]
    simpa using hwhole
  refine ⟨htrimmed, ?_⟩
  unfold ReadsAs at hreads ⊢
  rw [← hreads]
  refine value_congr false htrimmed hdigits ?_
  dsimp only
  rw [hcount]
  push_cast
  rw [mul_assoc, ← zpow_natCast, ← zpow_add₀ (by norm_num)]
  congr 2
  omega

theorem significand_pos {x : Binary64} (hzero : x.isZero = false) : 0 < x.significand := by
  unfold significand
  split
  · next hexponent =>
    have hfraction : x.fractionField ≠ 0 := by simpa [isZero, hexponent] using hzero
    omega
  · simp only [Nat.pow_eq]
    positivity

/-- A number that is not zero has not the fields of zero. -/
theorem ofFields_ne_zero {x : Binary64} (hfinite : x.isFinite = true) (hzero : x.isZero = false) :
    ofFields false x.exponentField x.fractionField ≠ zero false := by
  intro hsame
  have hfraction := x.fractionField_lt
  have hexponent : x.exponentField < 2047 := by
    rcases significand_cases hfinite with hnormal | hsubnormal <;> omega
  have hbits := congrArg (fun y : Binary64 ↦ y.bits.toNat) hsame
  simp only [ofFields, zero, Nat.pow_eq, Bool.false_eq_true, if_false, UInt64.toNat_ofNat'] at hbits
  have hboth : x.exponentField = 0 ∧ x.fractionField = 0 := by omega
  simp [isZero, hboth.1, hboth.2] at hzero

/-- The fewest digits of a number that is not zero read back as its magnitude. -/
theorem readsAs_shortest {x : Binary64} (hfinite : x.isFinite = true) (hzero : x.isZero = false) :
    0 < (shortest x).digits ∧
      (shortest x).ReadsAs (ofFields false x.exponentField x.fractionField) := by
  have hpositive := significand_pos hzero
  obtain ⟨numerator, denominator, hnumerator, hdenominator, hratio, hshortest⟩ :
      ∃ numerator denominator : ℕ, 0 < numerator ∧ 0 < denominator ∧
        (numerator : ℚ) / denominator = x.magnitude ∧
        shortest x =
          let found := search (ofFields false x.exponentField x.fractionField) numerator denominator
            (floorLog10 numerator denominator) 17 1
          ⟨trimZeros 17 found.digits, found.leading⟩ := by
    refine ⟨_, _, ?_, ?_, ?_, rfl⟩
    · simp only [Nat.pow_eq]
      split <;> positivity
    · simp only [Nat.pow_eq]
      split <;> positivity
    · unfold magnitude
      by_cases hscale : 0 ≤ x.scale
      · obtain ⟨n, hn⟩ := Int.eq_ofNat_of_zero_le hscale
        simp [hn]
      · obtain ⟨n, hn⟩ := Int.eq_ofNat_of_zero_le (show 0 ≤ -x.scale by omega)
        obtain hn : x.scale = -(n : ℤ) := by omega
        simp only [if_neg hscale]
        rw [hn]
        simp [div_eq_mul_inv]
  have hreads := readsAs_search 17 1 ⟨17, by omega, by omega,
    exists_onGrid?_seventeen hfinite hpositive hnumerator hdenominator hratio⟩
  rw [hshortest]
  generalize search _ _ _ _ 17 1 = found at hreads ⊢
  have hdigits : 0 < found.digits := by
    refine Nat.pos_of_ne_zero fun hnone ↦ ?_
    unfold ReadsAs value at hreads
    rw [if_pos hnone] at hreads
    exact absurd hreads.symm (ofFields_ne_zero hfinite hzero)
  exact readsAs_trimZeros hdigits hreads 17

end Treewalk.Decimal
