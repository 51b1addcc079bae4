import Treewalk.Json.Reader
import Treewalk.Json.Writer
import Treewalk.Proofs.ShortestDecimal

/-!
Numbers in JSON text. A number is read up to what may follow a value (`Json.number?_append`). The
text of an integer is read back as the integer (`Json.number?_integerText`). The text of a
double-precision number is a decimal that reads back as the number, in one of three layouts; each of
them is read as the value of the decimal (`Json.magnitude?_write`), and so the text is read back as
the number (`Json.number?_text`).
-/

set_option autoImplicit false
set_option relaxedAutoImplicit false

namespace Treewalk

namespace Json

/-! ### What may follow a value -/

/-- What may stand after a value in a list: nothing, a comma, a closing bracket, or a line break. -/
def Delimited (rest : List Char) : Prop :=
  ∀ c ∈ rest.head?, c = ',' ∨ c = ']' ∨ c = Text.lineFeed

theorem delimited_nil : Delimited [] := nofun

theorem delimited_cons {c : Char} (rest : List Char) (hc : c = ',' ∨ c = ']' ∨ c = Text.lineFeed) :
    Delimited (c :: rest) := by
  intro d hd
  obtain rfl : c = d := by simpa using hd
  exact hc

/-- What follows a value does not go on with a number. -/
theorem Delimited.cases {rest : List Char} (hrest : Delimited rest) :
    rest = [] ∨ ∃ c more, rest = c :: more ∧ Text.isAsciiDigit c = false ∧ c ≠ '.' ∧ c ≠ 'e' ∧
      c ≠ 'E' ∧ c ≠ '-' ∧ c ≠ '+' ∧ c ≠ '0' := by
  cases rest with
  | nil => exact Or.inl rfl
  | cons c more =>
    refine Or.inr ⟨c, more, rfl, ?_⟩
    rcases hrest c rfl with rfl | rfl | rfl <;> decide

/-! ### Numbers -/

/-- Splits off the sign of an exponent: whether it is a minus, and the rest. -/
def signed : List Char → Bool × List Char
  | '-' :: more => (true, more)
  | '+' :: more => (false, more)
  | cs => (false, cs)

theorem signed_of_ne {c : Char} (hminus : c ≠ '-') (hplus : c ≠ '+') (more : List Char) :
    signed (c :: more) = (false, c :: more) := by
  simp [signed, hminus, hplus]

/-- An exponent, with its sign split off by name. -/
theorem exponent_cons {mark : Char} (hmark : (mark = 'e' || mark = 'E') = true)
    (cs : List Char) :
    exponent (mark :: cs) =
      if (spanDigits (signed cs).2).1.isEmpty then (none, mark :: cs)
      else
        (some (if (signed cs).1 then -((Text.ofDigits 10 (spanDigits (signed cs).2).1 : Nat) : Int)
          else ((Text.ofDigits 10 (spanDigits (signed cs).2).1 : Nat) : Int)),
          (spanDigits (signed cs).2).2) := by
  simp only [exponent, if_pos hmark]
  cases cs with
  | nil => rfl
  | cons c cs =>
    by_cases hminus : c = '-'
    · subst hminus
      rfl
    · by_cases hplus : c = '+'
      · subst hplus
        rfl
      · simp [signed_of_ne hminus hplus, hminus, hplus]

/-- The whole part of a number that does not begin with a zero. -/
theorem whole?_of_ne {c : Char} (hzero : c ≠ '0') (cs : List Char) :
    whole? (c :: cs) =
      if (spanDigits (c :: cs)).1.isEmpty then none
      else some ((spanDigits (c :: cs)).1, (spanDigits (c :: cs)).2) := by
  simp [whole?, hzero]

section

variable {rest : List Char} (hrest : Delimited rest)

include hrest

theorem spanDigits_append (cs : List Char) :
    spanDigits (cs ++ rest) = ((spanDigits cs).1, (spanDigits cs).2 ++ rest) := by
  unfold spanDigits
  induction cs with
  | nil =>
    rcases hrest.cases with rfl | ⟨c, more, rfl, hdigit, -⟩
    · rfl
    · simp [hdigit]
  | cons c cs ih =>
    simp only [Prod.mk.injEq, List.cons_append] at ih ⊢
    by_cases hc : Text.isAsciiDigit c = true
    · simp [hc, ih.1, ih.2]
    · simp [hc]

omit hrest in
theorem fraction_of_ne {c : Char} (hpoint : c ≠ '.') (cs : List Char) :
    fraction (c :: cs) = (none, c :: cs) := by
  simp [fraction, hpoint]

theorem fraction_append (cs : List Char) :
    fraction (cs ++ rest) = ((fraction cs).1, (fraction cs).2 ++ rest) := by
  cases cs with
  | nil =>
    rcases hrest.cases with rfl | ⟨c, more, rfl, -, hpoint, -⟩
    · rfl
    · exact fraction_of_ne hpoint more
  | cons c cs =>
    by_cases hc : c = '.'
    · subst hc
      simp only [List.cons_append, fraction, spanDigits_append hrest]
      split <;> rfl
    · rw [List.cons_append, fraction_of_ne hc, fraction_of_ne hc]
      rfl

theorem exponent_append (cs : List Char) :
    exponent (cs ++ rest) = ((exponent cs).1, (exponent cs).2 ++ rest) := by
  cases cs with
  | nil =>
    rcases hrest.cases with rfl | ⟨c, more, rfl, -, -, hlower, hupper, -⟩
    · rfl
    · simp [exponent, hlower, hupper]
  | cons mark cs =>
    by_cases hmark : (mark = 'e' || mark = 'E') = true
    · have hsigned : signed (cs ++ rest) = ((signed cs).1, (signed cs).2 ++ rest) := by
        cases cs with
        | nil =>
          rcases hrest.cases with rfl | ⟨c, more, rfl, -, -, -, -, hminus, hplus, -⟩
          · rfl
          · exact signed_of_ne hminus hplus more
        | cons c cs =>
          by_cases hminus : c = '-'
          · subst hminus
            rfl
          · by_cases hplus : c = '+'
            · subst hplus
              rfl
            · simp [signed_of_ne hminus hplus]
      rw [List.cons_append, exponent_cons hmark, exponent_cons hmark, hsigned,
        spanDigits_append hrest]
      split <;> rfl
    · simp only [List.cons_append, exponent, if_neg hmark]

theorem whole?_append (cs : List Char) :
    whole? (cs ++ rest) = (whole? cs).map fun parts ↦ (parts.1, parts.2 ++ rest) := by
  cases cs with
  | nil =>
    rcases hrest.cases with rfl | ⟨c, more, rfl, hdigit, -, -, -, -, -, hzero⟩
    · rfl
    · simp [whole?, spanDigits, hdigit, hzero]
  | cons c cs =>
    by_cases hc : c = '0'
    · subst hc
      rfl
    · rw [List.cons_append, whole?_of_ne hc, whole?_of_ne hc, ← List.cons_append,
        spanDigits_append hrest]
      split <;> rfl

theorem magnitude?_append (isNegative : Bool) (cs : List Char) :
    magnitude? isNegative (cs ++ rest) =
      (magnitude? isNegative cs).map fun parts ↦ (parts.1, parts.2 ++ rest) := by
  unfold magnitude?
  rw [whole?_append hrest, Option.map_map, Option.map_map]
  congr 1
  funext parts
  simp only [Function.comp_apply, fraction_append hrest, exponent_append hrest]
  split <;> rfl

omit hrest in
/-- A number without a minus is its magnitude. -/
theorem number?_of_ne {c : Char} (hminus : c ≠ '-') (cs : List Char) :
    number? (c :: cs) = magnitude? false (c :: cs) := by
  simp [number?, hminus]

/-- A number is read up to what may follow a value. -/
theorem number?_append (cs : List Char) :
    number? (cs ++ rest) = (number? cs).map fun parts ↦ (parts.1, parts.2 ++ rest) := by
  cases cs with
  | nil =>
    rcases hrest.cases with rfl | ⟨c, more, rfl, hdigit, -, -, -, hminus, -, hzero⟩
    · rfl
    · simp [number?, hminus, magnitude?, whole?, spanDigits, hdigit, hzero]
  | cons c cs =>
    by_cases hc : c = '-'
    · subst hc
      exact magnitude?_append hrest true cs
    · rw [List.cons_append, number?_of_ne hc, number?_of_ne hc]
      exact magnitude?_append hrest false (c :: cs)

end

/-- What a number begins with. -/
theorem digit_of_whole? {cs : List Char} {parts : List Char × List Char}
    (hwhole : whole? cs = some parts) :
    ∃ c more, cs = c :: more ∧ Text.isAsciiDigit c = true := by
  cases cs with
  | nil => cases hwhole
  | cons c more =>
    refine ⟨c, more, rfl, ?_⟩
    by_cases hzero : c = '0'
    · subst hzero
      rfl
    · by_cases hc : Text.isAsciiDigit c = true
      · exact hc
      · simp [whole?_of_ne hzero, spanDigits, hc] at hwhole

theorem whole?_of_magnitude? {isNegative : Bool} {cs : List Char} {found : Raw × List Char}
    (hmagnitude : magnitude? isNegative cs = some found) : ∃ parts, whole? cs = some parts := by
  obtain ⟨parts, hparts, -⟩ := Option.map_eq_some_iff.mp hmagnitude
  exact ⟨parts, hparts⟩

theorem number?_of_magnitude? {cs : List Char} {found : Raw × List Char}
    (hmagnitude : magnitude? false cs = some found) : number? cs = some found := by
  obtain ⟨parts, hwhole⟩ := whole?_of_magnitude? hmagnitude
  obtain ⟨c, more, rfl, hdigit⟩ := digit_of_whole? hwhole
  have hminus : c ≠ '-' := by
    rintro rfl
    cases hdigit
  rw [number?_of_ne hminus, hmagnitude]

/-! ### Integers -/

/-- A list of digits with something behind it that is none. -/
theorem spanDigits_of_digits {digits rest : List Char}
    (hdigits : ∀ c ∈ digits, Text.isAsciiDigit c = true)
    (hrest : ∀ c ∈ rest.head?, Text.isAsciiDigit c = false) :
    spanDigits (digits ++ rest) = (digits, rest) := by
  induction digits with
  | nil =>
    cases rest with
    | nil => rfl
    | cons c more => simp [spanDigits, hrest c rfl]
  | cons c cs ih =>
    obtain ⟨hc, hcs⟩ := List.forall_mem_cons.mp hdigits
    obtain ⟨htake, hdrop⟩ := Prod.mk.inj (ih hcs)
    simp [spanDigits, hc, htake, hdrop]

/-- A list of digits alone. -/
theorem spanDigits_of_all {digits : List Char}
    (hdigits : ∀ c ∈ digits, Text.isAsciiDigit c = true) : spanDigits digits = (digits, []) := by
  have hspan : spanDigits (digits ++ []) = (digits, []) := spanDigits_of_digits hdigits nofun
  rwa [List.append_nil] at hspan

theorem isAsciiDigit_of_isDigit {c : Char} (hc : c.isDigit = true) :
    Text.isAsciiDigit c = true := by
  simp only [Char.isDigit, Bool.and_eq_true, decide_eq_true_eq, ge_iff_le,
    UInt32.le_iff_toNat_le] at hc
  simp only [Text.isAsciiDigit, Bool.and_eq_true, decide_eq_true_eq]
  exact hc

theorem isAsciiDigit_of_mem_digitChars {n : Nat} {c : Char} (hc : c ∈ Decimal.digitChars n) :
    Text.isAsciiDigit c = true :=
  isAsciiDigit_of_isDigit (Nat.isDigit_of_mem_toDigits (by decide) (by decide) hc)

theorem ofDigits_eq_ofDigitChars (base : Nat) (digits : List Char) :
    Text.ofDigits base digits = Nat.ofDigitChars base digits 0 := by
  unfold Text.ofDigits Nat.ofDigitChars
  congr 1
  funext total c
  rw [Nat.mul_comm]
  rfl

/-- The digits of a natural number spell it. -/
theorem ofDigits_digitChars (n : Nat) : Text.ofDigits 10 (Decimal.digitChars n) = n := by
  rw [ofDigits_eq_ofDigitChars]
  exact Nat.ofDigitChars_toDigits (by decide) (by decide)

/-- Only the digits of zero begin with a zero. -/
theorem head_digitChars {n : Nat} (hn : 0 < n) :
    ∃ c rest, Decimal.digitChars n = c :: rest ∧ c ≠ '0' := by
  have hdigit : ∀ digit < 10, 0 < digit → digit.digitChar ≠ '0' := by decide
  unfold Decimal.digitChars
  induction n using Nat.strongRecOn with
  | ind n ih =>
    rw [Nat.toDigits_eq_if (by decide)]
    split
    · next hsmall => exact ⟨_, [], rfl, hdigit n hsmall hn⟩
    · next hlarge =>
      obtain ⟨c, rest, hdigits, hc⟩ := ih (n / 10) (by omega) (by omega)
      rw [hdigits]
      exact ⟨c, _, rfl, hc⟩

/-- The whole part of a number whose digits are those of a natural number. -/
theorem whole?_digitChars (n : Nat) {rest : List Char}
    (hrest : ∀ c ∈ rest.head?, Text.isAsciiDigit c = false) :
    whole? (Decimal.digitChars n ++ rest) = some (Decimal.digitChars n, rest) := by
  have hspan : spanDigits (Decimal.digitChars n ++ rest) = (Decimal.digitChars n, rest) :=
    spanDigits_of_digits (fun _ ↦ isAsciiDigit_of_mem_digitChars) hrest
  rcases Nat.eq_zero_or_pos n with rfl | hn
  · rfl
  · obtain ⟨c, more, hdigits, hc⟩ := head_digitChars hn
    rw [hdigits] at hspan ⊢
    rw [List.cons_append, whole?_of_ne hc, ← List.cons_append, hspan]
    rfl

/-- The text of an integer is read back as the integer. -/
theorem number?_integerText (i : Int) :
    number? (integerText i).toList = some (.int i, []) := by
  have hmagnitude (isNegative : Bool) : magnitude? isNegative (Decimal.digitChars i.natAbs) =
      some (.int (if isNegative then -(i.natAbs : Int) else (i.natAbs : Int)), []) := by
    have hwhole : whole? (Decimal.digitChars i.natAbs ++ []) = _ :=
      whole?_digitChars i.natAbs nofun
    rw [List.append_nil] at hwhole
    unfold magnitude?
    rw [hwhole]
    simp only [Option.map_some, fraction, exponent, ofDigits_digitChars]
  unfold integerText
  by_cases hi : i < 0
  · have htext : ("-" ++ String.ofList (Decimal.digitChars i.natAbs)).toList =
        '-' :: Decimal.digitChars i.natAbs := by simp
    rw [if_pos hi, htext, number?, hmagnitude]
    simp only [if_true]
    congr 3
    omega
  · rw [if_neg hi, String.toList_ofList, number?_of_magnitude? (hmagnitude false)]
    simp only [Bool.false_eq_true, if_false]
    congr 3
    omega

/-! ### Decimals -/

/-- A number with a fraction or an exponent has the value of its digits. -/
theorem magnitude?_of_parts (isNegative : Bool)
    {cs digits afterWhole afterFraction rest : List Char} {places : Option (List Char)} {power : Option Int}
    (hwhole : whole? cs = some (digits, afterWhole))
    (hfraction : fraction afterWhole = (places, afterFraction))
    (hexponent : exponent afterFraction = (power, rest))
    (hsome : places.isSome = true ∨ power.isSome = true) :
    magnitude? isNegative cs =
      some (.float (Decimal.value isNegative (Text.ofDigits 10 (digits ++ places.getD []))
        (power.getD 0 - (places.getD []).length)), rest) := by
  unfold magnitude?
  rw [hwhole]
  simp only [Option.map_some, hfraction, hexponent]
  cases places <;> cases power <;> first | rfl | (cases hsome <;> contradiction)

theorem ofDigits_zeros_append (zeros : ℕ) (digits : List Char) :
    Text.ofDigits 10 (List.replicate zeros '0' ++ digits) = Text.ofDigits 10 digits := by
  unfold Text.ofDigits
  rw [List.foldl_append]
  congr 1
  induction zeros with
  | zero => rfl
  | succ zeros ih => exact ih

theorem ofDigits_append_zeros (digits : List Char) (zeros : ℕ) :
    Text.ofDigits 10 (digits ++ List.replicate zeros '0') =
      Text.ofDigits 10 digits * 10 ^ zeros := by
  induction zeros with
  | zero => simp
  | succ zeros ih =>
    rw [List.replicate_succ', ← List.append_assoc, pow_succ, ← mul_assoc, ← ih]
    simp [Text.ofDigits]

theorem isAsciiDigit_of_mem_zeros {zeros : ℕ} {c : Char} (hc : c ∈ List.replicate zeros '0') :
    Text.isAsciiDigit c = true := by
  rw [List.eq_of_mem_replicate hc]
  rfl

/-- Digits behind zeros are digits, and spell the same number. -/
theorem isAsciiDigit_of_mem_padded (zeros n : ℕ) (c : Char)
    (hc : c ∈ List.replicate zeros '0' ++ Decimal.digitChars n) : Text.isAsciiDigit c = true := by
  rcases List.mem_append.mp hc with hzero | hdigit
  · exact isAsciiDigit_of_mem_zeros hzero
  · exact isAsciiDigit_of_mem_digitChars hdigit

theorem padded_ne_nil (zeros n : ℕ) : List.replicate zeros '0' ++ Decimal.digitChars n ≠ [] :=
  fun hnil ↦ Nat.toDigits_ne_nil (List.append_eq_nil_iff.mp hnil).2

/-- An exponent is read back. -/
theorem exponent_exponentText (least : ℕ) (power : ℤ) :
    exponent ('e' :: (Decimal.exponentText least power).toList) = (some power, []) := by
  obtain ⟨zeros, hzeros⟩ : ∃ zeros, (Decimal.exponentText least power).toList =
      (if power < 0 then '-' else '+') ::
        (List.replicate zeros '0' ++ Decimal.digitChars power.natAbs) := by
    refine ⟨least - (Decimal.digitChars power.natAbs).length, ?_⟩
    unfold Decimal.exponentText
    split <;> simp
  have hsigned (digits : List Char) :
      signed ((if power < 0 then '-' else '+') :: digits) = (decide (power < 0), digits) := by
    by_cases hnegative : power < 0
    · simp [hnegative, signed]
    · simp [hnegative, signed]
  have hspan := spanDigits_of_all (isAsciiDigit_of_mem_padded zeros power.natAbs)
  rw [hzeros, exponent_cons (by decide), hsigned, hspan, ofDigits_zeros_append, ofDigits_digitChars,
    if_neg (by simpa using padded_ne_nil zeros power.natAbs)]
  simp only [decide_eq_true_eq, Prod.mk.injEq, Option.some.injEq, and_true]
  split <;> omega

/-- The digits of a positive number, the first of which is not a zero. -/
theorem exists_digitChars {n : ℕ} (hn : 0 < n) :
    ∃ first more, Decimal.digitChars n = first :: more ∧ first ≠ '0' ∧
      (∀ c ∈ first :: more, Text.isAsciiDigit c = true) ∧
      Text.ofDigits 10 (first :: more) = n := by
  obtain ⟨first, more, hchars, hzero⟩ := head_digitChars hn
  refine ⟨first, more, hchars, hzero, fun c hc ↦ ?_, ?_⟩
  · exact isAsciiDigit_of_mem_digitChars (hchars ▸ hc)
  · rw [← hchars]
    exact ofDigits_digitChars n

/-- Digits that do not begin with a zero are a whole part. -/
theorem whole?_of_digits {first : Char} {more rest : List Char} (hzero : first ≠ '0')
    (hdigits : ∀ c ∈ first :: more, Text.isAsciiDigit c = true)
    (hrest : ∀ c ∈ rest.head?, Text.isAsciiDigit c = false) :
    whole? (first :: more ++ rest) = some (first :: more, rest) := by
  rw [List.cons_append, whole?_of_ne hzero, ← List.cons_append, spanDigits_of_digits hdigits hrest]
  rfl

/-- A fraction takes all digits after the point. -/
theorem fraction_of_digits {digits rest : List Char} (hnonempty : digits ≠ [])
    (hdigits : ∀ c ∈ digits, Text.isAsciiDigit c = true)
    (hrest : ∀ c ∈ rest.head?, Text.isAsciiDigit c = false) :
    fraction ('.' :: (digits ++ rest)) = (some digits, rest) := by
  simp only [fraction, spanDigits_of_digits hdigits hrest]
  rw [if_neg (by simpa using hnonempty)]

theorem fraction_of_all {digits : List Char} (hnonempty : digits ≠ [])
    (hdigits : ∀ c ∈ digits, Text.isAsciiDigit c = true) :
    fraction ('.' :: digits) = (some digits, []) := by
  have hfraction : fraction ('.' :: (digits ++ [])) = (some digits, []) :=
    fraction_of_digits hnonempty hdigits nofun
  rwa [List.append_nil] at hfraction

/-- A decimal in scientific notation. -/
theorem magnitude?_scientific (isNegative : Bool) {digits : ℕ} (hdigits : 0 < digits)
    (least : ℕ) (leading : ℤ) {first : Char} {more : List Char}
    (hchars : Decimal.digitChars digits = first :: more) :
    magnitude? isNegative (first :: (if more.isEmpty then [] else '.' :: more) ++
      'e' :: (Decimal.exponentText least leading).toList) =
        some (.float (Decimal.value isNegative digits (leading - more.length)), []) := by
  obtain ⟨_, _, hsame, hzero, hall, hspell⟩ := exists_digitChars hdigits
  obtain ⟨rfl, rfl⟩ := List.cons.inj (hchars.symm.trans hsame)
  obtain ⟨hfirst, hmore⟩ := List.forall_mem_cons.mp hall
  have hexponent := exponent_exponentText least leading
  generalize (Decimal.exponentText least leading).toList = mark at hexponent ⊢
  have hwhole (rest : List Char) (hrest : ∀ c ∈ rest.head?, Text.isAsciiDigit c = false) :
      whole? (first :: rest) = some ([first], rest) := by
    have hone : whole? ([first] ++ rest) = some ([first], rest) :=
      whole?_of_digits hzero (by simpa using hfirst) hrest
    exact hone
  cases more with
  | nil =>
    have hparts := magnitude?_of_parts isNegative (hwhole ('e' :: mark) (by simp; decide))
      (fraction_of_ne (by decide) mark) hexponent (Or.inr rfl)
    simpa [hspell] using hparts
  | cons second others =>
    have hfraction : fraction ('.' :: (second :: others ++ 'e' :: mark)) =
        (some (second :: others), 'e' :: mark) :=
      fraction_of_digits (List.cons_ne_nil _ _) hmore (by simp; decide)
    have hparts := magnitude?_of_parts isNegative
      (hwhole ('.' :: (second :: others ++ 'e' :: mark)) (by simp; decide)) hfraction hexponent
      (Or.inl rfl)
    simpa [hspell] using hparts

/-- A decimal below one, in positional notation. -/
theorem magnitude?_below_one (isNegative : Bool) (digits zeros : ℕ) :
    magnitude? isNegative
      ('0' :: '.' :: (List.replicate zeros '0' ++ Decimal.digitChars digits)) =
        some (.float (Decimal.value isNegative digits
          (-(zeros + Decimal.digitCount digits : ℕ))), []) := by
  have hparts := magnitude?_of_parts isNegative
    (show whole? ('0' :: _) = some (['0'], _) from rfl)
    (fraction_of_all (padded_ne_nil zeros digits) (isAsciiDigit_of_mem_padded zeros digits))
    (show exponent [] = (none, []) from rfl) (Or.inl rfl)
  have hspell : Text.ofDigits 10
      (['0'] ++ (List.replicate zeros '0' ++ Decimal.digitChars digits)) = digits :=
    (ofDigits_zeros_append (zeros + 1) _).trans (ofDigits_digitChars digits)
  rw [hparts, Option.getD_some, hspell]
  simp [Decimal.digitCount]

/-- A decimal with digits after the point. -/
theorem magnitude?_fractional (isNegative : Bool) {digits leading : ℕ} (hdigits : 0 < digits)
    (hmany : leading + 1 < Decimal.digitCount digits) :
    magnitude? isNegative ((Decimal.digitChars digits).take (leading + 1) ++
      '.' :: (Decimal.digitChars digits).drop (leading + 1)) =
        some (.float (Decimal.value isNegative digits
          (leading - Decimal.digitCount digits + 1)), []) := by
  obtain ⟨first, more, hchars, hzero, hall, hspell⟩ := exists_digitChars hdigits
  have hcount : Decimal.digitCount digits = (first :: more).length := congrArg List.length hchars
  rw [List.length_cons] at hcount
  have hnonempty : more.drop leading ≠ [] := by
    rw [Ne, List.drop_eq_nil_iff]
    omega
  have hwhole : whole? (first :: more.take leading ++ '.' :: more.drop leading) =
      some (first :: more.take leading, '.' :: more.drop leading) := by
    refine whole?_of_digits hzero (fun c hc ↦ hall c ?_) (by simp; decide)
    exact (List.cons_subset_cons first (List.take_subset leading more)) hc
  have hfraction : fraction ('.' :: more.drop leading) = (some (more.drop leading), []) :=
    fraction_of_all hnonempty fun c hc ↦
      hall c (List.mem_cons_of_mem first (List.mem_of_mem_drop hc))
  have hparts := magnitude?_of_parts isNegative hwhole hfraction
    (show exponent [] = (none, []) from rfl) (Or.inl rfl)
  rw [hchars, List.take_succ_cons, List.drop_succ_cons, hparts, Option.getD_some, List.cons_append,
    List.take_append_drop, hspell]
  have hpower : (none : Option ℤ).getD 0 - ((more.drop leading).length : ℤ) =
      leading - Decimal.digitCount digits + 1 := by
    rw [List.length_drop, Option.getD_none]
    omega
  rw [hpower]

/-- A decimal that is filled up with zeros, with none but a zero after the point. -/
theorem magnitude?_integral (isNegative : Bool) {digits : ℕ} (hdigits : 0 < digits) (zeros : ℕ) :
    magnitude? isNegative (Decimal.digitChars digits ++ List.replicate zeros '0' ++ '.' :: ['0']) =
      some (.float (Decimal.value isNegative digits zeros), []) := by
  obtain ⟨first, more, hchars, hzero, hall, hspell⟩ := exists_digitChars hdigits
  rw [hchars]
  have hwhole : whole? (first :: more ++ List.replicate zeros '0' ++ '.' :: ['0']) =
      some (first :: more ++ List.replicate zeros '0', '.' :: ['0']) := by
    refine whole?_of_digits hzero (fun c hc ↦ ?_) (by simp; decide)
    rcases List.mem_append.mp (List.cons_append ▸ hc) with hdigit | hc
    · exact hall c hdigit
    · exact isAsciiDigit_of_mem_zeros hc
  have hparts := magnitude?_of_parts isNegative hwhole
    (fraction_of_all (List.cons_ne_nil '0' []) (List.forall_mem_singleton.mpr rfl))
    (show exponent [] = (none, []) from rfl) (Or.inl rfl)
  have hdigits' : Text.ofDigits 10 (first :: more ++ List.replicate zeros '0' ++ ['0']) =
      digits * 10 ^ (zeros + 1) := by
    rw [List.append_assoc, show List.replicate zeros '0' ++ ['0'] = List.replicate (zeros + 1) '0' from
      List.replicate_succ'.symm, ofDigits_append_zeros, hspell]
  rw [hparts, Option.getD_some, hdigits']
  congr 3
  refine Decimal.value_congr isNegative (by positivity) hdigits ?_
  norm_num [pow_succ, mul_assoc]

/-- A decimal from one on, in positional notation. -/
theorem magnitude?_from_one (isNegative : Bool) {digits : ℕ} (hdigits : 0 < digits) (leading : ℕ) :
    let padded := Decimal.digitChars digits ++
      List.replicate (leading + 1 - Decimal.digitCount digits) '0'
    let places := padded.drop (leading + 1)
    magnitude? isNegative (padded.take (leading + 1) ++
      '.' :: (if places.isEmpty then ['0'] else places)) =
        some (.float (Decimal.value isNegative digits
          (leading - Decimal.digitCount digits + 1)), []) := by
  intro padded places
  have hcount : (Decimal.digitChars digits).length = Decimal.digitCount digits := rfl
  rcases Nat.lt_or_ge (leading + 1) (Decimal.digitCount digits) with hmany | hfew
  · have hpadded : padded = Decimal.digitChars digits := by
      change Decimal.digitChars digits ++ List.replicate _ '0' = _
      rw [Nat.sub_eq_zero_of_le hmany.le, List.replicate_zero, List.append_nil]
    have hnonempty : places ≠ [] := by
      change padded.drop (leading + 1) ≠ []
      rw [hpadded, Ne, List.drop_eq_nil_iff, hcount]
      omega
    have hplaces : places = (Decimal.digitChars digits).drop (leading + 1) :=
      congrArg (List.drop (leading + 1)) hpadded
    rw [if_neg (by simpa using hnonempty), hplaces, hpadded]
    exact magnitude?_fractional isNegative hdigits hmany
  · obtain ⟨zeros, hzeros⟩ := Nat.exists_eq_add_of_le hfew
    have hpadded : padded = Decimal.digitChars digits ++ List.replicate zeros '0' := by
      change Decimal.digitChars digits ++ List.replicate _ '0' = _
      rw [hzeros, Nat.add_sub_cancel_left]
    have hlength : padded.length = leading + 1 := by
      rw [hpadded, List.length_append, List.length_replicate, hcount]
      omega
    have hplaces : places = [] := List.drop_eq_nil_of_le hlength.le
    have hpower : (leading : ℤ) - Decimal.digitCount digits + 1 = zeros := by omega
    rw [hplaces, List.take_of_length_le hlength.le, hpower, hpadded]
    exact magnitude?_integral isNegative hdigits zeros

/-- A decimal is read as its value, under every layout that puts no point before an exponent without
need. -/
theorem magnitude?_write (isNegative : Bool) {layout : Decimal.Layout}
    (hlayout : layout.pointBeforeExponent = false) {decimal : Decimal}
    (hdigits : 0 < decimal.digits) :
    magnitude? isNegative (decimal.write layout).toList =
      some (.float (Decimal.value isNegative decimal.digits
        (decimal.leading - Decimal.digitCount decimal.digits + 1)), []) := by
  obtain ⟨digits, leading⟩ := decimal
  obtain ⟨first, more, hchars, -⟩ := exists_digitChars hdigits
  have hcount : Decimal.digitCount digits = more.length + 1 := congrArg List.length hchars
  unfold Decimal.write
  by_cases hscientific :
      (leading < layout.leastPositional || layout.leastScientific ≤ leading) = true
  · have hread := magnitude?_scientific isNegative hdigits layout.exponentDigits leading hchars
    have hpower : leading - Decimal.digitCount digits + 1 = leading - more.length := by omega
    dsimp only
    rw [if_pos hscientific, hpower, ← hread, hchars, hlayout]
    cases more <;> simp
  · by_cases hbelow : leading < 0
    · obtain ⟨zeros, hzeros⟩ := Int.eq_ofNat_of_zero_le (show 0 ≤ -leading - 1 by omega)
      have hread := magnitude?_below_one isNegative digits zeros
      have hpower : leading - Decimal.digitCount digits + 1 =
          -((zeros + Decimal.digitCount digits : ℕ) : ℤ) := by
        push_cast
        omega
      dsimp only
      rw [if_neg hscientific, if_pos hbelow, hpower, ← hread, hzeros]
      simp
    · obtain ⟨whole, rfl⟩ := Int.eq_ofNat_of_zero_le (not_lt.mp hbelow)
      have hread := magnitude?_from_one isNegative hdigits whole
      dsimp only at hread ⊢
      rw [if_neg hscientific, if_neg hbelow, ← hread]
      simp only [Int.toNat_natCast, Decimal.digitCount, String.toList_append,
        apply_ite String.toList, String.toList_ofList, List.append_assoc]
      rfl

/-! ### Double-precision numbers -/

/-- The text of a finite number is read back as the number. -/
theorem number?_text {x : Binary64} (hfinite : x.isFinite = true) :
    number? (x.text numberLayout).toList = some (.float x, []) := by
  have hnumber : x.isNaN = false := by
    simp only [Binary64.isFinite, bne_iff_ne, ne_eq] at hfinite
    simp [Binary64.isNaN, hfinite]
  have hbounded : x.isInfinite = false := by
    simp only [Binary64.isFinite, bne_iff_ne, ne_eq] at hfinite
    simp [Binary64.isInfinite, hfinite]
  have hmagnitude : magnitude? x.negative
      (if x.isZero then "0.0" else (Decimal.shortest x).write numberLayout).toList =
        some (.float x, []) := by
    by_cases hzero : x.isZero = true
    · obtain ⟨hexponent, hfraction⟩ : x.exponentField = 0 ∧ x.fractionField = 0 := by
        simpa [Binary64.isZero] using hzero
      have hfields := x.ofFields_fields
      rw [hexponent, hfraction] at hfields
      rw [if_pos hzero]
      exact congrArg (fun y : Binary64 ↦ some (Raw.float y, [])) hfields
    · obtain ⟨hdigits, hreads⟩ :=
        Decimal.readsAs_shortest hfinite (Bool.eq_false_iff.mpr hzero)
      unfold Decimal.ReadsAs at hreads
      rw [if_neg hzero, magnitude?_write x.negative rfl hdigits, Decimal.value_withSign, hreads,
        ← Binary64.ofFields_withSign, x.ofFields_fields]
  unfold Binary64.text
  rw [hnumber, hbounded]
  simp only [Bool.false_eq_true, if_false]
  cases hnegative : x.negative with
  | true =>
    rw [hnegative] at hmagnitude
    simp only [if_true, String.toList_append]
    exact hmagnitude
  | false =>
    rw [hnegative] at hmagnitude
    simp only [Bool.false_eq_true, if_false]
    exact number?_of_magnitude? hmagnitude

end Json

end Treewalk
