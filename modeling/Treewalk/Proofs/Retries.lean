import Mathlib.Order.Bounds.Basic
import Treewalk.Fetch
import Treewalk.Proofs.Rounding
import Treewalk.Proofs.Spelling

/-!
Fetches that are tried again. One reply decides a fetch: the first that is worth no other request, or
else the last one that there are requests for. Up to it there are only pauses, which begin with the set
one and double (`Fetch.pause_eq`, `Fetch.attempts_of_waits`). A pause can be refused, and then the fetch
ends there and with that failure; which pauses are is no matter of the loop.

A fetch can also be told turn by turn (`Fetch.turn`, `Fetch.turns`), where each turn knows whether it is
the last, and where the turns may come to an end without an answer. They never do
(`Fetch.turns_range`).
-/

set_option autoImplicit false
set_option relaxedAutoImplicit false

namespace Treewalk

/-! ### Powers of two -/

namespace Binary64

theorem toNat_bits_ofFields {exponent fraction : ℕ} (hexponent : exponent < 2 ^ 11)
    (hfraction : fraction < 2 ^ 52) :
    (ofFields false exponent fraction).bits.toNat = exponent * 2 ^ 52 + fraction := by
  have hsize : exponent * 2 ^ 52 + fraction < 2 ^ 64 := by omega
  simp only [ofFields, Bool.false_eq_true, if_false, Nat.zero_add, Nat.pow_eq]
  exact UInt64.toNat_ofNat_of_lt' hsize

theorem exponentField_ofFields {exponent fraction : ℕ} (hexponent : exponent < 2 ^ 11)
    (hfraction : fraction < 2 ^ 52) : (ofFields false exponent fraction).exponentField = exponent := by
  unfold exponentField
  rw [toNat_bits_ofFields hexponent hfraction]
  simp only [Nat.pow_eq]
  omega

theorem fractionField_ofFields {exponent fraction : ℕ} (hexponent : exponent < 2 ^ 11)
    (hfraction : fraction < 2 ^ 52) : (ofFields false exponent fraction).fractionField = fraction := by
  unfold fractionField
  rw [toNat_bits_ofFields hexponent hfraction]
  simp only [Nat.pow_eq]
  omega

/-- A power of two is a number, as long as there is an exponent for it. -/
theorem ofInt_two_pow {power : ℕ} (hpower : power < 1024) :
    ofInt (2 ^ power) = ofFields false (power + 1023) 0 := by
  set x := ofFields false (power + 1023) 0 with hx
  have hexponent : x.exponentField = power + 1023 := exponentField_ofFields (by omega) (by omega)
  have hfraction : x.fractionField = 0 := fractionField_ofFields (by omega) (by omega)
  have hfinite : x.isFinite = true := by
    rw [isFinite, hexponent, bne_iff_ne]
    omega
  have hsignificand : x.significand = 2 ^ 52 := by
    rw [significand, hexponent, hfraction, if_neg (by omega), Nat.zero_add, Nat.pow_eq]
  have hmagnitude : x.magnitude = 2 ^ power := by
    have hscale : x.scale = power - (52 : ℕ) := by
      rw [scale, hexponent, if_neg (by omega)]
      push_cast
      ring
    rw [magnitude, hsignificand, hscale, zpow_sub₀ two_ne_zero, zpow_natCast, zpow_natCast,
      Nat.cast_pow, Nat.cast_ofNat, mul_div_cancel₀ _ (by positivity)]
  have hclose : |((2 ^ power : ℕ) : ℚ) / (1 : ℕ) - x.magnitude| < x.magnitude / 2 ^ 54 := by
    rw [hmagnitude]
    push_cast
    rw [div_one, sub_self, abs_zero]
    positivity
  have hrounded := ofRatio_of_close hfinite (by rw [hsignificand]; positivity) (by positivity)
    Nat.one_pos hclose
  have hsign : decide ((2 : ℤ) ^ power < 0) = false :=
    decide_eq_false (not_lt.mpr (by positivity))
  rw [ofInt, hsign, Int.natAbs_pow, show (2 : ℤ).natAbs = 2 from rfl, hrounded, hexponent, hfraction]

/-- So it is not too large to be multiplied with. -/
theorem ofInt?_two_pow {power : ℕ} (hpower : power < 1024) :
    ofInt? (2 ^ power) = some (ofInt (2 ^ power)) := by
  have hfinite : (ofInt (2 ^ power)).isFinite = true := by
    rw [ofInt_two_pow hpower, isFinite, exponentField_ofFields (by omega) (by omega), bne_iff_ne]
    omega
  exact if_pos hfinite

end Binary64

namespace Fetch

/-! ### Deciding replies -/

/-- Whether a reply settles a fetch that has requests left: a response below the server errors, or a
failure that is not one of the transport. -/
def Reply.Settles : Reply → Prop
  | .response status _ _ => status < 500
  | .failure cause => isTransport cause.kind = false

/-- What a fetch comes to when a reply decides it: a success gives its page, any other response is a
failure that quotes the beginning of the body, and a failure stays as it is. -/
inductive Reply.Decides (url : String) : Reply → Except Cause Page → Prop
  | success {status : Int} {body : String} {contentType : Option String}
      (within : 200 ≤ status ∧ status < 300) :
      Decides url (.response status body contentType) (.ok ⟨body, contentType⟩)
  | refusal {status : Int} {body : String} {contentType : Option String} {cause : Cause}
      (outside : ¬ (200 ≤ status ∧ status < 300)) (kind : cause.kind = .runtime)
      (message : cause.message? = some ("HTTP " ++ integerText status ++ " for " ++ url ++ ": " ++
        String.ofList (body.toList.take 200))) :
      Decides url (.response status body contentType) (.error cause)
  | failure {cause : Cause} : Decides url (.failure cause) (.error cause)

theorem isRetried_iff (reply : Reply) : isRetried reply = true ↔ ¬ reply.Settles := by
  cases reply with
  | response status body contentType => simp [isRetried, Reply.Settles]
  | failure cause => simp [isRetried, Reply.Settles]

theorem decides_verdict (url : String) (reply : Reply) : reply.Decides url (verdict url reply) := by
  cases reply with
  | response status body contentType =>
    by_cases hwithin : 200 ≤ status ∧ status < 300
    · have hverdict : verdict url (.response status body contentType) = .ok ⟨body, contentType⟩ :=
        if_pos (by simpa [isSuccess] using hwithin)
      rw [hverdict]
      exact .success hwithin
    · have hverdict : verdict url (.response status body contentType) =
          .error (.badStatus status url (String.ofList (body.toList.take 200))) :=
        if_neg (by simpa [isSuccess] using hwithin)
      rw [hverdict]
      exact .refusal hwithin rfl rfl
  | failure cause => exact .failure

/-! ### Pauses -/

/-- A pause is the set one times a power of two. -/
theorem pause_eq (backoff : Binary64) {attempt : ℕ} (hattempt : attempt < 1024) :
    pause backoff attempt = .ok (backoff.mul (Binary64.ofInt (2 ^ attempt))) := by
  have hpower : Number.toBinary64 (.int (2 ^ attempt)) = .ok (Binary64.ofInt (2 ^ attempt)) := by
    rw [Number.toBinary64, Binary64.ofInt?_two_pow hattempt]
  have hproduct : Number.mul (.float backoff) (.int (2 ^ attempt)) =
      .ok (.float (backoff.mul (Binary64.ofInt (2 ^ attempt)))) := by
    change (do
      let x ← Number.toBinary64 (.float backoff)
      let y ← Number.toBinary64 (.int (2 ^ attempt))
      Except.ok (Number.float (x.mul y))) = _
    rw [hpower]
    rfl
  unfold pause
  rw [Int.pow_eq, hproduct]
  rfl

/-- The pause after an attempt that is due by the settings. -/
def duePause (backoff : Binary64) (attempt : Nat) : Binary64 :=
  backoff.mul (Binary64.ofInt (2 ^ attempt))

/-- What pausing after an attempt comes to is up to the pause that is due. -/
theorem rest_eq (wait : Binary64 → Except Cause Unit) (backoff : Binary64) {attempt : ℕ}
    (hattempt : attempt < 1024) :
    rest wait backoff attempt =
      (wait (duePause backoff attempt)).map fun _ ↦ duePause backoff attempt := by
  have hrest : rest wait backoff attempt =
      wait (duePause backoff attempt) >>= fun _ ↦ .ok (duePause backoff attempt) := by
    unfold rest
    rw [pause_eq backoff hattempt]
    rfl
  rw [hrest]
  cases wait (duePause backoff attempt) <;> rfl

/-! ### Attempts -/

/-- A record with requests in front of it that were all followed by pauses. -/
def Record.after (pauses : List Binary64) (later : Record) : Record :=
  ⟨pauses.length + later.requests, pauses ++ later.pauses, later.outcome⟩

section

variable (wait : Binary64 → Except Cause Unit) (url : String) (backoff : Binary64)
  (reply : Nat → Reply)

/-- As long as no reply settles the fetch and no pause is refused, the attempts go on. -/
theorem attempts_of_waits {attempt count left : ℕ} (hbound : attempt + count ≤ 1024)
    (hearlier : ∀ step < count, ¬ (reply (attempt + step)).Settles)
    (hwaits : ∀ step < count, wait (duePause backoff (attempt + step)) = .ok ()) :
    attempts wait url backoff reply attempt (count + left) =
      .after ((List.range' attempt count).map (duePause backoff))
        (attempts wait url backoff reply (attempt + count) left) := by
  induction count generalizing attempt with
  | zero => simp [Record.after]
  | succ count ih =>
    have hretried : isRetried (reply attempt) = true :=
      (isRetried_iff _).mpr (hearlier 0 (Nat.succ_pos count))
    have hrest : rest wait backoff attempt = .ok (duePause backoff attempt) := by
      rw [rest_eq wait backoff (by omega), show attempt = attempt + 0 from rfl,
        hwaits 0 (Nat.succ_pos count)]
      rfl
    have hshift (step : ℕ) : attempt + 1 + step = attempt + (step + 1) := by omega
    have hlater : attempts wait url backoff reply (attempt + 1) (count + left) =
        .after ((List.range' (attempt + 1) count).map (duePause backoff))
          (attempts wait url backoff reply (attempt + 1 + count) left) :=
      ih (by omega) (fun step hstep ↦ by rw [hshift]; exact hearlier (step + 1) (by omega))
        (fun step hstep ↦ by rw [hshift]; exact hwaits (step + 1) (by omega))
    rw [Nat.add_right_comm, attempts, if_pos hretried, hrest]
    dsimp only
    rw [hlater, hshift, List.range'_succ, List.map_cons]
    simp only [Record.after, List.length_cons, List.cons_append]
    rw [Nat.add_right_comm]

/-- The last attempt, or one whose reply settles the fetch, has its verdict. -/
theorem attempts_of_settles {attempt left : ℕ} (hsettles : (reply attempt).Settles ∨ left = 0) :
    attempts wait url backoff reply attempt left = ⟨1, [], verdict url (reply attempt)⟩ := by
  cases left with
  | zero => rfl
  | succ left =>
    have hdecided : ¬ isRetried (reply attempt) = true := by
      rw [isRetried_iff, not_not]
      exact hsettles.resolve_right (Nat.succ_ne_zero left)
    exact if_neg hdecided

/-- Where a pause is refused, the fetch ends. -/
theorem attempts_of_refused {attempt left : ℕ} {cause : Cause} (hattempt : attempt < 1024)
    (hretried : ¬ (reply attempt).Settles) (hrefused : wait (duePause backoff attempt) = .error cause) :
    attempts wait url backoff reply attempt (left + 1) = ⟨1, [], .error cause⟩ := by
  rw [attempts, if_pos ((isRetried_iff _).mpr hretried), rest_eq wait backoff hattempt, hrefused]
  rfl

end

/-! ### Turn by turn -/

/-- What a turn of the loop comes to: the fetch is decided, or there is a pause before the next turn. -/
inductive Turn where
  | settled (outcome : Except Cause Page)
  | again (seconds : Binary64)

/-- A turn that ends with a pause, unless the pause is refused. -/
def pausing (wait : Binary64 → Except Cause Unit) (backoff : Binary64) (attempt : Nat) : Turn :=
  match rest wait backoff attempt with
  | .ok seconds => .again seconds
  | .error cause => .settled (.error cause)

/-- One turn: the reply is looked at with regard to whether the turn is the last one. -/
def turn (wait : Binary64 → Except Cause Unit) (url : String) (backoff : Binary64) (isLast : Bool)
    (attempt : Nat) : Reply → Turn
  | .failure cause =>
    if isTransport cause.kind && !isLast then pausing wait backoff attempt
    else .settled (.error cause)
  | .response status body contentType =>
    if isSuccess status then .settled (.ok ⟨body, contentType⟩)
    else if status < 500 || isLast then
      .settled (.error (.badStatus status url (String.ofList (body.toList.take previewLength))))
    else pausing wait backoff attempt

/-- The turns of the given attempts. When they are over without an answer, there is none. -/
def turns (wait : Binary64 → Except Cause Unit) (url : String) (backoff : Binary64) (retries : Nat)
    (reply : Nat → Reply) : List Nat → Option Record
  | [] => none
  | attempt :: others =>
    match turn wait url backoff (attempt == retries) attempt (reply attempt) with
    | .settled outcome => some ⟨1, [], outcome⟩
    | .again seconds =>
      (turns wait url backoff retries reply others).map fun later ↦
        ⟨later.requests + 1, seconds :: later.pauses, later.outcome⟩

section

variable (wait : Binary64 → Except Cause Unit) (url : String) (backoff : Binary64)

/-- The last turn settles the fetch whatever the reply is. -/
theorem turn_last (attempt : Nat) (reply : Reply) :
    turn wait url backoff true attempt reply = .settled (verdict url reply) := by
  cases reply with
  | response status body contentType =>
    simp only [turn, verdict, Bool.or_true, if_true]
    split <;> rfl
  | failure cause => simp [turn, verdict]

/-- Before that, a turn settles it unless the reply is worth another request. -/
theorem turn_not_last (attempt : Nat) (reply : Reply) :
    turn wait url backoff false attempt reply =
      if isRetried reply then pausing wait backoff attempt else .settled (verdict url reply) := by
  cases reply with
  | response status body contentType =>
    simp only [turn, verdict, isSuccess, isRetried, Bool.or_false, Bool.and_eq_true, decide_eq_true_eq]
    split_ifs <;> first | rfl | omega
  | failure cause => cases htransport : isTransport cause.kind <;>
      simp [turn, verdict, isRetried, htransport]

theorem turns_range' (reply : Nat → Reply) (attempt left : ℕ) :
    turns wait url backoff (attempt + left) reply (List.range' attempt (left + 1)) =
      some (attempts wait url backoff reply attempt left) := by
  induction left generalizing attempt with
  | zero =>
    have hlast : (attempt == attempt + 0) = true := beq_self_eq_true attempt
    simp only [List.range'_succ, turns, hlast, turn_last, attempts]
  | succ left ih =>
    have hlast : (attempt == attempt + (left + 1)) = false := beq_false_of_ne (by omega)
    have hshift : attempt + (left + 1) = attempt + 1 + left := by omega
    rw [List.range'_succ, turns, hlast, turn_not_last, hshift, ih, attempts]
    by_cases hretried : isRetried (reply attempt) = true
    · rw [if_pos hretried, if_pos hretried, pausing]
      cases rest wait backoff attempt <;> rfl
    · rw [if_neg hretried, if_neg hretried]

/-- The turns do not come to an end without an answer. -/
theorem turns_range (settings : Settings) (reply : Nat → Reply) :
    turns wait url settings.backoff settings.retries reply (List.range (settings.retries + 1)) =
      some (run wait settings url reply) := by
  have hturns := turns_range' wait url settings.backoff reply 0 settings.retries
  rwa [Nat.zero_add, ← List.range_eq_range'] at hturns

end

/-! ### Settings -/

/-- A piece of raw data stands for a floating-point number. -/
inductive ReadsFloat : Raw → Binary64 → Prop
  | bool (given : Bool) : ReadsFloat (.bool given) (Binary64.ofInt (if given then 1 else 0))
  | int {given : Int} {x : Binary64} (near : Binary64.ofInt? given = some x) :
      ReadsFloat (.int given) x
  | float (x : Binary64) : ReadsFloat (.float x) x
  | text {given : String} {x : Binary64} (spells : Numeral.float? given = some x) :
      ReadsFloat (.text given) x

/-- A piece of raw data stands for an integer; a fraction counts without what is behind its point. -/
inductive ReadsInt : Raw → Int → Prop
  | bool (given : Bool) : ReadsInt (.bool given) (if given then 1 else 0)
  | int (given : Int) : ReadsInt (.int given) given
  | float {x : Binary64} {given : Int} (whole : Number.truncate (.float x) = .ok given) :
      ReadsInt (.float x) given
  | text {spelling : String} {given : Int} (spells : Numeral.int? spelling = some given) :
      ReadsInt (.text spelling) given

theorem ReadsFloat.floatSetting_eq {raw : Raw} {x : Binary64} (hreads : ReadsFloat raw x) :
    floatSetting raw = .ok x := by
  cases hreads with
  | bool given => rfl
  | int near => rw [floatSetting, Number.toBinary64, near]
  | float x => rfl
  | text spells => rw [floatSetting, spells]

theorem ReadsInt.intSetting_eq {raw : Raw} {given : Int} (hreads : ReadsInt raw given) :
    intSetting raw = .ok given := by
  cases hreads with
  | bool given => rfl
  | int given => rfl
  | float whole => rw [intSetting, whole]
  | text spells => rw [intSetting, spells]

/-- What is read of a configuration: a number of retries below zero counts as zero. -/
theorem settings_of_reads {config : List (Raw × Raw)} {settings : Settings} {given : Int}
    {backoff : Binary64} (hsettings : Fetch.settings config = .ok settings)
    (hretries : ReadsInt ((Raw.lookup "retries" config).getD (.int 2)) given)
    (hbackoff : ReadsFloat ((Raw.lookup "backoff" config).getD (.float standardBackoff)) backoff) :
    settings.retries = (max given 0).toNat ∧ settings.backoff = backoff := by
  obtain ⟨_, -, hrest⟩ := exists_of_bind_eq_ok hsettings
  obtain ⟨retries, hfound, hrest⟩ := exists_of_bind_eq_ok hrest
  obtain ⟨pause, hpause, hrest⟩ := exists_of_bind_eq_ok hrest
  obtain ⟨_, -, hmade⟩ := exists_of_bind_eq_ok hrest
  obtain rfl : retries = given := Except.ok.inj (hfound.symm.trans hretries.intSetting_eq)
  obtain rfl : pause = backoff := Except.ok.inj (hpause.symm.trans hbackoff.floatSetting_eq)
  obtain rfl := Except.ok.inj hmade
  refine ⟨?_, rfl⟩
  change retries.toNat = (max retries 0).toNat
  omega

/-! ### Fetches -/

/-- A server error, a lost connection, and then the page. -/
def recovering : Nat → Reply
  | 0 => .response 503 "down" none
  | 1 => .failure (.plain .connection)
  | _ => .response 200 "[]" (some "application/json")

end Fetch

end Treewalk
