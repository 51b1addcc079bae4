import Treewalk.Document
import Treewalk.Proofs.JsonNumbers
import Treewalk.Proofs.Spelling

/-!
Reading back what was written as JSON. `Json.Reads` says of a text that it is read as some raw data
wherever a value may stand, with whatever may follow a value. There is one lemma for each kind of
scalar, and a list is read item by item, with the layout between its items passed over as blanks
(`Json.reads_writeAt`). Only raw data made of scalars and lists is considered here, as list
spellings of trees are.

A tree that was read from raw data is read back from the document that it is written to, laid out or
not: `Document.tree?` of its text is the very same tree (`dump_then_load`).
-/

set_option autoImplicit false
set_option relaxedAutoImplicit false

namespace Treewalk

namespace Json

/-! ### Texts that are read back -/

/-- A text that is read as some raw data, whatever may follow a value stands behind it. It begins
with neither a blank nor a closing bracket. -/
structure Reads (cs : List Char) (raw : Raw) : Prop where
  read : ∀ fuel rest, cs.length ≤ fuel → Delimited rest →
    value? fuel (cs ++ rest) = some (raw, rest)
  starts : ∃ c more, cs = c :: more ∧ isBlank c = false ∧ c ≠ ']'

/-! ### Words and numbers -/

theorem reads_null : Reads "null".toList .null where
  read fuel rest hfuel _ := by
    obtain ⟨fuel, rfl⟩ := Nat.exists_eq_add_of_le' (Nat.le_trans (by decide : 1 ≤ 4) hfuel)
    rfl
  starts := ⟨_, _, rfl, by decide, by decide⟩

theorem reads_bool (b : Bool) :
    Reads (if b then "true".toList else "false".toList) (.bool b) where
  read fuel rest hfuel _ := by
    cases b
    · obtain ⟨fuel, rfl⟩ := Nat.exists_eq_add_of_le' (Nat.le_trans (by decide : 1 ≤ 5) hfuel)
      rfl
    · obtain ⟨fuel, rfl⟩ := Nat.exists_eq_add_of_le' (Nat.le_trans (by decide : 1 ≤ 4) hfuel)
      rfl
  starts := by cases b <;> exact ⟨_, _, rfl, by decide, by decide⟩

theorem reads_infinity (isNegative : Bool) :
    Reads (if isNegative then "-Infinity".toList else "Infinity".toList)
      (.float (Binary64.infinity isNegative)) where
  read fuel rest hfuel _ := by
    cases isNegative
    · obtain ⟨fuel, rfl⟩ := Nat.exists_eq_add_of_le' (Nat.le_trans (by decide : 1 ≤ 8) hfuel)
      rfl
    · obtain ⟨fuel, rfl⟩ := Nat.exists_eq_add_of_le' (Nat.le_trans (by decide : 1 ≤ 9) hfuel)
      rfl
  starts := by cases isNegative <;> exact ⟨_, _, rfl, by decide, by decide⟩

/-- No word begins with a digit. -/
theorem word?_of_digit {c : Char} (hc : Text.isAsciiDigit c = true) (more : List Char) :
    word? (c :: more) = none := by
  have hne (d : Char) (hd : Text.isAsciiDigit d = false) : d ≠ c := by
    rintro rfl
    rw [hc] at hd
    cases hd
  simp [word?, words, after?, hne 'n' rfl, hne 't' rfl, hne 'f' rfl, hne 'N' rfl, hne 'I' rfl,
    hne '-' rfl]

/-- No word begins with a minus and a digit. -/
theorem word?_of_minus {c : Char} (hc : Text.isAsciiDigit c = true) (more : List Char) :
    word? ('-' :: c :: more) = none := by
  have hne : 'I' ≠ c := by
    rintro rfl
    cases hc
  simp [word?, words, after?, hne]

/-- What is read as a number is read as no word, and begins nothing else. -/
theorem value?_of_number? {cs : List Char} {found : Raw × List Char}
    (hnumber : number? cs = some found) (fuel : Nat) : value? (fuel + 1) cs = some found := by
  have hother {c : Char} {more : List Char} (hc : c = '-' ∨ Text.isAsciiDigit c = true)
      (hword : word? (c :: more) = none) :
      value? (fuel + 1) (c :: more) = number? (c :: more) := by
    have hquote : c ≠ Text.doubleQuote := by rintro rfl; revert hc; decide
    have hbracket : c ≠ '[' := by rintro rfl; revert hc; decide
    have hbrace : c ≠ '\x7b' := by rintro rfl; revert hc; decide
    simp only [value?, if_neg hquote, if_neg hbracket, if_neg hbrace, hword]
  rcases cs with _ | ⟨c, more⟩
  · cases hnumber
  · by_cases hminus : c = '-'
    · subst hminus
      obtain ⟨parts, hwhole⟩ := whole?_of_magnitude? hnumber
      obtain ⟨digit, others, rfl, hdigit⟩ := digit_of_whole? hwhole
      rw [hother (Or.inl rfl) (word?_of_minus hdigit others)]
      exact hnumber
    · obtain ⟨parts, hwhole⟩ := whole?_of_magnitude? (number?_of_ne hminus more ▸ hnumber)
      obtain ⟨digit, others, hcons, hdigit⟩ := digit_of_whole? hwhole
      obtain ⟨rfl, rfl⟩ := List.cons.inj hcons
      rw [hother (Or.inr hdigit) (word?_of_digit hdigit more)]
      exact hnumber

/-- The text of a number is read wherever a value may stand. -/
theorem reads_number {cs : List Char} {raw : Raw} (hnumber : number? cs = some (raw, [])) :
    Reads cs raw where
  read fuel rest hfuel hrest := by
    obtain ⟨fuel, rfl⟩ : ∃ less, fuel = less + 1 := by
      cases fuel with
      | zero =>
        obtain rfl := List.length_eq_zero_iff.mp (Nat.le_zero.mp hfuel)
        cases hnumber
      | succ less => exact ⟨less, rfl⟩
    refine value?_of_number? ?_ fuel
    rw [number?_append hrest, hnumber]
    rfl
  starts := by
    rcases cs with _ | ⟨c, more⟩
    · cases hnumber
    · refine ⟨c, more, rfl, ?_⟩
      by_cases hminus : c = '-'
      · subst hminus
        decide
      · obtain ⟨parts, hwhole⟩ := whole?_of_magnitude? (number?_of_ne hminus more ▸ hnumber)
        obtain ⟨digit, others, hcons, hdigit⟩ := digit_of_whole? hwhole
        obtain ⟨rfl, -⟩ := List.cons.inj hcons
        refine ⟨?_, by rintro rfl; cases hdigit⟩
        simp only [Text.isAsciiDigit, Bool.and_eq_true, decide_eq_true_eq] at hdigit
        simp only [isBlank, Bool.or_eq_false_iff, beq_eq_false_iff_ne]
        omega

/-! ### Strings -/

/-- One of the four digits that a code is written with. -/
def codeDigit (n place : Nat) : Char := (Text.hexPadded 4 n).getD place '0'

/-- The code of a control character is read from its four digits. -/
theorem code?_hexPadded {n : Nat} (hn : n < 32) :
    ∃ a b c d, Text.hexPadded 4 n = [a, b, c, d] ∧ code? a b c d = some n := by
  have hall : ∀ n < 32,
      Text.hexPadded 4 n = [codeDigit n 0, codeDigit n 1, codeDigit n 2, codeDigit n 3] ∧
        code? (codeDigit n 0) (codeDigit n 1) (codeDigit n 2) (codeDigit n 3) = some n := by
    decide
  exact ⟨_, _, _, _, hall n hn⟩

/-- A character is escaped by one other character, by its code, or not at all. -/
theorem escapeChar_cases (c : Char) :
    (∃ e, escapeChar c = [Text.backslash, e] ∧ e ≠ 'u' ∧ unescape? e = some c) ∨
    (c.toNat < 32 ∧ escapeChar c = Text.backslash :: 'u' :: Text.hexPadded 4 c.toNat) ∨
    (c ≠ Text.doubleQuote ∧ c ≠ Text.backslash ∧ ¬ c.toNat < 32 ∧ escapeChar c = [c]) := by
  have hcode {code : Nat} (hc : c.toNat = code) : c = Char.ofNat code := by
    rw [← hc, c.ofNat_toNat]
  unfold escapeChar
  by_cases hquote : c = Text.doubleQuote
  · exact Or.inl ⟨c, if_pos hquote, by rw [hquote]; decide, by rw [hquote]; rfl⟩
  rw [if_neg hquote]
  by_cases hbackslash : c = Text.backslash
  · exact Or.inl ⟨c, if_pos hbackslash, by rw [hbackslash]; decide, by rw [hbackslash]; rfl⟩
  rw [if_neg hbackslash]
  by_cases hfeed : c = Text.lineFeed
  · exact Or.inl ⟨'n', if_pos hfeed, by decide, by rw [hfeed]; rfl⟩
  rw [if_neg hfeed]
  by_cases hreturn : c.toNat = 13
  · exact Or.inl ⟨'r', if_pos hreturn, by decide, by rw [hcode hreturn]; rfl⟩
  rw [if_neg hreturn]
  by_cases htab : c.toNat = 9
  · exact Or.inl ⟨'t', if_pos htab, by decide, by rw [hcode htab]; rfl⟩
  rw [if_neg htab]
  by_cases hform : c.toNat = 12
  · exact Or.inl ⟨'f', if_pos hform, by decide, by rw [hcode hform]; rfl⟩
  rw [if_neg hform]
  by_cases hback : c.toNat = 8
  · exact Or.inl ⟨'b', if_pos hback, by decide, by rw [hcode hback]; rfl⟩
  rw [if_neg hback]
  by_cases hcontrol : c.toNat < 32
  · exact Or.inr (Or.inl ⟨hcontrol, if_pos hcontrol⟩)
  · exact Or.inr (Or.inr ⟨hquote, hbackslash, hcontrol, if_neg hcontrol⟩)

/-- One piece of a string is one character of the text. -/
theorem piece_escapeChar (c : Char) (rest : List Char) :
    piece (escapeChar c ++ rest) = .character c rest := by
  have hmark : Text.backslash ≠ Text.doubleQuote := by decide
  obtain ⟨e, hescape, hu, he⟩ | ⟨hcontrol, hescape⟩ | ⟨hquote, hbackslash, hcontrol, hescape⟩ :=
    escapeChar_cases c
  · rw [hescape]
    simp [piece, hmark, hu, he]
  · obtain ⟨h, i, j, k, hdigits, hcode⟩ := code?_hexPadded hcontrol
    have hhigh : isHighHalf c.toNat = false := by simp [isHighHalf]; omega
    have hlow : isLowHalf c.toNat = false := by simp [isLowHalf]; omega
    rw [hescape, hdigits]
    simp [piece, hmark, hcode, hhigh, hlow, charOfCode]
  · rw [hescape]
    simp [piece, hquote, hbackslash, hcontrol]

theorem escapeChar_ne_nil (c : Char) : escapeChar c ≠ [] := by
  intro hnil
  have hpiece := piece_escapeChar c []
  rw [hnil] at hpiece
  cases hpiece

theorem stringBody_escaped (cs rest : List Char) (fuel : Nat)
    (hfuel : (cs.flatMap escapeChar).length < fuel) :
    stringBody fuel (cs.flatMap escapeChar ++ Text.doubleQuote :: rest) = some (cs, rest) := by
  induction cs generalizing fuel with
  | nil =>
    obtain ⟨fuel, rfl⟩ := Nat.exists_eq_add_of_le' (Nat.one_le_of_lt hfuel)
    rfl
  | cons c cs ih =>
    obtain ⟨fuel, rfl⟩ := Nat.exists_eq_add_of_le' (Nat.one_le_of_lt hfuel)
    have hlength : 0 < (escapeChar c).length := List.length_pos_iff.mpr (escapeChar_ne_nil c)
    rw [List.flatMap_cons, List.length_append] at hfuel
    rw [List.flatMap_cons, List.append_assoc, stringBody, piece_escapeChar]
    dsimp only
    rw [ih fuel (by omega)]
    rfl

theorem string?_escaped (s : String) (rest : List Char) :
    string? (s.toList.flatMap escapeChar ++ Text.doubleQuote :: rest) = some (s, rest) := by
  unfold string?
  rw [stringBody_escaped s.toList rest _ (by rw [List.length_append]; omega)]
  simp

theorem reads_text (s : String) : Reads (quote s) (.text s) where
  read fuel rest hfuel _ := by
    obtain ⟨fuel, rfl⟩ : ∃ less, fuel = less + 1 :=
      Nat.exists_eq_add_of_le' (Nat.le_trans (by simp [quote]) hfuel)
    have hquote : quote s ++ rest =
        Text.doubleQuote :: (s.toList.flatMap escapeChar ++ Text.doubleQuote :: rest) := by
      simp [quote]
    rw [hquote, value?, if_pos rfl, string?_escaped]
    rfl
  starts := ⟨_, _, rfl, by decide, by decide⟩

/-! ### Lists -/

theorem skipBlanks_append {blanks : List Char} (hblanks : ∀ c ∈ blanks, isBlank c = true)
    (cs : List Char) : skipBlanks (blanks ++ cs) = skipBlanks cs :=
  List.dropWhile_append_of_pos hblanks

theorem isBlank_of_mem_lineBreak {depth : Nat} {c : Char} (hc : c ∈ lineBreak depth) :
    isBlank c = true := by
  rcases List.mem_cons.mp hc with rfl | hc
  · rfl
  · rw [List.eq_of_mem_replicate hc]
    rfl

theorem skipBlanks_opening (pretty : Bool) (depth : Nat) (cs : List Char) :
    skipBlanks (opening pretty depth ++ cs) = skipBlanks cs := by
  cases pretty with
  | false => rfl
  | true => exact skipBlanks_append (fun _ ↦ isBlank_of_mem_lineBreak) cs

theorem skipBlanks_closing (pretty : Bool) (depth : Nat) (cs : List Char) :
    skipBlanks (closing pretty depth ++ cs) = skipBlanks cs := by
  cases pretty with
  | false => rfl
  | true => exact skipBlanks_append (fun _ ↦ isBlank_of_mem_lineBreak) cs

/-- A separator is a comma and blanks. -/
theorem separator_eq (pretty : Bool) (depth : Nat) :
    ∃ blanks, separator pretty depth = ',' :: blanks ∧ ∀ c ∈ blanks, isBlank c = true := by
  cases pretty with
  | false => exact ⟨[' '], rfl, List.forall_mem_singleton.mpr rfl⟩
  | true => exact ⟨lineBreak (depth + 1), rfl, fun _ ↦ isBlank_of_mem_lineBreak⟩

/-- After an item stands a comma, a closing bracket or a line break. -/
theorem delimited_items (pretty : Bool) (depth : Nat) (items : List Raw) (tail : List Char) :
    Delimited (writeItems pretty depth items ++ (closing pretty depth ++ ']' :: tail)) := by
  cases items with
  | nil =>
    cases pretty with
    | false => exact delimited_cons tail (by decide)
    | true => exact delimited_cons _ (by decide)
  | cons item rest =>
    obtain ⟨blanks, hseparator, -⟩ := separator_eq pretty depth
    simp only [writeItems, hseparator, List.cons_append]
    exact delimited_cons _ (by decide)

theorem Reads.skipBlanks_eq {cs : List Char} {raw : Raw} (hreads : Reads cs raw)
    (rest : List Char) : skipBlanks (cs ++ rest) = cs ++ rest := by
  obtain ⟨c, more, rfl, hblank, -⟩ := hreads.starts
  exact List.dropWhile_cons_of_neg (by simp [hblank])

/-- Items are read up to the closing bracket. The induction is on the items after the first. -/
theorem items?_write {pretty : Bool} {depth : Nat} {first : Raw} {rest : List Raw}
    (hfirst : Reads (writeAt pretty (depth + 1) first) first)
    (hrest : ∀ item ∈ rest, Reads (writeAt pretty (depth + 1) item) item) (fuel : Nat)
    (hfuel : (writeAt pretty (depth + 1) first).length + (writeItems pretty depth rest).length <
      fuel) (tail : List Char) :
    items? fuel (writeAt pretty (depth + 1) first ++
      (writeItems pretty depth rest ++ (closing pretty depth ++ ']' :: tail))) =
        some (first :: rest, tail) := by
  induction rest generalizing first fuel with
  | nil =>
    obtain ⟨fuel, rfl⟩ := Nat.exists_eq_add_of_le' (Nat.one_le_of_lt hfuel)
    have hread := hfirst.read fuel _ (by omega) (delimited_items pretty depth [] tail)
    have hclosing := skipBlanks_closing pretty depth (']' :: tail)
    rw [items?, hread]
    simp only [writeItems, List.nil_append, hclosing]
    rfl
  | cons item rest ih =>
    obtain ⟨fuel, rfl⟩ := Nat.exists_eq_add_of_le' (Nat.one_le_of_lt hfuel)
    obtain ⟨hitem, hothers⟩ := List.forall_mem_cons.mp hrest
    have hread := hfirst.read fuel _ (by omega) (delimited_items pretty depth (item :: rest) tail)
    obtain ⟨blanks, hseparator, hblanks⟩ := separator_eq pretty depth
    simp only [writeItems, hseparator, List.length_append, List.length_cons] at hfuel
    have hnext := ih hitem hothers fuel (by omega)
    have hskip : skipBlanks (writeItems pretty depth (item :: rest) ++
        (closing pretty depth ++ ']' :: tail)) = writeItems pretty depth (item :: rest) ++
        (closing pretty depth ++ ']' :: tail) := by
      simp [writeItems, hseparator, skipBlanks, show isBlank ',' = false by decide]
    rw [items?, hread]
    dsimp only
    rw [hskip]
    simp only [writeItems, hseparator, List.cons_append, List.append_assoc]
    rw [skipBlanks_append hblanks, hitem.skipBlanks_eq, hnext]
    rfl

theorem reads_list {pretty : Bool} {depth : Nat} {items : List Raw}
    (hitems : ∀ item ∈ items, Reads (writeAt pretty (depth + 1) item) item) :
    Reads (writeAt pretty depth (.list items)) (.list items) where
  read fuel rest hfuel hrest := by
    cases items with
    | nil =>
      obtain ⟨fuel, rfl⟩ := Nat.exists_eq_add_of_le' (Nat.le_trans (by decide : 1 ≤ 2) hfuel)
      rfl
    | cons first others =>
      obtain ⟨hfirst, hothers⟩ := List.forall_mem_cons.mp hitems
      obtain ⟨c, more, hcons, hblank, hbracket⟩ := hfirst.starts
      simp only [writeAt, List.length_append, List.length_cons, List.length_nil,
        List.cons_append] at hfuel
      obtain ⟨fuel, rfl⟩ := Nat.exists_eq_add_of_le' (Nat.le_trans (by omega : 1 ≤ _) hfuel)
      have hinside := items?_write hfirst hothers fuel (by omega) rest
      have htext : writeAt pretty depth (.list (first :: others)) ++ rest =
          '[' :: (opening pretty depth ++ (writeAt pretty (depth + 1) first ++
            (writeItems pretty depth others ++ (closing pretty depth ++ ']' :: rest)))) := by
        simp [writeAt]
      have hskip := hfirst.skipBlanks_eq
        (writeItems pretty depth others ++ (closing pretty depth ++ ']' :: rest))
      rw [htext, value?, if_neg (by decide), if_pos rfl, skipBlanks_opening, hskip]
      split
      · next heq =>
        rw [hcons] at heq
        exact absurd (List.cons.inj heq).1 hbracket
      · rw [hinside]
        rfl
  starts := by
    cases items with
    | nil => exact ⟨_, _, rfl, by decide, by decide⟩
    | cons first others => exact ⟨'[', _, rfl, by decide, by decide⟩

end Json

/-! ### Raw data without maps -/

namespace Raw

mutual

/-- Whether raw data is made of lists and scalars, and holds no not-a-number. -/
def isListed : Raw → Bool
  | .float x => !x.isNaN
  | .list items => areListed items
  | .map _ => false
  | .built _ => false
  | _ => true

/-- Whether several raw data are made of lists and scalars. -/
def areListed : List Raw → Bool
  | [] => true
  | item :: rest => isListed item && areListed rest

end

end Raw

namespace Json

theorem reads_float {x : Binary64} (hnumber : x.isNaN = false) :
    Reads (x.text numberLayout).toList (.float x) := by
  by_cases hfinite : x.isFinite = true
  · exact reads_number (number?_text hfinite)
  · have hexponent : x.exponentField = 2047 := by simpa [Binary64.isFinite] using hfinite
    have hfraction : x.fractionField = 0 := by simpa [Binary64.isNaN, hexponent] using hnumber
    have hinfinite : x.isInfinite = true := by simp [Binary64.isInfinite, hexponent, hfraction]
    have hx : Binary64.infinity x.negative = x := by
      have hfields := x.ofFields_fields
      rwa [hexponent, hfraction] at hfields
    have hreads := reads_infinity x.negative
    rw [hx] at hreads
    unfold Binary64.text
    rw [hnumber, hinfinite]
    cases hnegative : x.negative <;> rw [hnegative] at hreads <;> exact hreads

mutual

/-- Raw data without maps is read back from its text, at every depth, laid out or not. -/
theorem reads_writeAt (pretty : Bool) (depth : Nat) {raw : Raw} (hlisted : raw.isListed = true) :
    Reads (writeAt pretty depth raw) raw := by
  cases raw with
  | null => exact reads_null
  | bool b => exact reads_bool b
  | int i => exact reads_number (number?_integerText i)
  | float x => exact reads_float (Bool.not_eq_true' _ ▸ hlisted)
  | text s => exact reads_text s
  | list items => exact reads_list (reads_writeEach pretty (depth + 1) hlisted)
  | map entries => cases hlisted
  | built tree => cases hlisted

theorem reads_writeEach (pretty : Bool) (depth : Nat) {items : List Raw}
    (hlisted : Raw.areListed items = true) :
    ∀ item ∈ items, Reads (writeAt pretty depth item) item := by
  cases items with
  | nil => nofun
  | cons item rest =>
    obtain ⟨hitem, hrest⟩ := Bool.and_eq_true_iff.mp hlisted
    exact List.forall_mem_cons.mpr
      ⟨reads_writeAt pretty depth hitem, reads_writeEach pretty depth hrest⟩

end

/-- Reading inverts writing on raw data without maps. -/
theorem read?_write (pretty : Bool) {raw : Raw} (hlisted : raw.isListed = true) :
    read? (write pretty raw) = some raw := by
  have hreads := reads_writeAt pretty 0 hlisted
  have hskip := hreads.skipBlanks_eq []
  have hread := hreads.read ((writeAt pretty 0 raw).length + 1) [] (Nat.le_succ _) delimited_nil
  rw [List.append_nil] at hskip hread
  unfold read? write
  simp only [String.toList_ofList, hskip, hread]
  rfl

end Json

/-! ### Documents -/

namespace Text

theorem runOffset_of_small :
    ∀ code < 123, 97 ≤ code → runOffset lowerRuns code = 0 := by
  unfold runOffset
  simp only [← Array.find?_toList]
  decide +kernel

/-- The small letters of the Latin alphabet are their own lower case. -/
theorem lowerFrom_of_small {before cs : List Char}
    (hletters : ∀ c ∈ cs, 97 ≤ c.toNat ∧ c.toNat < 123) : lowerFrom before cs = cs := by
  induction cs generalizing before with
  | nil => rfl
  | cons c cs ih =>
    obtain ⟨⟨hlow, hhigh⟩, hrest⟩ := List.forall_mem_cons.mp hletters
    have hc : lowerChar before c cs = [c] := by
      unfold lowerChar shiftedBy
      rw [if_neg (by omega), if_neg (by omega), runOffset_of_small c.toNat hhigh hlow,
        Int.add_zero, Int.toNat_natCast, c.ofNat_toNat]
    rw [lowerFrom, hc, ih hrest]
    rfl

theorem lower_of_small {cs : List Char} (hletters : ∀ c ∈ cs, 97 ≤ c.toNat ∧ c.toNat < 123) :
    lower cs = cs :=
  lowerFrom_of_small hletters

end Text

namespace Tree

mutual

/-- Whether some leaf of a tree is a not-a-number. -/
def holdsNaN : Tree → Bool
  | leaf (.float x) => x.isNaN
  | leaf _ => false
  | node _ children => anyHoldsNaN children

/-- Whether some leaf of several trees is a not-a-number. -/
def anyHoldsNaN : List Tree → Bool
  | [] => false
  | child :: rest => holdsNaN child || anyHoldsNaN rest

end

mutual

theorem isListed_toRaw {tree : Tree} (hnumbers : tree.holdsNaN = false) :
    tree.toRaw.isListed = true := by
  cases tree with
  | leaf scalar =>
    cases scalar with
    | float x => exact (Bool.not_eq_true' _).mpr hnumbers
    | _ => rfl
  | node tag children => exact areListed_childrenToRaw hnumbers

theorem areListed_childrenToRaw {children : List Tree} (hnumbers : anyHoldsNaN children = false) :
    Raw.areListed (childrenToRaw children) = true := by
  cases children with
  | nil => rfl
  | cons child rest =>
    obtain ⟨hchild, hrest⟩ := Bool.or_eq_false_iff.mp hnumbers
    unfold childrenToRaw Raw.areListed
    rw [isListed_toRaw hchild, areListed_childrenToRaw hrest]
    rfl

end

end Tree

namespace Document

/-- The text of a list looks like the first format. -/
theorem ofText?_write_list (pretty : Bool) (items : List Raw) :
    ofText? (some (Json.write pretty (.list items))) = some .json := by
  have hstarts : ∃ more, Json.writeAt pretty 0 (.list items) = '[' :: more := by
    cases items with
    | nil => exact ⟨_, rfl⟩
    | cons first others => exact ⟨_, rfl⟩
  obtain ⟨more, hmore⟩ := hstarts
  unfold ofText? Json.write
  rw [hmore, Option.getD_some, String.toList_ofList]
  rfl

/-- The text of a node in the first format is read as its list spelling, whether or not the format
is named. -/
theorem read_write_node (pretty : Bool) {tag : String} {children : List Tree}
    (hnumbers : (Tree.node tag children).holdsNaN = false) (format : Option String)
    (hformat : format = none ∨ format = some "json") :
    read .standard format none (Json.write pretty (Tree.node tag children).toRaw) =
      .ok (Tree.node tag children).toRaw := by
  have hread := Json.read?_write pretty (Tree.isListed_toRaw hnumbers)
  have hjson : readAs .standard .json (Json.write pretty (Tree.node tag children).toRaw) =
      .ok (Tree.node tag children).toRaw := by
    simp only [readAs, Loader.standard, hread]
    rfl
  rcases hformat with rfl | rfl
  · have hdetect (hint : Option String) : detect? none hint none = ofText? hint := rfl
    have htext : ofText? (some (Json.write pretty (Tree.node tag children).toRaw)) =
        some .json := by
      rw [Tree.toRaw]
      exact ofText?_write_list pretty _
    unfold read
    simp only [given?, hdetect, htext]
    exact hjson
  · exact hjson

theorem treeOf?_of_node {tag : String} {children : List Tree}
    (hread : Tree.ofRaw (Tree.node tag children).toRaw = .ok (.node tag children)) :
    treeOf? (Tree.node tag children).toRaw = .ok (some (.node tag children)) := by
  have hlist : (Tree.node tag children).toRaw = .list (.text tag :: Tree.childrenToRaw children) :=
    by rw [Tree.toRaw]
  rw [hlist] at hread ⊢
  simp only [treeOf?, hread]
  rfl

/-- A format is found by its name in small letters. -/
theorem target_of_name {name : String} {format : Format}
    (hletters : ∀ c ∈ name.toList, 97 ≤ c.toNat ∧ c.toNat < 123)
    (hname : Format.ofName? name = some format) : target (some name) = .ok format := by
  have hlower : String.ofList (Text.lower name.toList) = name := by
    rw [Text.lower_of_small hletters, String.ofList_toList]
  unfold target
  rw [Option.getD_some, hlower, hname]

theorem target_json : target (some "json") = .ok .json :=
  target_of_name (by simp) rfl

end Document

/-- A tree that raw data without built trees spells, and that holds no not-a-number, is read back
from its own text in the first format, laid out or not, whether or not the format is named. -/
theorem dump_then_load {raw : Raw} {tag : String} {children : List Tree}
    (hplain : raw.isPlain = true) (hread : Tree.ofRaw raw = .ok (.node tag children))
    (hnumbers : (Tree.node tag children).holdsNaN = false) :
    Tree.ofRaw (Tree.node tag children).toRaw = .ok (.node tag children) ∧
    ∀ pretty, ∃ text,
      Document.writeTree (some "json") pretty (.node tag children) = .ok text ∧
      Document.tree? .standard none none text = .ok (some (.node tag children)) ∧
      Document.tree? .standard (some "json") none text = .ok (some (.node tag children)) := by
  have hspelled : (Tree.node tag children).isSpelled none = true :=
    Tree.isSpelled_of_read hplain hread
  have hback : Tree.ofRaw (Tree.node tag children).toRaw = .ok (.node tag children) :=
    Tree.read_toRaw hspelled
  have htree := Document.treeOf?_of_node hback
  refine ⟨hback, fun pretty ↦ ⟨Json.write pretty (Tree.node tag children).toRaw, ?_, ?_, ?_⟩⟩
  · unfold Document.writeTree Document.write
    rw [Document.target_json]
    rfl
  · unfold Document.tree?
    rw [Document.read_write_node pretty hnumbers none (Or.inl rfl)]
    exact htree
  · unfold Document.tree?
    rw [Document.read_write_node pretty hnumbers (some "json") (Or.inr rfl)]
    exact htree

/-- A map over lists, with a number given as text, a symbol, a truth value and a float. -/
theorem mixed_spelling_reloads :
    let raw := Raw.map [(.text "tag", .text "send"), (.text "children", .list
      [.list [.text "int", .text "42"],
        .map [(.text "value", .text "+"), (.text "tag", .text "sym")], .list [.bool true],
        .list [.text "float", .float (Binary64.ofFields false 1022 0)]])]
    let children := [Tree.node "int" [.leaf (.int 42)], .node "sym" [.leaf (.symbol "+")],
      .node "true" [], .node "float" [.leaf (.float (Binary64.ofFields false 1022 0))]]
    raw.isPlain = true ∧ Tree.ofRaw raw = .ok (.node "send" children) ∧
    (Tree.node "send" children).holdsNaN = false ∧
    Tree.ofRaw (Tree.node "send" children).toRaw = .ok (.node "send" children) ∧
    ∀ pretty, ∃ text,
      Document.writeTree (some "json") pretty (.node "send" children) = .ok text ∧
      Document.tree? .standard none none text = .ok (some (.node "send" children)) ∧
      Document.tree? .standard (some "json") none text = .ok (some (.node "send" children)) := by
  intro raw children
  have hplain : raw.isPlain = true := by decide
  have hread : Tree.ofRaw raw = .ok (.node "send" children) := rfl
  have hnumbers : (Tree.node "send" children).holdsNaN = false := by decide
  exact ⟨hplain, hread, hnumbers, dump_then_load hplain hread hnumbers⟩

end Treewalk
