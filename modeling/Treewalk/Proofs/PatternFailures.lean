import Treewalk.Regexp.Compile

/-!
How compiling a pattern fails. A reader of patterns is orderly if it fails only because the source
is malformed or a number in it is too large; the primitive readers are orderly, and sequencing and
choosing keep it. The readers of groups call each other, always with less fuel, so that one
induction on the fuel serves all of them (`Orderly.onFuel`). Apart from that, a source may ask for
two kinds of text at once (`kind_of_compile`).
-/

set_option autoImplicit false
set_option relaxedAutoImplicit false

namespace Treewalk.Regexp

/-- A reader that fails only because the source is malformed or a number in it is too large. -/
def Orderly {α : Type} (reader : Reader α) : Prop :=
  ∀ reading kind, reader.run reading = .error kind → kind = .pattern ∨ kind = .overflow

namespace Orderly

variable {α β : Type}

/-! ### Primitive readers -/

theorem pure (result : α) : Orderly (Pure.pure result : Reader α) :=
  fun _ _ hfailed ↦ nomatch hfailed

theorem get : Orderly (MonadState.get : Reader Reading) :=
  fun _ _ hfailed ↦ nomatch hfailed

theorem set (reading : Reading) : Orderly (MonadStateOf.set reading : Reader PUnit) :=
  fun _ _ hfailed ↦ nomatch hfailed

theorem modify (change : Reading → Reading) : Orderly (modify change : Reader PUnit) :=
  fun _ _ hfailed ↦ nomatch hfailed

theorem malformed : Orderly (Reader.malformed : Reader α) := by
  rintro _ _ ⟨⟩
  exact Or.inl rfl

theorem overflow : Orderly (throw .overflow : Reader α) := by
  rintro _ _ ⟨⟩
  exact Or.inr rfl

/-- One reader after another: what fails is one of them. -/
theorem bind {reader : Reader α} {after : α → Reader β} (hreader : Orderly reader)
    (hafter : ∀ result, Orderly (after result)) : Orderly (reader >>= after) := by
  intro reading kind hfailed
  have hrun : (reader >>= after).run reading =
      (reader.run reading >>= fun ended ↦ (after ended.1).run ended.2) := rfl
  rw [hrun] at hfailed
  rcases heq : reader.run reading with first | ⟨result, changed⟩
  · rw [heq] at hfailed
    obtain rfl : first = kind := Except.error.inj hfailed
    exact hreader reading first heq
  · rw [heq] at hfailed
    exact hafter result changed kind hfailed

/-- One of two readers. -/
theorem ite {p : Prop} [Decidable p] {first second : Reader α} (hfirst : Orderly first)
    (hsecond : Orderly second) : Orderly (if p then first else second) := by
  split <;> assumption

/-! ### Tokens -/

theorem peek : Orderly Reader.peek := bind get fun _ ↦ pure _

theorem take : Orderly Reader.take := bind get fun _ ↦ bind (set _) fun _ ↦ pure _

theorem accept (c : Char) : Orderly (Reader.accept c) := by
  refine bind get fun reading ↦ ?_
  split
  · split
    · exact bind (set _) fun _ ↦ pure _
    · exact pure _
  · exact pure _

theorem expect (c : Char) : Orderly (Reader.expect c) :=
  bind (accept c) fun _ ↦ ite (pure _) malformed

theorem takeWhile (limit : Nat) (test : Char → Bool) : Orderly (Reader.takeWhile limit test) :=
  bind get fun _ ↦ bind (set _) fun _ ↦ pure _

theorem nameUntil (mark : Char) : Orderly (Reader.nameUntil mark) := by
  refine bind get fun reading ↦ ?_
  dsimp only
  split
  · exact malformed
  · exact bind (set _) fun _ ↦ pure _

/-! ### Escapes -/

theorem checkReference (group : Nat) : Orderly (Regexp.checkReference group) := by
  refine bind get fun reading ↦ ?_
  split
  · exact malformed
  · split
    · split
      · exact malformed
      · exact pure _
    · exact pure _

theorem hexEscape (count : Nat) : Orderly (Regexp.hexEscape count) := by
  refine bind (takeWhile _ _) fun digits ↦ ?_
  exact ite malformed (ite overflow (ite malformed (pure _)))

theorem nameEscape : Orderly Regexp.nameEscape := by
  refine bind (expect _) fun _ ↦ bind (nameUntil _) fun name ↦ ?_
  split
  · exact pure _
  · exact malformed

theorem commonEscape (c : Char) : Orderly (Regexp.commonEscape c) := by
  unfold Regexp.commonEscape
  repeat' split
  · exact pure _
  · exact pure _
  · exact hexEscape 2
  · exact hexEscape 4
  · exact hexEscape 8
  · exact nameEscape
  · exact malformed
  · exact pure _

theorem setEscape (c : Char) : Orderly (Regexp.setEscape c) := by
  refine ite (pure _) (ite ?_ (ite malformed (commonEscape c)))
  exact bind (takeWhile _ _) fun more ↦ ite malformed (pure _)

theorem numberEscape (c : Char) : Orderly (Regexp.numberEscape c) := by
  have htail (more third : List Char) : Orderly (if third.isEmpty then do
        let width ← Regexp.checkReference (Text.ofDigits 10 (c :: more))
        return Escape.item (.single width)
      else
        if 255 < Text.ofDigits 8 (c :: more ++ third) then Reader.malformed
        else return Escape.code (Text.ofDigits 8 (c :: more ++ third)) : Reader Escape) :=
    ite (bind (checkReference _) fun _ ↦ pure _) (ite malformed (pure _))
  refine bind (takeWhile _ _) fun more ↦ ?_
  dsimp only
  split
  · exact ite (bind (takeWhile _ _) (htail _)) (bind (pure _) (htail _))
  · exact bind (pure _) (htail _)

theorem itemEscape (c : Char) : Orderly (Regexp.itemEscape c) := by
  refine ite (pure _) (ite (bind (takeWhile _ _) fun _ ↦ pure _) (ite ?_ ?_))
  · refine bind (numberEscape c) fun found ↦ ?_
    split <;> exact pure _
  · exact bind (commonEscape c) fun _ ↦ pure _

/-! ### Sets and repetitions -/

theorem setMember (token : Token) : Orderly (Regexp.setMember token) := by
  cases token with
  | plain c => exact pure _
  | escaped c => exact setEscape c

theorem readSet (fuel : Nat) (started : Bool) : Orderly (Regexp.readSet fuel started) := by
  induction fuel generalizing started with
  | zero => exact malformed
  | succ fuel ih =>
    refine bind take fun token ↦ ?_
    split
    · exact malformed
    · split
      · exact pure _
      · refine bind (setMember _) fun low ↦ bind (accept _) fun isRange ↦ ?_
        split
        · refine bind take fun other ↦ ?_
          split
          · exact malformed
          · exact pure _
          · refine bind (setMember _) fun high ↦ ?_
            exact ite (ih true) malformed
        · exact ih true

theorem readBounds : Orderly Regexp.readBounds := by
  refine bind get fun saved ↦ bind peek fun next ↦ ?_
  have hclosed (low high : List Char) : Orderly (do
      if ← Reader.accept '\x7d' then
        if Width.bound ≤ Text.ofDigits 10 low || (!high.isEmpty && Width.bound ≤
            (if high.isEmpty then Width.bound else Text.ofDigits 10 high)) then throw .overflow
        else if (if high.isEmpty then Width.bound else Text.ofDigits 10 high) <
            Text.ofDigits 10 low then Reader.malformed
        else return some (Text.ofDigits 10 low,
          if high.isEmpty then Width.bound else Text.ofDigits 10 high)
      else
        MonadStateOf.set saved
        return none : Reader (Option (Nat × Nat))) := by
    refine bind (accept _) fun isClosed ↦ ?_
    generalize (if high.isEmpty then Width.bound else Text.ofDigits 10 high) = greatest
    exact ite (ite overflow (ite malformed (pure _))) (bind (set _) fun _ ↦ pure _)
  refine ite (pure _) (bind (takeWhile _ _) fun low ↦ bind (accept _) fun comma ↦ ite ?_ ?_)
  · exact bind (takeWhile _ _) (hclosed low)
  · exact bind (pure _) (hclosed low)

theorem repeatItem (item : Item) (least greatest : Nat) :
    Orderly (Regexp.repeatItem item least greatest) := by
  unfold Regexp.repeatItem
  split
  · exact malformed
  · exact malformed
  · exact malformed
  · exact bind (accept _) fun reluctant ↦ ite (bind (accept _) fun _ ↦ pure _) (pure _)

theorem skipComment : Orderly Regexp.skipComment := by
  refine bind get fun reading ↦ ?_
  dsimp only
  split
  · exact malformed
  · exact set _

theorem skipLine : Orderly Regexp.skipLine := bind get fun _ ↦ set _

/-! ### Options -/

theorem readLetters (marks : List Char) (fuel : Nat) (letters : List Char) :
    Orderly (Regexp.readLetters marks fuel letters) := by
  induction fuel generalizing letters with
  | zero => exact malformed
  | succ fuel ih =>
    refine bind take fun token ↦ ?_
    split
    · exact ite (pure _) (ite (ih _) malformed)
    · exact malformed

theorem readInline (first : Char) : Orderly (Regexp.readInline first) := by
  refine bind get fun reading ↦ ?_
  have htail (front : List Char × Char) : Orderly (do
      if front.1.contains 'a' && front.1.contains 'u' then Reader.malformed
      else if front.2 = ')' then return Inline.everywhere front.1
      else if front.2 = ':' then return Inline.inside front.1 []
      else
        let back ← Regexp.readLetters [':'] (reading.rest.length + 1) []
        if back.1.isEmpty || back.1.any isTextLetter || back.1.any front.1.contains then
          Reader.malformed
        else return Inline.inside front.1 back.1 : Reader Inline) := by
    refine ite malformed (ite (pure _) (ite (pure _) ?_))
    exact bind (readLetters _ _ _) fun back ↦ ite malformed (pure _)
  refine ite (bind (pure _) htail) (ite (bind malformed htail) ?_)
  exact bind (readLetters _ _ _) htail

/-! ### Groups -/

theorem openGroup (name : Option String) : Orderly (Regexp.openGroup name) := by
  have htail (reading : Reading) (names : List (String × Nat)) : Orderly (do
      MonadStateOf.set { reading with groups := reading.groups + 1, names := names }
      return reading.groups : Reader Nat) := bind (set _) fun _ ↦ pure _
  refine bind get fun reading ↦ ?_
  dsimp only
  split
  · exact bind (pure _) (htail reading)
  · split
    · exact bind malformed (htail reading)
    · exact bind (pure _) (htail reading)

theorem closeGroup (group : Nat) (width : Width) : Orderly (Regexp.closeGroup group width) :=
  modify _

theorem conditionGroup (name : List Char) : Orderly (Regexp.conditionGroup name) := by
  unfold Regexp.conditionGroup
  split
  · refine bind get fun reading ↦ ?_
    split
    · exact pure _
    · exact malformed
  · split
    · exact ite malformed (bind (modify _) fun _ ↦ pure _)
    · exact malformed

theorem readCondition : Orderly Regexp.readCondition := by
  refine bind (nameUntil _) fun name ↦ bind (conditionGroup _) fun group ↦
    bind get fun reading ↦ ?_
  split
  · exact bind (checkReference _) fun _ ↦ pure _
  · exact pure _

/-- The readers of groups are orderly on this much fuel. -/
structure OnFuel (fuel : Nat) : Prop where
  branches : ∀ extended nested first, Orderly (readBranches fuel extended nested first)
  items : ∀ extended first item before, Orderly (readItems fuel extended first item before)
  special : ∀ extended mark, Orderly (readSpecial fuel extended mark)

theorem onFuel_zero : OnFuel 0 where
  branches _ _ _ := malformed
  items _ _ _ _ := malformed
  special _ _ := malformed

section

variable {fuel : Nat} (hless : OnFuel fuel)

include hless

theorem readBranches_succ (extended nested first : Bool) :
    Orderly (readBranches (fuel + 1) extended nested first) := by
  unfold readBranches
  refine bind (hless.items _ _ _ _) fun width ↦ bind (accept _) fun bar ↦ ?_
  refine ite (bind get fun reading ↦ ?_) (pure _)
  exact bind (hless.branches _ _ _) fun others ↦ pure _

/-- A group between parentheses. -/
theorem readGroup (extended : Bool) {after : Width → Reader α}
    (hafter : ∀ width, Orderly (after width)) :
    Orderly (do
      let width ← readBranches fuel extended true false
      Reader.expect ')'
      after width) :=
  bind (hless.branches _ _ _) fun width ↦ bind (expect _) fun _ ↦ hafter width

theorem readSpecial_succ (extended : Bool) (mark : Char) :
    Orderly (readSpecial (fuel + 1) extended mark) := by
  unfold readSpecial
  refine ite (readGroup hless _ fun _ ↦ pure _) ?_
  refine ite (readGroup hless _ fun _ ↦ pure _) ?_
  refine ite (bind take fun sign ↦ ite (bind get fun reading ↦ ?_) malformed) ?_
  · dsimp only
    refine ite (bind (modify _) fun _ ↦ ?_) ?_
    all_goals
      refine bind (hless.branches _ _ _) fun width ↦ bind (modify _) fun _ ↦
        bind (expect _) fun _ ↦ ?_
      exact ite (bind (modify _) fun _ ↦ pure _) (pure _)
  refine ite (bind (accept _) fun named ↦ ite ?_ ?_) ?_
  · refine bind (nameUntil _) fun name ↦ ite ?_ malformed
    exact bind (openGroup _) fun group ↦ readGroup hless _ fun width ↦
      bind (closeGroup _ _) fun _ ↦ pure _
  · refine bind (accept _) fun repeats ↦ ite ?_ malformed
    refine bind (nameUntil _) fun name ↦ bind get fun reading ↦ ?_
    split
    · exact bind (checkReference _) fun _ ↦ pure _
    · exact malformed
  · refine ite (bind readCondition fun _ ↦ bind (hless.items _ _ _ _) fun yes ↦
      bind (accept _) fun bar ↦ ?_) malformed
    exact ite (bind (hless.items _ _ _ _) fun no ↦ bind (expect _) fun _ ↦ pure _)
      (bind (pure _) fun no ↦ bind (expect _) fun _ ↦ pure _)

theorem readItems_succ (extended first : Bool) (item : Item) (before : Width) :
    Orderly (readItems (fuel + 1) extended first item before) := by
  have hrest (extended first : Bool) (item : Item) (before : Width) :=
    hless.items extended first item before
  unfold readItems
  refine bind peek fun next ↦ ?_
  split
  · exact pure _
  · exact pure _
  · exact pure _
  refine bind take fun _ ↦ ?_
  split
  · exact bind (itemEscape _) fun _ ↦ hrest _ _ _ _
  refine ite (hrest _ _ _ _) ?_
  refine ite (bind skipLine fun _ ↦ hrest _ _ _ _) ?_
  refine ite (bind (accept _) fun _ ↦ bind (readSet _ _) fun _ ↦ hrest _ _ _ _) ?_
  refine ite (bind (repeatItem _ _ _) fun _ ↦ hrest _ _ _ _) ?_
  refine ite (bind (repeatItem _ _ _) fun _ ↦ hrest _ _ _ _) ?_
  refine ite (bind (repeatItem _ _ _) fun _ ↦ hrest _ _ _ _) ?_
  refine ite (bind readBounds fun bounds ↦ ?_) ?_
  · split
    · exact hrest _ _ _ _
    · exact bind (repeatItem _ _ _) fun _ ↦ hrest _ _ _ _
  refine ite (hrest _ _ _ _) (ite (bind (accept _) fun special ↦ ite ?_ ?_) (hrest _ _ _ _))
  · refine bind take fun token ↦ ?_
    split
    · exact bind skipComment fun _ ↦ hrest _ _ _ _
    · refine ite (bind (readInline _) fun inline ↦ ?_) ?_
      · split
        · exact ite (bind (modify _) fun _ ↦ bind get fun reading ↦ hrest _ _ _ _) malformed
        · exact readGroup hless _ fun _ ↦ hrest _ _ _ _
      · exact bind (hless.special _ _) fun _ ↦ hrest _ _ _ _
    · exact malformed
  · exact bind (openGroup _) fun group ↦ readGroup hless _ fun width ↦
      bind (closeGroup _ _) fun _ ↦ hrest _ _ _ _

end

theorem onFuel (fuel : Nat) : OnFuel fuel := by
  induction fuel with
  | zero => exact onFuel_zero
  | succ fuel ih => exact ⟨readBranches_succ ih, readItems_succ ih, readSpecial_succ ih⟩

end Orderly

/-- Reading tokens fails because they are malformed, or a number in them is too large. -/
theorem kind_of_read {tokens : List Token} {options : Options} {kind : Kind}
    (hfailed : read tokens options = .error kind) : kind = .pattern ∨ kind = .overflow := by
  unfold read at hfailed
  dsimp only at hfailed
  rcases heq : readBranches (4 * tokens.length + 4) options.extended false true
    { rest := tokens, options := options } with first | ⟨width, reading⟩
  · rw [heq] at hfailed
    obtain rfl : first = kind := Except.error.inj hfailed
    exact (Orderly.onFuel _).branches _ _ _ _ first heq
  · rw [heq] at hfailed
    cases hfailed

/-- A source does not compile because it is malformed, a number in it is too large, or it asks for
two kinds of text at once. -/
theorem kind_of_compile {source : String} {options : Options} {kind : Kind}
    (hfailed : compile source options = .error kind) :
    kind = .pattern ∨ kind = .overflow ∨ kind = .value := by
  unfold compile at hfailed
  dsimp only at hfailed
  split at hfailed
  · split at hfailed
    · obtain rfl := Except.error.inj hfailed
      exact Or.inr (Or.inl rfl)
    · obtain rfl := Except.error.inj hfailed
      exact Or.inl rfl
  · rcases heq : read (Token.scan source.toList).1 options with first | reading
    · rw [heq] at hfailed
      obtain rfl : first = kind := Except.error.inj hfailed
      exact (kind_of_read heq).imp_right Or.inl
    · rw [heq] at hfailed
      change (if _ then _ else _) = _ at hfailed
      split at hfailed
      · obtain rfl := Except.error.inj hfailed
        exact Or.inr (Or.inr rfl)
      · split at hfailed
        · cases hfailed
        · obtain rfl := Except.error.inj hfailed
          exact Or.inl rfl

end Treewalk.Regexp
