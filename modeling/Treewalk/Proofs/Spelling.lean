import Treewalk.Spelling

/-!
What raw data can spell. Whether a leaf can be read from raw data depends on the tag it stands
under: below `sym` there are symbols only and nowhere else is there one, and below `int` and `float`
there is no text (`Scalar.fits`). The leaves of a tree that raw data without built trees spells all fit
(`Tree.isSpelled_of_read`), and a tree whose leaves fit is read back from its own list spelling
(`Tree.read_toRaw`).
-/

set_option autoImplicit false
set_option relaxedAutoImplicit false

namespace Treewalk

/-! ### Results that are there -/

section

variable {α β : Type}

theorem exists_of_bind_eq_ok {found : Except Cause α} {next : α → Except Cause β} {result : β}
    (hresult : found >>= next = .ok result) :
    ∃ first, found = .ok first ∧ next first = .ok result := by
  cases found with
  | error cause => cases hresult
  | ok first => exact ⟨first, rfl, hresult⟩

theorem exists_of_map_eq_ok {found : Except Cause α} {f : α → β} {result : β}
    (hresult : found.map f = .ok result) : ∃ first, found = .ok first ∧ f first = result := by
  cases found with
  | error cause => cases hresult
  | ok first => exact ⟨first, rfl, Except.ok.inj hresult⟩

end

/-! ### Raw data of documents -/

namespace Raw

mutual

/-- Whether raw data holds no tree that is already built. -/
def isPlain : Raw → Bool
  | .list items => arePlain items
  | .map entries => entriesArePlain entries
  | .built _ => false
  | _ => true

/-- Whether none of several raw data holds a built tree. -/
def arePlain : List Raw → Bool
  | [] => true
  | item :: rest => isPlain item && arePlain rest

/-- Whether no key and no value of map entries holds a built tree. -/
def entriesArePlain : List (Raw × Raw) → Bool
  | [] => true
  | (key, value) :: rest => isPlain key && isPlain value && entriesArePlain rest

end

end Raw

/-! ### Leaves that fit -/

/-- Whether a scalar can be what raw data spells below a tag, or without a parent. -/
def Scalar.fits (parent : Option String) : Scalar → Bool
  | .symbol _ => parent == some "sym"
  | .text _ => parent != some "sym" && parent != some "int" && parent != some "float"
  | _ => parent != some "sym"

namespace Tree

mutual

/-- Whether every leaf of a tree that stands below the given parent fits where it stands. -/
def isSpelled (parent : Option String) : Tree → Bool
  | leaf scalar => scalar.fits parent
  | node tag children => areSpelled tag children

/-- Whether every leaf of some children fits, below a node with the given tag. -/
def areSpelled (tag : String) : List Tree → Bool
  | [] => true
  | child :: rest => isSpelled (some tag) child && areSpelled tag rest

end

/-! ### What is read fits -/

/-- A payload becomes a leaf that fits. -/
theorem isSpelled_of_payload {tag : String} {scalar : Scalar} {tree : Tree}
    (hsymbol : ∀ name, scalar ≠ .symbol name) (hread : payload tag scalar = .ok tree) :
    tree.isSpelled (some tag) = true := by
  unfold payload at hread
  split at hread
  · next htag =>
    split at hread
    · obtain rfl := Except.ok.inj hread
      simp [isSpelled, Scalar.fits, htag]
    · cases hread
  · next htag =>
    split at hread
    · split at hread
      · obtain rfl := Except.ok.inj hread
        rfl
      · cases hread
    · split at hread
      · obtain rfl := Except.ok.inj hread
        rfl
      · cases hread
    · next hint hfloat =>
      obtain rfl := Except.ok.inj hread
      cases scalar with
      | symbol name => exact absurd rfl (hsymbol name)
      | text s =>
        have hint : ¬ _ = "int" := fun heq ↦ hint s heq rfl
        have hfloat : ¬ _ = "float" := fun heq ↦ hfloat s heq rfl
        simp [isSpelled, Scalar.fits, htag, hint, hfloat]
      | _ => simp [isSpelled, Scalar.fits, htag]

theorem isSpelled_of_scalarBelow {parent : Option String} {scalar : Scalar} {tree : Tree}
    (hsymbol : ∀ name, scalar ≠ .symbol name) (hread : scalarBelow parent scalar = .ok tree) :
    tree.isSpelled parent = true := by
  cases parent with
  | some tag => exact isSpelled_of_payload hsymbol hread
  | none =>
    obtain rfl := Except.ok.inj hread
    cases scalar with
    | symbol name => exact absurd rfl (hsymbol name)
    | _ => rfl

theorem areSpelled_of_characters {tag : String} {cs : List Char} {children : List Tree}
    (hread : characters tag cs = .ok children) : areSpelled tag children = true := by
  induction cs generalizing children with
  | nil =>
    obtain rfl := Except.ok.inj hread
    rfl
  | cons c rest ih =>
    obtain ⟨first, hfirst, hrest⟩ := exists_of_bind_eq_ok hread
    obtain ⟨others, hothers, hall⟩ := exists_of_bind_eq_ok hrest
    obtain rfl := Except.ok.inj hall
    rw [areSpelled, isSpelled_of_payload (by simp) hfirst, ih hothers]
    rfl

mutual

/-- What raw data without built trees spells has leaves that fit. The cases are those of `read`. -/
theorem isSpelled_of_read {parent : Option String} {raw : Raw} {tree : Tree}
    (hplain : raw.isPlain = true) (hread : read parent raw = .ok tree) :
    tree.isSpelled parent = true := by
  cases raw with
  | null | bool b | int i | float x | text s => exact isSpelled_of_scalarBelow (by simp) hread
  | built tree => cases hplain
  | list items =>
    cases items with
    | nil => cases hread
    | cons head rest =>
      have hrest : Raw.arePlain rest = true := (Bool.and_eq_true_iff.mp hplain).2
      cases head with
      | bool b | text tag =>
        obtain ⟨children, hchildren, rfl⟩ := exists_of_map_eq_ok hread
        exact areSpelled_of_childrenOfItems hrest hchildren
      | _ => cases hread
  | map entries =>
    have hentries : Raw.entriesArePlain entries = true := hplain
    unfold read at hread
    split at hread
    · next tag htag =>
      obtain ⟨children, hchildren, rfl⟩ := exists_of_map_eq_ok hread
      split at hchildren
      · next found hfound =>
        exact areSpelled_of_childrenUnder hentries (hfound.trans (congrArg some hchildren))
      · split at hchildren
        · next found hfound =>
          obtain ⟨child, rfl, rfl⟩ := exists_of_map_eq_ok hchildren
          simp [isSpelled, areSpelled, isSpelled_of_childUnder hentries hfound]
        · split at hchildren
          · next found hfound =>
            obtain ⟨child, rfl, rfl⟩ := exists_of_map_eq_ok hchildren
            simp [isSpelled, areSpelled, isSpelled_of_childUnder hentries hfound]
          · obtain rfl := Except.ok.inj hchildren
            rfl
    · cases hread

theorem areSpelled_of_childrenOfItems {tag : String} {items : List Raw} {children : List Tree}
    (hplain : Raw.arePlain items = true) (hread : childrenOfItems tag items = .ok children) :
    areSpelled tag children = true := by
  cases items with
  | nil =>
    obtain rfl := Except.ok.inj hread
    rfl
  | cons item rest =>
    obtain ⟨hitem, hitems⟩ := Bool.and_eq_true_iff.mp hplain
    obtain ⟨first, hfirst, hrest⟩ := exists_of_bind_eq_ok hread
    obtain ⟨others, hothers, hall⟩ := exists_of_bind_eq_ok hrest
    obtain rfl := Except.ok.inj hall
    rw [areSpelled, isSpelled_of_read hitem hfirst, areSpelled_of_childrenOfItems hitems hothers]
    rfl

theorem areSpelled_of_childrenOfKeys {tag : String} {entries : List (Raw × Raw)}
    {children : List Tree} (hplain : Raw.entriesArePlain entries = true)
    (hread : childrenOfKeys tag entries = .ok children) : areSpelled tag children = true := by
  cases entries with
  | nil =>
    obtain rfl := Except.ok.inj hread
    rfl
  | cons entry rest =>
    obtain ⟨key, value⟩ := entry
    obtain ⟨hentry, hentries⟩ := Bool.and_eq_true_iff.mp hplain
    obtain ⟨hkey, -⟩ := Bool.and_eq_true_iff.mp hentry
    obtain ⟨first, hfirst, hrest⟩ := exists_of_bind_eq_ok hread
    obtain ⟨others, hothers, hall⟩ := exists_of_bind_eq_ok hrest
    obtain rfl := Except.ok.inj hall
    rw [areSpelled, isSpelled_of_read hkey hfirst, areSpelled_of_childrenOfKeys hentries hothers]
    rfl

theorem areSpelled_of_childrenOf {tag : String} {raw : Raw} {children : List Tree}
    (hplain : raw.isPlain = true) (hread : childrenOf tag raw = .ok children) :
    areSpelled tag children = true := by
  cases raw with
  | null =>
    obtain rfl := Except.ok.inj hread
    rfl
  | bool b | int i | float x =>
    unfold childrenOf at hread
    split at hread <;> cases hread
    rfl
  | text s => exact areSpelled_of_characters hread
  | list items => exact areSpelled_of_childrenOfItems hplain hread
  | map entries => exact areSpelled_of_childrenOfKeys hplain hread
  | built tree => cases hplain

theorem areSpelled_of_childrenUnder {tag name : String} {entries : List (Raw × Raw)}
    {children : List Tree} (hplain : Raw.entriesArePlain entries = true)
    (hread : childrenUnder tag name entries = some (.ok children)) :
    areSpelled tag children = true := by
  cases entries with
  | nil => cases hread
  | cons entry rest =>
    obtain ⟨key, value⟩ := entry
    obtain ⟨hentry, hentries⟩ := Bool.and_eq_true_iff.mp hplain
    obtain ⟨-, hvalue⟩ := Bool.and_eq_true_iff.mp hentry
    unfold childrenUnder at hread
    split at hread
    · split at hread
      · exact areSpelled_of_childrenOf hvalue (Option.some.inj hread)
      · exact areSpelled_of_childrenUnder hentries hread
    · exact areSpelled_of_childrenUnder hentries hread

theorem isSpelled_of_childUnder {tag name : String} {entries : List (Raw × Raw)} {child : Tree}
    (hplain : Raw.entriesArePlain entries = true)
    (hread : childUnder tag name entries = some (.ok child)) :
    child.isSpelled (some tag) = true := by
  cases entries with
  | nil => cases hread
  | cons entry rest =>
    obtain ⟨key, value⟩ := entry
    obtain ⟨hentry, hentries⟩ := Bool.and_eq_true_iff.mp hplain
    obtain ⟨-, hvalue⟩ := Bool.and_eq_true_iff.mp hentry
    unfold childUnder at hread
    split at hread
    · split at hread
      · exact isSpelled_of_read hvalue (Option.some.inj hread)
      · exact isSpelled_of_childUnder hentries hread
    · exact isSpelled_of_childUnder hentries hread

end

/-! ### What fits is read back -/

/-- A leaf that fits is read back from its scalar. -/
theorem read_scalarToRaw {parent : Option String} {scalar : Scalar}
    (hfits : scalar.fits parent = true) : read parent (scalarToRaw scalar) = .ok (leaf scalar) := by
  have hbelow {tag : String} (htag : tag ≠ "sym") {other : Scalar}
      (htext : ∀ s, other.text? = some s → tag ≠ "int" ∧ tag ≠ "float") :
      payload tag other = .ok (leaf other) := by
    unfold payload
    rw [if_neg htag]
    split
    · next hfound => exact absurd rfl (htext _ hfound).1
    · next hfound => exact absurd rfl (htext _ hfound).2
    · rfl
  cases parent with
  | none => cases scalar <;> first | rfl | cases hfits
  | some tag =>
    cases scalar with
    | symbol name =>
      obtain rfl : tag = "sym" := by simpa [Scalar.fits] using hfits
      rfl
    | text s =>
      obtain ⟨⟨hsymbol, hint⟩, hfloat⟩ : (tag ≠ "sym" ∧ tag ≠ "int") ∧ tag ≠ "float" := by
        simpa [Scalar.fits] using hfits
      exact hbelow hsymbol fun _ _ ↦ ⟨hint, hfloat⟩
    | _ =>
      have hsymbol : tag ≠ "sym" := by simpa [Scalar.fits] using hfits
      exact hbelow hsymbol nofun

mutual

/-- A tree whose leaves fit is read back from its list spelling. -/
theorem read_toRaw {parent : Option String} {tree : Tree}
    (hspelled : tree.isSpelled parent = true) : read parent tree.toRaw = .ok tree := by
  cases tree with
  | leaf scalar => exact read_scalarToRaw hspelled
  | node tag children =>
    have hchildren := childrenOfItems_childrenToRaw hspelled
    unfold toRaw read
    simp only [hchildren, Except.map]

theorem childrenOfItems_childrenToRaw {tag : String} {children : List Tree}
    (hspelled : areSpelled tag children = true) :
    childrenOfItems tag (childrenToRaw children) = .ok children := by
  cases children with
  | nil => rfl
  | cons child rest =>
    obtain ⟨hchild, hrest⟩ := Bool.and_eq_true_iff.mp hspelled
    unfold childrenToRaw childrenOfItems
    rw [read_toRaw hchild, childrenOfItems_childrenToRaw hrest]
    rfl

end

end Tree

end Treewalk
