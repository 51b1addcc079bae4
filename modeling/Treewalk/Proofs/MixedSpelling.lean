import Treewalk.Proofs.JsonNumbers
import Treewalk.Proofs.Spelling

/-!
Raw data has many spellings for one tree, and a document may choose between them at each node anew.
`Raw.Spells` lists the choices: a list headed by the tag, or by a truth value; a map with
`children`, or for an only child with `value` or `text`, or for no child with none of these; a tree
that is already built; and for a leaf its scalar, where the name of a symbol is given as text and an
integer under `int` may be given as decimal text, as long as it has no more digits than can be read.
Keys that `read` does not come to hold anything.

Whatever is chosen, what is read is the one tree (`spelling_independent`). The induction is on the
tree, so that the choices at a node and those at its children stay apart.
-/

set_option autoImplicit false
set_option relaxedAutoImplicit false

namespace Treewalk

/-! ### Decimal text of integers -/

namespace Numeral

/-- The digits of an integer, of which there are some but not more than can be read. -/
structure Spellable (digits : List Char) : Prop where
  nonempty : digits ≠ []
  isDigit : ∀ c ∈ digits, Text.isAsciiDigit c = true
  short : digits.length ≤ digitLimit

/-- The decimal texts of an integer that can be read: digits, perhaps with zeros at the front, and a
sign, which only a negative number needs. -/
inductive Writes : List Char → Int → Prop where
  | unsigned {digits : List Char} (hdigits : Spellable digits) :
      Writes digits (Text.ofDigits 10 digits)
  | positive {digits : List Char} (hdigits : Spellable digits) :
      Writes ('+' :: digits) (Text.ofDigits 10 digits)
  | negative {digits : List Char} (hdigits : Spellable digits) :
      Writes ('-' :: digits) (-(Text.ofDigits 10 digits : Int))

theorem digitValue?_of_isAsciiDigit {c : Char} (hc : Text.isAsciiDigit c = true) :
    digitValue? c = some (c.toNat - 48) := by
  have hrange : 48 ≤ c.toNat ∧ c.toNat ≤ 57 := by simpa [Text.isAsciiDigit] using hc
  have hzero : (decide (48 ≤ c.toNat) && decide (c.toNat < 48 + 10)) = true := by
    simp only [Bool.and_eq_true, decide_eq_true_eq]
    omega
  have hfind : (Text.digitZeros.find? fun start ↦ start ≤ c.toNat && c.toNat < start + 10) =
      some 48 := List.find?_cons_of_pos hzero
  unfold digitValue? Text.digitValue?
  rw [hfind]
  rfl

theorem digits?_of_digits {digits : List Char}
    (hdigits : ∀ c ∈ digits, Text.isAsciiDigit c = true) (previous : Bool)
    (hsome : previous = true ∨ digits ≠ []) :
    digits? 10 previous digits = some (digits.map fun c ↦ c.toNat - 48) := by
  induction digits generalizing previous with
  | nil =>
    obtain rfl : previous = true := by simpa using hsome
    rfl
  | cons c rest ih =>
    obtain ⟨hc, hrest⟩ := List.forall_mem_cons.mp hdigits
    have hrange : 48 ≤ c.toNat ∧ c.toNat ≤ 57 := by simpa [Text.isAsciiDigit] using hc
    have hscore : c ≠ '_' := by
      rintro rfl
      exact absurd hrange.2 (by decide)
    have hsmall : c.toNat - 48 < 10 := by omega
    unfold digits?
    rw [if_neg hscore, digitValue?_of_isAsciiDigit hc]
    simp only [hsmall, if_true, ih hrest true (Or.inl rfl), Option.map_some, List.map_cons]

theorem ofDigits_map (digits : List Char) :
    ofDigits 10 (digits.map fun c ↦ c.toNat - 48) = Text.ofDigits 10 digits := by
  unfold ofDigits Text.ofDigits
  rw [List.foldl_map]

theorem body_of_dense {cs : List Char} (hdense : ∀ c ∈ cs, isMargin c = false) : body cs = cs := by
  have hdrop {ds : List Char} (hds : ∀ c ∈ ds, isMargin c = false) :
      ds.dropWhile isMargin = ds := by
    cases ds with
    | nil => rfl
    | cons c rest => rw [List.dropWhile_cons_of_neg (by simp [hds c List.mem_cons_self])]
  unfold body
  rw [hdrop hdense, hdrop fun c hc ↦ hdense c (List.mem_reverse.mp hc), List.reverse_reverse]

theorem isMargin_of_isAsciiDigit {c : Char} (hc : Text.isAsciiDigit c = true) :
    isMargin c = false := by
  have hrange : 48 ≤ c.toNat ∧ c.toNat ≤ 57 := by simpa [Text.isAsciiDigit] using hc
  have hblank : Text.isBlank c = false := by
    simp only [Text.isBlank, Bool.or_eq_false_iff, Bool.and_eq_false_iff, decide_eq_false_iff_not,
      beq_eq_false_iff_ne]
    omega
  rw [isMargin, hblank, Bool.false_and]

theorem isMargin_of_mem_digits {digits : List Char}
    (hdigits : ∀ c ∈ digits, Text.isAsciiDigit c = true) :
    ∀ c ∈ digits, isMargin c = false :=
  fun c hc ↦ isMargin_of_isAsciiDigit (hdigits c hc)

theorem sign_of_digits {digits : List Char} (hdigits : ∀ c ∈ digits, Text.isAsciiDigit c = true) :
    sign digits = (false, digits) := by
  unfold sign
  split
  · exact absurd (hdigits '-' List.mem_cons_self) (by decide)
  · exact absurd (hdigits '+' List.mem_cons_self) (by decide)
  · rfl

/-- Digits are read as far as the limit allows. -/
theorem naturalTo?_of_digits {digits : List Char} (hsome : digits ≠ [])
    (hdigits : ∀ c ∈ digits, Text.isAsciiDigit c = true) :
    naturalTo? 10 digits =
      if digits.length ≤ digitLimit then some (Text.ofDigits 10 digits) else none := by
  have hbase : binaryBases.contains 10 = false := by decide
  unfold naturalTo?
  rw [digits?_of_digits hdigits false (Or.inr hsome)]
  simp only [List.length_map, hbase, Bool.or_false, decide_eq_true_eq, ofDigits_map]

/-- Decimal text that is not too long is read as the integer it writes. -/
theorem int?_of_writes {text : String} {i : Int} (hwrites : Writes text.toList i) :
    int? text = some i := by
  have hmargins : body text.toList = text.toList := by
    refine body_of_dense ?_
    generalize text.toList = cs at hwrites
    cases hwrites with
    | unsigned hdigits => exact isMargin_of_mem_digits hdigits.isDigit
    | positive hdigits | negative hdigits =>
      exact List.forall_mem_cons.mpr ⟨by decide, isMargin_of_mem_digits hdigits.isDigit⟩
  have hnatural {digits : List Char} (hdigits : Spellable digits) :
      naturalTo? 10 digits = some (Text.ofDigits 10 digits) := by
    rw [naturalTo?_of_digits hdigits.nonempty hdigits.isDigit, if_pos hdigits.short]
  unfold int?
  rw [hmargins]
  generalize text.toList = cs at hwrites
  cases hwrites with
  | unsigned hdigits =>
    simp only [sign_of_digits hdigits.isDigit, hnatural hdigits, Option.map_some, signed,
      Bool.false_eq_true, if_false]
  | positive hdigits =>
    simp only [sign, hnatural hdigits, Option.map_some, signed, Bool.false_eq_true, if_false]
  | negative hdigits => simp only [sign, hnatural hdigits, Option.map_some, signed, if_true]

/-- Digits beyond the limit are not read. -/
theorem int?_of_long {digits : List Char} (hdigits : ∀ c ∈ digits, Text.isAsciiDigit c = true)
    (hlong : digitLimit < digits.length) : int? (String.ofList digits) = none := by
  have hsome : digits ≠ [] := List.ne_nil_of_length_pos (Nat.zero_lt_of_lt hlong)
  unfold int?
  rw [String.toList_ofList, body_of_dense (isMargin_of_mem_digits hdigits), sign_of_digits hdigits]
  dsimp only
  rw [naturalTo?_of_digits hsome hdigits, if_neg (Nat.not_le.mpr hlong)]
  rfl

end Numeral

/-! ### The spellings of a tree -/

namespace Raw

/-- Nothing to iterate over: null, or an empty list, map or text. -/
def isVacant : Raw → Bool
  | null => true
  | list items => items.isEmpty
  | map entries => entries.isEmpty
  | text s => s.isEmpty
  | _ => false

mutual

/-- Raw data spells a tree where it stands, below a node with the given tag or on its own. -/
inductive Spells : Option String → Raw → Tree → Prop where
  /-- A tree that is already built. -/
  | built {parent : Option String} (tree : Tree) : Spells parent (built tree) tree
  /-- A scalar on its own; the name of a symbol is given as text. -/
  | scalar {parent : Option String} (scalar : Scalar) :
      Spells parent (Tree.scalarToRaw scalar) (.leaf scalar)
  /-- An integer given as decimal text that is not too long. -/
  | numeral {written : String} {i : Int} (hwrites : Numeral.Writes written.toList i) :
      Spells (some "int") (text written) (.leaf (.int i))
  /-- A list headed by the tag. -/
  | tagged {parent : Option String} {tag : String} {items : List Raw} {children : List Tree}
      (hitems : SpellAll tag items children) :
      Spells parent (list (text tag :: items)) (.node tag children)
  /-- A list headed by a truth value, which stands for the tag of that name. -/
  | truth {parent : Option String} {b : Bool} {tag : String} {items : List Raw}
      {children : List Tree} (htag : tag = if b then "true" else "false")
      (hitems : SpellAll tag items children) :
      Spells parent (list (bool b :: items)) (.node tag children)
  /-- A map with the tag and the children; what else it holds does not count. -/
  | children {parent : Option String} {tag : String} {entries : List (Raw × Raw)}
      {items : List Raw} {children : List Tree} (htag : lookup "tag" entries = some (text tag))
      (hchildren : lookup "children" entries = some (list items))
      (hitems : SpellAll tag items children) :
      Spells parent (map entries) (.node tag children)
  /-- A map with the only child under `value`. -/
  | value {parent : Option String} {tag : String} {entries : List (Raw × Raw)} {raw : Raw}
      {child : Tree} (htag : lookup "tag" entries = some (text tag))
      (hchildren : lookup "children" entries = none)
      (hvalue : lookup "value" entries = some raw) (hchild : Spells (some tag) raw child) :
      Spells parent (map entries) (.node tag [child])
  /-- A map with the only child under `text`. -/
  | text {parent : Option String} {tag : String} {entries : List (Raw × Raw)} {raw : Raw}
      {child : Tree} (htag : lookup "tag" entries = some (text tag))
      (hchildren : lookup "children" entries = none) (hvalue : lookup "value" entries = none)
      (htext : lookup "text" entries = some raw) (hchild : Spells (some tag) raw child) :
      Spells parent (map entries) (.node tag [child])
  /-- A map with the tag of a childless node and none of the keys for children. -/
  | bare {parent : Option String} {tag : String} {entries : List (Raw × Raw)}
      (htag : lookup "tag" entries = some (text tag))
      (hchildren : lookup "children" entries = none) (hvalue : lookup "value" entries = none)
      (htext : lookup "text" entries = none) : Spells parent (map entries) (.node tag [])
  /-- A map with the tag of a childless node and nothing under `children`. -/
  | vacant {parent : Option String} {tag : String} {entries : List (Raw × Raw)} {raw : Raw}
      (htag : lookup "tag" entries = some (text tag))
      (hchildren : lookup "children" entries = some raw) (hvacant : raw.isVacant = true) :
      Spells parent (map entries) (.node tag [])

/-- Raw data spells trees one by one as the children of a node with the given tag. -/
inductive SpellAll : String → List Raw → List Tree → Prop where
  | nil {tag : String} : SpellAll tag [] []
  | cons {tag : String} {raw : Raw} {child : Tree} {items : List Raw} {children : List Tree}
      (hchild : Spells (some tag) raw child) (hitems : SpellAll tag items children) :
      SpellAll tag (raw :: items) (child :: children)

end

end Raw

namespace Tree

/-! ### Keys of maps -/

theorem childrenUnder_eq_lookup (tag name : String) (entries : List (Raw × Raw)) :
    childrenUnder tag name entries = (Raw.lookup name entries).map (childrenOf tag) := by
  induction entries with
  | nil => rfl
  | cons entry rest ih =>
    obtain ⟨key, value⟩ := entry
    cases key with
    | text own =>
      unfold childrenUnder Raw.lookup
      by_cases hown : own = name
      · simp only [hown, if_true, Option.map_some]
      · simp only [hown, if_false, ih]
    | _ => exact ih

theorem childUnder_eq_lookup (tag name : String) (entries : List (Raw × Raw)) :
    childUnder tag name entries = (Raw.lookup name entries).map (read (some tag)) := by
  induction entries with
  | nil => rfl
  | cons entry rest ih =>
    obtain ⟨key, value⟩ := entry
    cases key with
    | text own =>
      unfold childUnder Raw.lookup
      by_cases hown : own = name
      · simp only [hown, if_true, Option.map_some]
      · simp only [hown, if_false, ih]
    | _ => exact ih

theorem childrenOf_of_isVacant {tag : String} {raw : Raw} (hvacant : raw.isVacant = true) :
    childrenOf tag raw = .ok [] := by
  cases raw with
  | null => rfl
  | list items =>
    obtain rfl : items = [] := List.isEmpty_iff.mp hvacant
    rfl
  | map entries =>
    obtain rfl : entries = [] := List.isEmpty_iff.mp hvacant
    rfl
  | text s =>
    obtain rfl : s = "" := String.isEmpty_iff.mp hvacant
    rfl
  | _ => cases hvacant

/-! ### Every spelling is read -/

/-- A leaf that fits is read back when it stands among raw data as it is. -/
theorem read_built_leaf {parent : Option String} {scalar : Scalar}
    (hfits : scalar.fits parent = true) :
    read parent (.built (leaf scalar)) = .ok (leaf scalar) := by
  cases scalar with
  | symbol name =>
    cases parent with
    | none => rfl
    | some tag =>
      obtain rfl : tag = "sym" := by simpa [Scalar.fits] using hfits
      rfl
  | _ => exact read_scalarToRaw hfits

/-- A leaf is read from each of its spellings. -/
theorem read_of_spells_leaf {parent : Option String} {raw : Raw} {scalar : Scalar}
    (hfits : scalar.fits parent = true) (hspells : Raw.Spells parent raw (leaf scalar)) :
    read parent raw = .ok (leaf scalar) := by
  cases hspells with
  | built => exact read_built_leaf hfits
  | scalar => exact read_scalarToRaw hfits
  | numeral hwrites =>
    unfold read scalarBelow payload
    simp only [String.reduceEq, if_false, Scalar.text?, Numeral.int?_of_writes hwrites]

/-- Text that is no numeral is a bad value under `int`. -/
theorem ofRaw_of_no_numeral {text : String} (hnone : Numeral.int? text = none) :
    ofRaw (.list [.text "int", .text text]) = .error (.plain .value) := by
  have hread : read (some "int") (.text text) = .error (.plain .value) := by
    unfold read scalarBelow payload
    simp only [String.reduceEq, if_false, Scalar.text?, hnone]
  have hitems : childrenOfItems "int" [.text text] = .error (.plain .value) := by
    unfold childrenOfItems
    rw [hread]
    rfl
  unfold ofRaw read
  simp only [hitems, Except.map]

mutual

/-- A tree whose leaves fit is read from each of its spellings. -/
theorem read_of_spells {parent : Option String} {raw : Raw} {tree : Tree}
    (hspelled : tree.isSpelled parent = true) (hspells : Raw.Spells parent raw tree) :
    read parent raw = .ok tree := by
  cases tree with
  | leaf scalar => exact read_of_spells_leaf hspelled hspells
  | node tag children =>
    cases hspells with
    | built => rfl
    | tagged hitems =>
      unfold read
      simp only [childrenOfItems_of_spellAll hspelled hitems, Except.map]
    | truth htag hitems =>
      unfold read
      simp only [← htag, childrenOfItems_of_spellAll hspelled hitems, Except.map]
    | children htag hchildren hitems =>
      have hall : childrenOf tag (.list _) = .ok children :=
        childrenOfItems_of_spellAll hspelled hitems
      unfold read
      simp only [htag, childrenUnder_eq_lookup, hchildren, Option.map_some, hall, Except.map]
    | value htag hchildren hvalue hchild =>
      obtain ⟨hfirst, -⟩ := Bool.and_eq_true_iff.mp hspelled
      unfold read
      simp only [htag, childrenUnder_eq_lookup, hchildren, Option.map_none, childUnder_eq_lookup,
        hvalue, Option.map_some, read_of_spells hfirst hchild, Except.map]
    | text htag hchildren hvalue htext hchild =>
      obtain ⟨hfirst, -⟩ := Bool.and_eq_true_iff.mp hspelled
      unfold read
      simp only [htag, childrenUnder_eq_lookup, hchildren, Option.map_none, childUnder_eq_lookup,
        hvalue, htext, Option.map_some, read_of_spells hfirst hchild, Except.map]
    | bare htag hchildren hvalue htext =>
      unfold read
      simp only [htag, childrenUnder_eq_lookup, hchildren, Option.map_none, childUnder_eq_lookup,
        hvalue, htext, Except.map]
    | vacant htag hchildren hvacant =>
      unfold read
      simp only [htag, childrenUnder_eq_lookup, hchildren, Option.map_some,
        childrenOf_of_isVacant hvacant, Except.map]

theorem childrenOfItems_of_spellAll {tag : String} {items : List Raw} {children : List Tree}
    (hspelled : areSpelled tag children = true) (hspells : Raw.SpellAll tag items children) :
    childrenOfItems tag items = .ok children := by
  cases children with
  | nil =>
    cases hspells
    rfl
  | cons child rest =>
    obtain ⟨hfirst, hothers⟩ := Bool.and_eq_true_iff.mp hspelled
    cases hspells with
    | cons hchild hitems =>
      unfold childrenOfItems
      rw [read_of_spells hfirst hchild, childrenOfItems_of_spellAll hothers hitems]
      rfl

end

end Tree

/-- A node that raw data without built trees spells is read from every raw data that spells it,
whatever the spellings of its parts. -/
theorem spelling_independent {origin raw : Raw} {tag : String} {children : List Tree}
    (hplain : origin.isPlain = true) (horigin : Tree.ofRaw origin = .ok (.node tag children))
    (hspells : Raw.Spells none raw (.node tag children)) :
    Tree.ofRaw raw = .ok (.node tag children) :=
  Tree.read_of_spells (Tree.isSpelled_of_read hplain horigin) hspells

/-- A node with a child in each kind of spelling: a map with `value` beside a `text` that does not
count, an integer as decimal text with a sign and zeros, a truth value as a head, a built node and a
map with null under `children`. -/
theorem mixed_node_read_alike :
    let origin := Raw.list [.text "send", .list [.text "int", .int (-42)],
      .list [.text "sym", .text "+"], .list [.text "true"], .list [.text "int", .int 7],
      .list [.text "self"]]
    let raw := Raw.map [(.text "children", .list
        [.map [(.text "text", .text "9"), (.text "tag", .text "int"), (.text "value", .text "-042")],
          .map [(.text "tag", .text "sym"), (.text "text", .text "+")], .list [.bool true],
          .built (.node "int" [.leaf (.int 7)]),
          .map [(.text "children", .null), (.text "tag", .text "self")]]),
      (.text "tag", .text "send"), (.text "value", .null)]
    let children := [Tree.node "int" [.leaf (.int (-42))], .node "sym" [.leaf (.symbol "+")],
      .node "true" [], .node "int" [.leaf (.int 7)], .node "self" []]
    origin.isPlain = true ∧ Tree.ofRaw origin = .ok (.node "send" children) ∧
    Raw.Spells none raw (.node "send" children) ∧ Tree.ofRaw raw = .ok (.node "send" children) := by
  intro origin raw children
  have hplain : origin.isPlain = true := by decide
  have hlisted : Raw.Spells none origin (.node "send" children) :=
    .tagged (.cons (.tagged (.cons (.scalar (.int (-42))) .nil))
      (.cons (.tagged (.cons (.scalar (.symbol "+")) .nil)) (.cons (.tagged .nil)
        (.cons (.tagged (.cons (.scalar (.int 7)) .nil)) (.cons (.tagged .nil) .nil)))))
  have horigin : Tree.ofRaw origin = .ok (.node "send" children) :=
    Tree.read_of_spells (by decide) hlisted
  have hwrites : Numeral.Writes "-042".toList (-42) :=
    @Numeral.Writes.negative ['0', '4', '2'] ⟨by decide, List.all_eq_true.mp rfl, by decide⟩
  have hspells : Raw.Spells none raw (.node "send" children) :=
    .children rfl rfl (.cons (.value rfl rfl rfl (.numeral hwrites))
      (.cons (.text rfl rfl rfl rfl (.scalar (.symbol "+")))
        (.cons (.truth rfl .nil) (.cons (.built _) (.cons (.vacant rfl rfl rfl) .nil)))))
  exact ⟨hplain, horigin, hspells, spelling_independent hplain horigin hspells⟩

/-- Five thousand ones write an integer, but where they stand for it they are a bad value. -/
theorem long_numeral_unread :
    let ones := List.replicate 5000 '1'
    let i : Int := Text.ofDigits 10 ones
    Tree.ofRaw (.list [.text "int", .int i]) = .ok (.node "int" [.leaf (.int i)]) ∧
      Tree.ofRaw (.list [.text "int", .text (String.ofList ones)]) = .error (.plain .value) := by
  intro ones i
  have hdigits : ∀ c ∈ ones, Text.isAsciiDigit c = true := fun c hc ↦ by
    obtain rfl := List.eq_of_mem_replicate hc
    decide
  have hlong : Numeral.digitLimit < ones.length := by
    rw [List.length_replicate]
    decide
  exact ⟨rfl, Tree.ofRaw_of_no_numeral (Numeral.int?_of_long hdigits hlong)⟩

end Treewalk
