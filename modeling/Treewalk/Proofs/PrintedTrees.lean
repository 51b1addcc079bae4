import Treewalk.Proofs.JsonNumbers
import Treewalk.Proofs.NumberEquality

/-!
Trees read off their printed form. A printed leaf is either quoted or in one piece, a blank or a closing
bracket after it shows where it ends, and what it was can be read back (`Scalar.ofPrinted?_print`). So
there is one way only to take the printed form of children apart (`Tree.printChildren_cancel`), provided
that no tag and no name holds a blank or a closing bracket (`Tree.isClear`). Quoted text may hold
anything. Names are printed alike whether they are texts or symbols, and are not told apart
(`Tree.textual`).
-/

set_option autoImplicit false
set_option relaxedAutoImplicit false

namespace Treewalk

/-! ### Pieces -/

namespace Printed

/-- Whether a character ends a piece. -/
def isEnd (c : Char) : Bool := c == ' ' || c == ')'

/-- Whether characters are in one piece. -/
def isPiece (cs : List Char) : Bool := cs.all fun c ↦ !isEnd c

/-- What may follow a piece: nothing, or something that begins with its end. -/
def Follows (rest : List Char) : Prop := ∀ c ∈ rest.head?, isEnd c = true

theorem isPiece_cons {c : Char} {cs : List Char} :
    isPiece (c :: cs) = true ↔ isEnd c = false ∧ isPiece cs = true := by
  simp [isPiece]

theorem isPiece_append {cs others : List Char} :
    isPiece (cs ++ others) = true ↔ isPiece cs = true ∧ isPiece others = true := by
  simp [isPiece]

/-- A piece ends at the first character that ends one. -/
theorem piece_cancel {piece other rest rest' : List Char} (hpiece : isPiece piece = true)
    (hother : isPiece other = true) (hrest : Follows rest) (hrest' : Follows rest')
    (hsame : piece ++ rest = other ++ rest') : piece = other ∧ rest = rest' := by
  induction piece generalizing other with
  | nil =>
    cases other with
    | nil => exact ⟨rfl, hsame⟩
    | cons c others =>
      rw [List.nil_append] at hsame
      rw [hsame] at hrest
      exact absurd (hrest c rfl) (by simp [(isPiece_cons.mp hother).1])
  | cons c piece ih =>
    obtain ⟨hc, hpiece⟩ := isPiece_cons.mp hpiece
    cases other with
    | nil =>
      rw [List.nil_append] at hsame
      rw [← hsame] at hrest'
      exact absurd (hrest' c rfl) (by simp [hc])
    | cons d others =>
      rw [List.cons_append, List.cons_append, List.cons.injEq] at hsame
      obtain ⟨rfl, hrests⟩ := ih hpiece (isPiece_cons.mp hother).2 hsame.2
      exact ⟨by rw [hsame.1], hrests⟩

end Printed

open Printed

/-! ### Quoted text -/

namespace Text

/-- Reads quoted text after its opening quotation mark, up to the closing one. -/
def unquoted? : List Char → Option (List Char × List Char)
  | [] => none
  | c :: rest =>
    if c = doubleQuote then some ([], rest)
    else if c = backslash then
      match rest with
      | [] => none
      | d :: more =>
        (unquoted? more).map fun found ↦ ((if d = 'n' then lineFeed else d) :: found.1, found.2)
    else (unquoted? rest).map fun found ↦ (c :: found.1, found.2)

theorem unquoted?_inspectedChar (c : Char) (rest : List Char) :
    unquoted? (inspectedChar c ++ rest) =
      (unquoted? rest).map fun found ↦ (c :: found.1, found.2) := by
  unfold inspectedChar
  split_ifs with hbackslash hquote hfeed
  · subst hbackslash
    rfl
  · subst hquote
    rfl
  · subst hfeed
    rfl
  · rw [List.singleton_append, unquoted?.eq_def]
    simp only [hquote, hbackslash, if_false]

/-- Quoted text is read back. -/
theorem unquoted?_flatMap (cs rest : List Char) :
    unquoted? (cs.flatMap inspectedChar ++ doubleQuote :: rest) = some (cs, rest) := by
  induction cs with
  | nil =>
    rw [List.flatMap_nil, List.nil_append, unquoted?.eq_def]
    exact if_pos rfl
  | cons c cs ih =>
    rw [List.flatMap_cons, List.append_assoc, unquoted?_inspectedChar, ih]
    rfl

theorem toList_inspected (s : String) (rest : List Char) :
    (inspected s).toList ++ rest =
      doubleQuote :: (s.toList.flatMap inspectedChar ++ doubleQuote :: rest) := by
  simp [inspected]

/-- So it ends at one place only, whatever it holds. -/
theorem inspected_cancel {s t : String} {rest rest' : List Char}
    (hsame : (inspected s).toList ++ rest = (inspected t).toList ++ rest') : s = t ∧ rest = rest' := by
  rw [toList_inspected, toList_inspected, List.cons.injEq] at hsame
  have hread := congrArg unquoted? hsame.2
  rw [unquoted?_flatMap, unquoted?_flatMap, Option.some.injEq, Prod.mk.injEq] at hread
  exact ⟨String.toList_inj.mp hread.1, hread.2⟩

end Text

/-! ### Numbers -/

namespace Decimal

/-- Whether a character stands in the text of a finite number. -/
def isMark (c : Char) : Bool := Text.isAsciiDigit c || ['-', '+', '.', 'e'].contains c

/-- Whether a text is made of such characters only. -/
def isMarks (s : String) : Bool := s.toList.all isMark

theorem isMarks_append {s t : String} (hs : isMarks s = true) (ht : isMarks t = true) :
    isMarks (s ++ t) = true := by
  rw [isMarks, String.toList_append, List.all_append, Bool.and_eq_true]
  exact ⟨hs, ht⟩

theorem isMarks_ofList {cs : List Char} (hcs : ∀ c ∈ cs, isMark c = true) :
    isMarks (String.ofList cs) = true := by
  rw [isMarks, String.toList_ofList, List.all_eq_true]
  exact hcs

theorem isMark_of_isAsciiDigit {c : Char} (hc : Text.isAsciiDigit c = true) : isMark c = true := by
  rw [isMark, hc, Bool.true_or]

theorem isMarks_exponentText (least : ℕ) (exponent : ℤ) :
    isMarks (exponentText least exponent) = true := by
  have hsign : isMarks (if exponent < 0 then "-" else "+") = true := by
    split <;> decide
  exact isMarks_append hsign (isMarks_ofList fun c hc ↦
    isMark_of_isAsciiDigit (Json.isAsciiDigit_of_mem_padded _ _ c hc))

/-- A decimal is written with digits, signs, a point and an exponent, under every layout. -/
theorem isMarks_write (layout : Layout) (decimal : Decimal) :
    isMarks (decimal.write layout) = true := by
  have hdigits : ∀ c ∈ digitChars decimal.digits, isMark c = true := fun c hc ↦
    isMark_of_isAsciiDigit (Json.isAsciiDigit_of_mem_digitChars hc)
  have hpadded (count : ℕ) : ∀ c ∈ digitChars decimal.digits ++ List.replicate count '0',
      isMark c = true := fun c hc ↦ (List.mem_append.mp hc).elim (hdigits c) fun hzero ↦
    isMark_of_isAsciiDigit (Json.isAsciiDigit_of_mem_zeros hzero)
  unfold write
  generalize digitChars decimal.digits = digits at hdigits hpadded
  dsimp only
  split
  · refine isMarks_append (isMarks_append ?_ (by decide)) (isMarks_exponentText _ _)
    cases digits with
    | nil => exact (by decide : isMarks "0" = true)
    | cons first rest =>
      obtain ⟨hfirst, hrest⟩ := List.forall_mem_cons.mp hdigits
      dsimp only
      split
      · refine isMarks_append (isMarks_ofList (List.forall_mem_singleton.mpr hfirst)) ?_
        split <;> decide
      · exact isMarks_ofList (List.forall_mem_cons.mpr ⟨hfirst, List.forall_mem_cons.mpr
          ⟨by decide, hrest⟩⟩)
  · split
    · refine isMarks_append (by decide) (isMarks_ofList fun c hc ↦ ?_)
      exact (List.mem_append.mp hc).elim
        (fun hzero ↦ isMark_of_isAsciiDigit (Json.isAsciiDigit_of_mem_zeros hzero)) (hdigits c)
    · refine isMarks_append (isMarks_append
        (isMarks_ofList fun c hc ↦ hpadded _ c (List.mem_of_mem_take hc)) (by decide)) ?_
      split
      · decide
      · exact isMarks_ofList fun c hc ↦ hpadded _ c (List.mem_of_mem_drop hc)

end Decimal

theorem isMarks_integerText (i : Int) : Decimal.isMarks (integerText i) = true := by
  have hdigits : Decimal.isMarks (String.ofList (Decimal.digitChars i.natAbs)) = true :=
    Decimal.isMarks_ofList fun c hc ↦
      Decimal.isMark_of_isAsciiDigit (Json.isAsciiDigit_of_mem_digitChars hc)
  unfold integerText
  split
  · exact Decimal.isMarks_append (by decide) hdigits
  · exact hdigits

theorem isMarks_plain {x : Binary64} (hfinite : x.isFinite = true) :
    Decimal.isMarks x.plain = true := by
  have hmagnitude : Decimal.isMarks
      (if x.isZero then "0.0" else (Decimal.shortest x).write plainLayout) = true := by
    split
    · decide
    · exact Decimal.isMarks_write _ _
  simp only [Binary64.plain, Binary64.text, Binary64.plain_of_finite hfinite, Bool.false_eq_true,
    if_false]
  split
  · exact Decimal.isMarks_append (by decide) hmagnitude
  · exact hmagnitude

theorem Printed.isPiece_of_isMarks {s : String} (hs : Decimal.isMarks s = true) :
    isPiece s.toList = true := by
  refine List.all_eq_true.mpr fun c hc ↦ ?_
  have hmark := List.all_eq_true.mp hs c hc
  rw [Bool.not_eq_true', isEnd, Bool.or_eq_false_iff, beq_eq_false_iff_ne, beq_eq_false_iff_ne]
  exact ⟨fun hblank ↦ absurd hmark (by rw [hblank]; decide),
    fun hclosing ↦ absurd hmark (by rw [hclosing]; decide)⟩

/-! ### Leaves -/

namespace Scalar

/-- Whether a scalar is printed quoted below a tag. -/
def isQuoted (tag : String) : Scalar → Bool
  | .text _ => tag = "str" || tag = "xstr"
  | _ => false

/-- Whether the printed form of a scalar below a tag shows what the scalar is. -/
def isClear (tag : String) : Scalar → Bool
  | .float x => !x.isNaN
  | .text s => isQuoted tag (.text s) || isPiece s.toList
  | .symbol s => isPiece s.toList
  | _ => true

/-- A scalar with text for a symbol. -/
def textual : Scalar → Scalar
  | .symbol s => .text s
  | other => other

/-- The words of the printed form. -/
def words : List (List Char × Scalar) :=
  [("nil".toList, .null), ("true".toList, .bool true), ("false".toList, .bool false),
    ("inf".toList, .float (Binary64.infinity false)), ("-inf".toList, .float (Binary64.infinity true))]

/-- Reads a name or a word. -/
def ofName? : List Char → Option Scalar
  | ':' :: name => some (.text (String.ofList name))
  | cs => words.lookup cs

/-- Reads a printed form that is not quoted. -/
def ofPrinted? (cs : List Char) : Option Scalar :=
  match Json.number? cs with
  | some (.int i, []) => some (.int i)
  | some (.float x, []) => some (.float x)
  | _ => ofName? cs

theorem ofPrinted?_name (name : String) :
    ofPrinted? (":" ++ name).toList = some (.text name) := by
  rw [String.toList_append]
  exact congrArg (fun s ↦ some (Scalar.text s)) name.ofList_toList

theorem ofPrinted?_plain {x : Binary64} (hx : x.isNaN = false) :
    ofPrinted? x.plain.toList = some (.float x) := by
  by_cases hfinite : x.isFinite = true
  · have hread : Json.number? x.plain.toList = some (.float x, []) := by
      rw [← Json.number?_text hfinite]
      simp only [Binary64.plain, Binary64.text, Binary64.plain_of_finite hfinite,
        Bool.false_eq_true, if_false]
      rfl
    rw [ofPrinted?, hread]
  · have hinfinite := Binary64.infinite_of_not_finite hx hfinite
    have hread (sign : Bool) (hsign : x.negative = sign) : x = Binary64.infinity sign :=
      Binary64.eq_of_infinite hinfinite (by cases sign <;> decide) (by cases sign <;> rw [hsign] <;> decide)
    cases hsign : x.negative with
    | true => rw [hread true hsign]; decide
    | false => rw [hread false hsign]; decide

/-- What is not quoted can be read back. -/
theorem ofPrinted?_print {tag : String} {scalar : Scalar} (hclear : scalar.isClear tag = true)
    (hunquoted : scalar.isQuoted tag = false) :
    ofPrinted? (scalar.print tag).toList = some scalar.textual := by
  cases scalar with
  | null => rw [print]; decide
  | bool value => cases value <;> (rw [print]; decide)
  | int value => rw [print, ofPrinted?, Json.number?_integerText]; rfl
  | float x => exact ofPrinted?_plain (by simpa [isClear] using hclear)
  | text s =>
    rw [print, if_neg (by simpa [isQuoted] using hunquoted)]
    exact ofPrinted?_name s
  | symbol s => exact ofPrinted?_name s

/-- What is not quoted is in one piece. -/
theorem isPiece_print {tag : String} {scalar : Scalar} (hclear : scalar.isClear tag = true)
    (hunquoted : scalar.isQuoted tag = false) : isPiece (scalar.print tag).toList = true := by
  have hname {s : String} (hs : isPiece s.toList = true) : isPiece (":" ++ s).toList = true := by
    rw [String.toList_append]
    exact isPiece_append.mpr ⟨by decide, hs⟩
  cases scalar with
  | null => rw [print]; decide
  | bool value => cases value <;> (rw [print]; decide)
  | int value => exact isPiece_of_isMarks (isMarks_integerText value)
  | float x =>
    by_cases hfinite : x.isFinite = true
    · exact isPiece_of_isMarks (isMarks_plain hfinite)
    · have hx : x.isNaN = false := by simpa [isClear] using hclear
      have hinfinite := Binary64.infinite_of_not_finite hx hfinite
      simp only [print, Binary64.plain, Binary64.text, hx, hinfinite, Bool.false_eq_true, if_false,
        if_true]
      split <;> decide
  | text s =>
    rw [print, if_neg (by simpa [isQuoted] using hunquoted)]
    exact hname (by simpa [isClear, hunquoted] using hclear)
  | symbol s => exact hname hclear

/-- The first character shows that a leaf is not quoted, and not a node. -/
theorem exists_head_print {tag : String} {scalar : Scalar} (hclear : scalar.isClear tag = true)
    (hunquoted : scalar.isQuoted tag = false) :
    ∃ c cs, (scalar.print tag).toList = c :: cs ∧ c ≠ Text.doubleQuote ∧ c ≠ '(' := by
  have hread := ofPrinted?_print hclear hunquoted
  generalize (scalar.print tag).toList = printed at hread
  cases printed with
  | nil => cases hread
  | cons c cs =>
    refine ⟨c, cs, rfl, ?_, ?_⟩
    · rintro rfl
      cases hread
    · rintro rfl
      cases hread

theorem exists_text_of_isQuoted {tag : String} {scalar : Scalar}
    (hquoted : scalar.isQuoted tag = true) :
    ∃ s, scalar = .text s ∧ scalar.print tag = Text.inspected s := by
  cases scalar with
  | text s => exact ⟨s, rfl, if_pos hquoted⟩
  | _ => cases hquoted

/-- A leaf is printed in one way, and where it ends can be seen. -/
theorem print_cancel {tag : String} {first second : Scalar} (hfirst : first.isClear tag = true)
    (hsecond : second.isClear tag = true) {rest rest' : List Char} (hrest : Follows rest)
    (hrest' : Follows rest')
    (hsame : (first.print tag).toList ++ rest = (second.print tag).toList ++ rest') :
    first.textual = second.textual ∧ rest = rest' := by
  cases hquoted : first.isQuoted tag with
  | true =>
    obtain ⟨s, rfl, hs⟩ := exists_text_of_isQuoted hquoted
    rw [hs] at hsame
    cases hquoted' : second.isQuoted tag with
    | true =>
      obtain ⟨t, rfl, ht⟩ := exists_text_of_isQuoted hquoted'
      rw [ht] at hsame
      obtain ⟨rfl, hrests⟩ := Text.inspected_cancel hsame
      exact ⟨rfl, hrests⟩
    | false =>
      obtain ⟨c, cs, hprinted, hc, -⟩ := exists_head_print hsecond hquoted'
      rw [hprinted, Text.toList_inspected] at hsame
      exact absurd (List.cons.inj hsame).1.symm hc
  | false =>
    cases hquoted' : second.isQuoted tag with
    | true =>
      obtain ⟨t, rfl, ht⟩ := exists_text_of_isQuoted hquoted'
      obtain ⟨c, cs, hprinted, hc, -⟩ := exists_head_print hfirst hquoted
      rw [hprinted, ht, Text.toList_inspected] at hsame
      exact absurd (List.cons.inj hsame).1 hc
    | false =>
      obtain ⟨hprinted, hrests⟩ := piece_cancel (isPiece_print hfirst hquoted)
        (isPiece_print hsecond hquoted') hrest hrest' hsame
      refine ⟨Option.some.inj ?_, hrests⟩
      rw [← ofPrinted?_print hfirst hquoted, hprinted, ofPrinted?_print hsecond hquoted']

/-- No leaf looks like a node. -/
theorem head_print_ne {tag : String} {scalar : Scalar} (hclear : scalar.isClear tag = true)
    (rest more : List Char) : (scalar.print tag).toList ++ rest ≠ '(' :: more := by
  intro hsame
  cases hquoted : scalar.isQuoted tag with
  | true =>
    obtain ⟨s, rfl, hs⟩ := exists_text_of_isQuoted hquoted
    rw [hs, Text.toList_inspected] at hsame
    exact absurd (List.cons.inj hsame).1 (by decide)
  | false =>
    obtain ⟨c, cs, hprinted, -, hc⟩ := exists_head_print hclear hquoted
    rw [hprinted] at hsame
    exact hc (List.cons.inj hsame).1

end Scalar

/-! ### Trees -/

namespace Tree

mutual

/-- Whether the printed form of a tree below a tag shows what the tree is: no tag and no name holds
a blank or a closing bracket, and every number is one. -/
def isClear (tag : String) : Tree → Bool
  | leaf scalar => scalar.isClear tag
  | node inner children => isPiece inner.toList && areClear inner children

/-- Whether the printed forms of some children show what they are. -/
def areClear (tag : String) : List Tree → Bool
  | [] => true
  | child :: rest => isClear tag child && areClear tag rest

end

mutual

/-- A tree with texts for its symbols. -/
def textual : Tree → Tree
  | leaf scalar => leaf scalar.textual
  | node tag children => node tag (allTextual children)

/-- Some children with texts for their symbols. -/
def allTextual : List Tree → List Tree
  | [] => []
  | child :: rest => textual child :: allTextual rest

end

mutual

/-- Whether no leaf of a tree is a symbol. -/
def isSymbolFree : Tree → Bool
  | leaf scalar => scalar.textual = scalar
  | node _ children => areSymbolFree children

/-- Whether no leaf of some children is a symbol. -/
def areSymbolFree : List Tree → Bool
  | [] => true
  | child :: rest => isSymbolFree child && areSymbolFree rest

end

mutual

theorem textual_of_isSymbolFree {tree : Tree} (hfree : tree.isSymbolFree = true) :
    tree.textual = tree := by
  cases tree with
  | leaf scalar => exact congrArg leaf (of_decide_eq_true hfree)
  | node tag children => exact congrArg (node tag) (allTextual_of_areSymbolFree hfree)

theorem allTextual_of_areSymbolFree {children : List Tree} (hfree : areSymbolFree children = true) :
    allTextual children = children := by
  cases children with
  | nil => rfl
  | cons child rest =>
    obtain ⟨hchild, hrest⟩ := (Bool.and_eq_true _ _).mp hfree
    exact congrArg₂ List.cons (textual_of_isSymbolFree hchild) (allTextual_of_areSymbolFree hrest)

end

theorem toList_printChild_node (tag inner : String) (children : List Tree) (rest : List Char) :
    (printChild tag (node inner children)).toList ++ rest =
      '(' :: (inner.toList ++ ((printChildren inner children).toList ++ ')' :: rest)) := by
  simp [printChild]

theorem toList_printChildren_cons (tag : String) (child : Tree) (siblings : List Tree)
    (rest : List Char) :
    (printChildren tag (child :: siblings)).toList ++ ')' :: rest =
      ' ' :: ((printChild tag child).toList ++ ((printChildren tag siblings).toList ++ ')' :: rest)) := by
  simp [printChildren]

theorem follows_printChildren (tag : String) (children : List Tree) (rest : List Char) :
    Follows ((printChildren tag children).toList ++ ')' :: rest) := by
  cases children with
  | nil => rintro c ⟨⟩; decide
  | cons child siblings =>
    rw [toList_printChildren_cons]
    rintro c ⟨⟩
    decide

mutual

/-- A child is printed in one way, and where it ends can be seen. -/
theorem printChild_cancel {tag : String} {first second : Tree} (hfirst : first.isClear tag = true)
    (hsecond : second.isClear tag = true) {rest rest' : List Char} (hrest : Follows rest)
    (hrest' : Follows rest')
    (hsame : (first.printChild tag).toList ++ rest = (second.printChild tag).toList ++ rest') :
    first.textual = second.textual ∧ rest = rest' := by
  cases first with
  | leaf scalar =>
    cases second with
    | leaf other =>
      obtain ⟨hscalar, hrests⟩ := Scalar.print_cancel hfirst hsecond hrest hrest' hsame
      exact ⟨congrArg leaf hscalar, hrests⟩
    | node inner children =>
      rw [toList_printChild_node] at hsame
      exact absurd hsame (Scalar.head_print_ne hfirst _ _)
  | node inner children =>
    cases second with
    | leaf other =>
      rw [toList_printChild_node] at hsame
      exact absurd hsame.symm (Scalar.head_print_ne hsecond _ _)
    | node inner' children' =>
      obtain ⟨hinner, hchildren⟩ := (Bool.and_eq_true _ _).mp hfirst
      obtain ⟨hinner', hchildren'⟩ := (Bool.and_eq_true _ _).mp hsecond
      rw [toList_printChild_node, toList_printChild_node] at hsame
      obtain ⟨htags, hlists⟩ := piece_cancel hinner hinner' (follows_printChildren _ _ _)
        (follows_printChildren _ _ _) (List.cons.inj hsame).2
      obtain rfl := String.toList_inj.mp htags
      obtain ⟨hall, hrests⟩ := printChildren_cancel hchildren hchildren' hlists
      exact ⟨congrArg (node inner) hall, hrests⟩

/-- Children up to the closing bracket are printed in one way. -/
theorem printChildren_cancel {tag : String} {first second : List Tree}
    (hfirst : areClear tag first = true) (hsecond : areClear tag second = true)
    {rest rest' : List Char}
    (hsame : (printChildren tag first).toList ++ ')' :: rest =
      (printChildren tag second).toList ++ ')' :: rest') :
    allTextual first = allTextual second ∧ rest = rest' := by
  cases first with
  | nil =>
    cases second with
    | nil => exact ⟨rfl, (List.cons.inj hsame).2⟩
    | cons other others =>
      rw [toList_printChildren_cons] at hsame
      exact absurd (List.cons.inj hsame).1 (by decide)
  | cons child siblings =>
    cases second with
    | nil =>
      rw [toList_printChildren_cons] at hsame
      exact absurd (List.cons.inj hsame).1 (by decide)
    | cons other others =>
      obtain ⟨hchild, hsiblings⟩ := (Bool.and_eq_true _ _).mp hfirst
      obtain ⟨hother, hothers⟩ := (Bool.and_eq_true _ _).mp hsecond
      rw [toList_printChildren_cons, toList_printChildren_cons] at hsame
      obtain ⟨hhead, htails⟩ := printChild_cancel hchild hother (follows_printChildren _ _ _)
        (follows_printChildren _ _ _) (List.cons.inj hsame).2
      obtain ⟨hall, hrests⟩ := printChildren_cancel hsiblings hothers htails
      exact ⟨congrArg₂ List.cons hhead hall, hrests⟩

end

/-- The printed form tells trees apart, but for symbols and texts. -/
theorem textual_eq_of_print_eq {first second : Tree} (hfirst : first.isClear "" = true)
    (hsecond : second.isClear "" = true) (hsame : first.print = second.print) :
    first.textual = second.textual := by
  have hends : Follows [] := nofun
  refine (printChild_cancel hfirst hsecond hends hends ?_).1
  rw [List.append_nil, List.append_nil]
  exact congrArg String.toList hsame

/-- Trees without symbols are told apart by their printed form, whatever the texts of their quoted
leaves hold. -/
theorem print_injective {first second : Tree} (hfirst : first.isClear "" = true)
    (hsecond : second.isClear "" = true) (hsymbols : first.isSymbolFree = true)
    (hsymbols' : second.isSymbolFree = true) (hsame : first.print = second.print) :
    first = second := by
  rw [← textual_of_isSymbolFree hsymbols, ← textual_of_isSymbolFree hsymbols']
  exact textual_eq_of_print_eq hfirst hsecond hsame

/-- A call on a text that holds all that shapes the printed form, with the given name. -/
def crowdedCall (name : Scalar) : Tree :=
  let crowded := [Text.backslash, ' ', ')', Text.doubleQuote, '(', Text.lineFeed, Text.backslash, 'n']
  node "send" [node "str" [leaf (.text (String.ofList crowded))], leaf name,
    node "float" [leaf (.float (Binary64.infinity true))], node "int" [leaf (.int (-3))]]

theorem print_injective_crowdedCall :
    (crowdedCall (.text "center")).isClear "" = true ∧
      (crowdedCall (.symbol "center")).textual.print = (crowdedCall (.text "center")).print ∧
      (crowdedCall (.symbol "center")).textual = crowdedCall (.text "center") :=
  ⟨by decide, by decide,
    print_injective (by decide) (by decide) (by decide) (by decide) (by decide)⟩

end Tree

end Treewalk
