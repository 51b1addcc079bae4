import Treewalk.Proofs.Parameters

/-!
The parameters of a block and the label that a block is printed with. A parameter is a pattern of
names, or one that counts as the only one of its block: a name, or parameters one after another
(`BlockParameter`). The label of a block writes their names between bars, in order, with a star before
a rest and brackets around what is nested. Read back as the longest runs of characters that it does
not put there itself, it gives just these names (`BlockParameter.names_label`), provided that each of
them is such a run.
-/

set_option autoImplicit false
set_option relaxedAutoImplicit false

namespace Treewalk

/-! ### Parameters of blocks -/

/-- A parameter of a block: a pattern, the name that is the only parameter, or parameters that are the
only one together. -/
inductive BlockParameter where
  | pattern (parameter : Parameter)
  | sole (name : String)
  | grouped (first : BlockParameter) (others : List BlockParameter)

namespace BlockParameter

mutual

/-- A parameter as a tree. -/
def asTree : BlockParameter → Tree
  | pattern parameter => parameter.asParameter
  | sole name => .node "procarg0" [.leaf (.text name)]
  | grouped first others => .node "procarg0" (asTree first :: asTrees others)

/-- Parameters as trees. -/
def asTrees : List BlockParameter → List Tree
  | [] => []
  | parameter :: others => asTree parameter :: asTrees others

end

mutual

/-- The names in a parameter, in order. -/
def names : BlockParameter → List String
  | pattern parameter => parameter.names
  | sole name => [name]
  | grouped first others => names first ++ allNames others

/-- The names in parameters, in order. -/
def allNames : List BlockParameter → List String
  | [] => []
  | parameter :: others => names parameter ++ allNames others

end

theorem isNode_asTree (parameter : BlockParameter) : parameter.asTree.isNode = true := by
  match parameter with
  | sole _ | grouped _ _ => rw [asTree, Tree.isNode]
  | pattern (.single _) | pattern (.rest none) | pattern (.rest (some _)) | pattern (.nested _) =>
    rw [asTree, Parameter.asParameter, Tree.isNode]

end BlockParameter

/-! ### Reading labels -/

namespace Label

/-- Whether a label puts a character around names. -/
def isSeparator (c : Char) : Bool := ['|', ',', ' ', '(', ')', '*', '>'].contains c

/-- Whether a text is read as one name. -/
def IsName (name : String) : Prop := name.toList ≠ [] ∧ ∀ c ∈ name.toList, isSeparator c = false

/-- The word that the characters read so far, the last one first, amount to. -/
def flush (current : List Char) : List String :=
  if current.isEmpty then [] else [String.ofList current.reverse]

/-- The longest runs of characters without a separator, when some characters of the first are read
already. -/
def words : List Char → List Char → List String
  | current, [] => flush current
  | current, c :: rest =>
    if isSeparator c then flush current ++ words [] rest else words (c :: current) rest

/-- The names that a label shows. -/
def names (label : String) : List String := words [] (label.toList.drop "#<Block".length)

theorem words_append_cons {c : Char} (hc : isSeparator c = true) (current front back : List Char) :
    words current (front ++ c :: back) = words current front ++ words [] back := by
  induction front generalizing current with
  | nil =>
    rw [List.nil_append, words.eq_2, if_pos hc, words]
  | cons first rest ih =>
    rw [List.cons_append, words, words]
    split
    · rw [ih, List.append_assoc]
    · exact ih _

theorem words_cons {c : Char} (hc : isSeparator c = true) (back : List Char) :
    words [] (c :: back) = words [] back := words_append_cons hc [] [] back

theorem words_concat {c : Char} (hc : isSeparator c = true) (front : List Char) :
    words [] (front ++ [c]) = words [] front :=
  (words_append_cons hc [] front []).trans (List.append_nil _)

theorem words_append_name (name : List Char) (hname : ∀ c ∈ name, isSeparator c = false)
    (current : List Char) : words current name = flush (name.reverse ++ current) := by
  induction name generalizing current with
  | nil => rfl
  | cons first rest ih =>
    obtain ⟨hfirst, hrest⟩ := List.forall_mem_cons.mp hname
    rw [words, hfirst, if_neg Bool.false_ne_true, ih hrest, List.reverse_cons, List.append_assoc]
    rfl

theorem words_name {name : String} (hname : IsName name) : words [] name.toList = [name] := by
  rw [words_append_name _ hname.2, List.append_nil, flush, List.isEmpty_reverse, List.reverse_reverse,
    List.isEmpty_eq_false_iff.mpr hname.1, if_neg Bool.false_ne_true, String.ofList_toList]

/-- A list of labels shows the names that the labels show. -/
theorem words_intercalate_cons (label : String) (labels : List String) :
    words [] (", ".intercalate (label :: labels)).toList =
      words [] label.toList ++ words [] (", ".intercalate labels).toList := by
  rw [String.toList_intercalate, String.toList_intercalate, List.map_cons]
  cases labels with
  | nil => simp [words, flush]
  | cons next more =>
    rw [List.map_cons, List.intercalate_cons_cons, List.append_assoc]
    exact (words_append_cons rfl _ _ _).trans (congrArg _ (words_cons rfl _))

/-- Brackets show no name of their own. -/
theorem words_brackets (inner : String) :
    words [] ("(" ++ inner ++ ")").toList = words [] inner.toList := by
  rw [String.toList_append, String.toList_append]
  exact (words_concat rfl _).trans (words_cons rfl _)

end Label

namespace Parameter

open Label

mutual

/-- The label of a pattern shows its names. -/
theorem words_label (parameter : Parameter) (hnames : ∀ name ∈ parameter.names, IsName name) :
    ∃ label, parameter.asParameter.parameterLabel = .ok label ∧
      words [] label.toList = parameter.names := by
  match parameter with
  | single name =>
    exact ⟨name, by rw [asParameter, Tree.parameterLabel]; rfl,
      words_name (hnames name (List.mem_singleton_self name))⟩
  | rest none => exact ⟨"*" ++ "", by rw [asParameter, Tree.parameterLabel]; rfl, rfl⟩
  | rest (some name) =>
    refine ⟨"*" ++ name, by rw [asParameter, Tree.parameterLabel]; rfl, ?_⟩
    rw [String.toList_append]
    exact (words_cons rfl _).trans (words_name (hnames name (List.mem_singleton_self name)))
  | nested parameters =>
    obtain ⟨labels, hlabels, hwords⟩ := words_labels parameters hnames
    refine ⟨"(" ++ ", ".intercalate labels ++ ")", ?_, (words_brackets _).trans hwords⟩
    rw [asParameter, Tree.parameterLabel.eq_def]
    dsimp only
    rw [hlabels]
    rfl

theorem words_labels (parameters : List Parameter) (hnames : ∀ name ∈ allNames parameters, IsName name) :
    ∃ labels, Tree.parameterLabels (asParameters parameters) = .ok labels ∧
      words [] (", ".intercalate labels).toList = allNames parameters := by
  match parameters with
  | [] => exact ⟨[], by rw [asParameters, Tree.parameterLabels], rfl⟩
  | parameter :: others =>
    rw [allNames, List.forall_mem_append] at hnames
    obtain ⟨label, hlabel, hfirst⟩ := words_label parameter hnames.1
    obtain ⟨labels, hlabels, hrest⟩ := words_labels others hnames.2
    refine ⟨label :: labels, by rw [asParameters, Tree.parameterLabels, hlabel, hlabels]; rfl, ?_⟩
    rw [words_intercalate_cons, hfirst, hrest, allNames]

end

end Parameter

namespace BlockParameter

open Label

/-- The label of parameters that are the only one together. -/
theorem parameterLabel_grouped (first : BlockParameter) (others : List BlockParameter) :
    (grouped first others).asTree.parameterLabel =
      (Tree.parameterLabels (asTree first :: asTrees others)).map fun labels ↦
        match labels with
        | [only] => only
        | several => "(" ++ ", ".intercalate several ++ ")" := by
  have hnode := isNode_asTree first
  have hfirst : (((asTree first :: asTrees others).head?.map Tree.isNode).getD false) = true := hnode
  rw [asTree, Tree.parameterLabel]
  exact if_pos (by rw [hfirst]; rfl)

mutual

/-- The label of a parameter shows its names. -/
theorem words_label (parameter : BlockParameter) (hnames : ∀ name ∈ parameter.names, IsName name) :
    ∃ label, parameter.asTree.parameterLabel = .ok label ∧
      words [] label.toList = parameter.names := by
  match parameter with
  | pattern parameter =>
    rw [names] at hnames ⊢
    rw [asTree]
    exact parameter.words_label hnames
  | sole name =>
    exact ⟨name, by rw [asTree, Tree.parameterLabel]; rfl,
      words_name (hnames name (List.mem_singleton_self name))⟩
  | grouped first others =>
    obtain ⟨labels, hlabels, hwords⟩ := words_labels (first :: others) hnames
    rw [asTrees] at hlabels
    refine ⟨_, by rw [parameterLabel_grouped, hlabels]; rfl, ?_⟩
    rw [allNames] at hwords
    rw [names]
    dsimp only
    split
    · next only => simpa using hwords
    · exact (words_brackets _).trans hwords

theorem words_labels (parameters : List BlockParameter)
    (hnames : ∀ name ∈ allNames parameters, IsName name) :
    ∃ labels, Tree.parameterLabels (asTrees parameters) = .ok labels ∧
      words [] (", ".intercalate labels).toList = allNames parameters := by
  match parameters with
  | [] => exact ⟨[], by rw [asTrees, Tree.parameterLabels], rfl⟩
  | parameter :: others =>
    rw [allNames, List.forall_mem_append] at hnames
    obtain ⟨label, hlabel, hfirst⟩ := words_label parameter hnames.1
    obtain ⟨labels, hlabels, hrest⟩ := words_labels others hnames.2
    refine ⟨label :: labels, by rw [asTrees, Tree.parameterLabels, hlabel, hlabels]; rfl, ?_⟩
    rw [words_intercalate_cons, hfirst, hrest, allNames]

end

/-- The label of a block shows the names of its parameters. -/
theorem names_label (tag : String) (parameters : List BlockParameter)
    (hnames : ∀ name ∈ allNames parameters, IsName name) :
    ∃ label, (Tree.node tag (asTrees parameters)).label = .ok label ∧
      Label.names label = allNames parameters := by
  obtain ⟨labels, hlabels, hwords⟩ := words_labels parameters hnames
  refine ⟨_, by rw [Tree.label, hlabels]; rfl, ?_⟩
  rw [← hwords]
  dsimp only
  split
  · next hempty =>
    rw [List.isEmpty_iff.mp hempty]
    rfl
  · have hopening : "#<Block |".toList = "#<Block".toList ++ [' ', '|'] := by decide
    rw [Label.names, String.toList_append, String.toList_append, hopening, List.append_assoc,
      List.append_assoc, ← String.length_toList, List.drop_left]
    calc words [] (' ' :: '|' :: ((", ".intercalate labels).toList ++ ['|', '>']))
      _ = words [] ((", ".intercalate labels).toList ++ ['|', '>']) :=
        (words_cons rfl _).trans (words_cons rfl _)
      _ = words [] (", ".intercalate labels).toList ++ words [] ['>'] := words_append_cons rfl _ _ _
      _ = words [] (", ".intercalate labels).toList := List.append_nil _

end BlockParameter

end Treewalk
