import Mathlib.Algebra.BigOperators.Group.List.Basic
import Mathlib.Data.List.Nodup
import Storygraph.Proofs.Locations
import Storygraph.Proofs.WellFormed

/-!
# Where contents come from

Each line of a node's content is a line of the document, and no line of the document is used twice:
`contentLines_injective` gives the lines of all contents lines of the document of their own.
-/

namespace Storygraph

def Graph.contentLines (g : Graph) : List Text := g.nodes.flatMap fun n => Text.lines n.content

def Compilation.contentLines (r : Compilation) : List Text := r.sections.flatMap Graph.contentLines

def Classifier.live (c : Classifier) (lines : List Line) : List Line :=
  lines.filter fun l => (c.classify l.text).isSome

namespace Segment

/-- The lines of a segment that end up in contents. -/
def used (c : Classifier) : Segment → List Line
  | .line l => c.live [l]
  | .block header body _ => header :: (optionsOf body ++
      (c.live (Part.linesOf .whenTrue body) ++ c.live (Part.linesOf .whenFalse body)))

end Segment

/-! ### Lines are used once -/

/-- A line of a body describes options, or it is in one of the branches, or it is dropped. -/
theorem count_options_add_branches_le (body : List Line) (l : Line) :
    (optionsOf body).count l + (Part.linesOf .whenTrue body).count l +
      (Part.linesOf .whenFalse body).count l ≤ body.count l := by
  induction body using List.reverseRecOn with
  | nil => exact Nat.le_refl _
  | append_singleton body line ih =>
    rw [optionsOf_concat, linesOf_concat, linesOf_concat]
    simp only [List.count_append]
    cases marker : Part.begunBy? line.text with
    | some part => simp; omega
    | none =>
      cases stands : Part.latest body with
      | heading => by_cases option : isMetadata line.text = true <;> simp [option] <;> omega
      | whenTrue => simp; omega
      | whenFalse => simp; omega

namespace Segment

theorem count_used_le (c : Classifier) (g : Segment) (l : Line) :
    (g.used c).count l ≤ g.lines.count l := by
  have live : ∀ lines, (c.live lines).count l ≤ lines.count l := fun lines =>
    List.filter_sublist.count_le l
  cases g with
  | line m => exact live [m]
  | block header body ending =>
    have inside := count_options_add_branches_le body l
    have inTrue := live (Part.linesOf .whenTrue body)
    have inFalse := live (Part.linesOf .whenFalse body)
    rw [used, lines, List.cons_append, List.count_cons, List.count_cons]
    simp only [List.count_append]
    omega

theorem used_subperm (c : Classifier) (segments : List Segment) :
    (segments.flatMap (used c)).Subperm (segments.flatMap lines) := by
  rw [List.subperm_ext_iff]
  intro l _
  induction segments with
  | nil => exact Nat.le_refl _
  | cons g segments ih =>
    have here := g.count_used_le c l
    simp only [List.flatMap_cons, List.count_append]
    by_cases later : l ∈ segments.flatMap (used c)
    · have := ih later
      omega
    · rw [List.count_eq_zero.mpr later]
      omega

end Segment

/-! ### Lines of contents -/

theorem statements_eq_map (c : Classifier) (lines : List Line) :
    (c.statements lines).map Prod.snd = (c.live lines).map Line.text := by
  induction lines with
  | nil => rfl
  | cons l lines ih =>
    rw [Classifier.statements, Classifier.live] at *
    cases kind : c.classify l.text <;> simp [kind, ih]

theorem lines_statements (c : Classifier) {lines : List Line}
    (single : ∀ l ∈ lines, '\n' ∉ l.text) :
    (c.statements lines).flatMap (fun statement => Text.lines statement.2) =
      (c.live lines).map Line.text := by
  have texts : ((c.statements lines).map Prod.snd).flatMap Text.lines =
      (c.live lines).map Line.text := by
    rw [statements_eq_map, List.flatMap_map, List.map_eq_flatMap]
    exact List.flatMap_congr fun l member =>
      Text.lines_of_notMem (single l (List.mem_filter.mp member).1)
  rw [← texts, List.flatMap_map]

theorem mem_statements {c : Classifier} {lines : List Line} {statement : Kind × Text}
    (member : statement ∈ c.statements lines) :
    ∃ l ∈ lines, c.classify l.text = some statement.1 ∧ statement.2 = l.text := by
  obtain ⟨l, of, made⟩ := List.mem_filterMap.mp member
  obtain ⟨kind, known, rfl⟩ := Option.map_eq_some_iff.mp made
  exact ⟨l, of, known, rfl⟩

theorem Node.flatMap_lines_number (first : Nat) (statements : List (Kind × Text)) :
    (number first statements).flatMap (fun n => Text.lines n.content) =
      statements.flatMap fun statement => Text.lines statement.2 := by
  induction statements generalizing first with
  | nil => rfl
  | cons statement statements ih =>
    rw [number_cons, List.flatMap_cons, List.flatMap_cons, ih]

theorem Node.mem_of_mem_number {first : Nat} {statements : List (Kind × Text)} {n : Node}
    (member : n ∈ number first statements) : (n.kind, n.content) ∈ statements := by
  obtain ⟨⟨statement, index⟩, of, rfl⟩ := List.mem_map.mp member
  exact List.fst_mem_of_mem_zipIdx of

theorem mem_linesOf {part : Part} {body : List Line} {l : Line} (member : l ∈ part.linesOf body) :
    l ∈ body := by
  obtain ⟨⟨m, i⟩, kept, rfl⟩ := List.mem_map.mp member
  exact List.fst_mem_of_mem_zipIdx (List.mem_filter.mp kept).1

namespace Segment

theorem lines_item_statements (c : Classifier) {g : Segment}
    (single : ∀ l ∈ g.lines, '\n' ∉ l.text) :
    (g.item.statements c).flatMap (fun statement => Text.lines statement.2) =
      (g.used c).map Line.text := by
  cases g with
  | line l => exact lines_statements c single
  | block header body ending =>
    have inBody : ∀ l ∈ body, '\n' ∉ l.text := fun l member =>
      single l (List.mem_cons_of_mem _ (List.mem_append_left _ member))
    have options : (optionsOf body).flatMap (fun l => Text.lines l.text) =
        (optionsOf body).map Line.text := by
      rw [List.map_eq_flatMap]
      exact List.flatMap_congr fun l member => Text.lines_of_notMem
        (inBody l ((List.takeWhile_sublist _).mem (List.mem_filter.mp member).1))
    have content : Text.lines (header.text ++ (optionsOf body).flatMap fun l => '\n' :: l.text) =
        header.text :: (optionsOf body).map Line.text := by
      have joined := Text.lines_append_flatMap header.text ((optionsOf body).map Line.text)
      rw [List.flatMap_map, List.flatMap_map, options,
        Text.lines_of_notMem (single header List.mem_cons_self)] at joined
      exact joined
    simp only [item, Item.statements, used, List.flatMap_cons, List.flatMap_append, List.map_cons,
      List.map_append, content, List.cons_append,
      lines_statements c fun l member => inBody l (mem_linesOf member)]

theorem first_or_mem_lines (c : Classifier) (g : Segment) (first : Nat) :
    ∀ n ∈ Node.number first (g.item.statements c),
      (∃ block, g.item = .conditional block ∧ n.id = ⟨first⟩) ∨
        ∃ l ∈ g.lines, n.content = l.text := by
  intro n member
  cases g with
  | line l =>
    obtain ⟨m, here, -, text⟩ := mem_statements (Node.mem_of_mem_number member)
    exact Or.inr ⟨m, here, text⟩
  | block header body ending =>
    rw [item, Item.statements, Node.number_cons] at member
    rcases List.mem_cons.mp member with rfl | branch
    · exact Or.inl ⟨_, rfl, rfl⟩
    · have inBody : ∃ l ∈ body, n.content = l.text := by
        rcases List.mem_append.mp (Node.mem_of_mem_number branch) with inTrue | inFalse
        · obtain ⟨l, here, -, text⟩ := mem_statements inTrue
          exact ⟨l, mem_linesOf here, text⟩
        · obtain ⟨l, here, -, text⟩ := mem_statements inFalse
          exact ⟨l, mem_linesOf here, text⟩
      obtain ⟨l, here, text⟩ := inBody
      exact Or.inr ⟨l, List.mem_cons_of_mem _ (List.mem_append_left _ here), text⟩

/-- A node of some segments is that of a conditional, or its content is one of their lines. -/
theorem opens_or_mem_lines (c : Classifier) (segments : List Segment) :
    ∀ n ∈ Node.number 0 ((segments.map item).flatMap (Item.statements c)),
      (∃ block, Opens c (segments.map item) block n.id) ∨
        ∃ l ∈ segments.flatMap lines, n.content = l.text := by
  induction segments using List.reverseRecOn with
  | nil => exact fun n member => nomatch member
  | append_singleton segments g ih =>
    intro n member
    rw [List.map_append, List.map_singleton, List.flatMap_append, List.flatMap_singleton,
      Node.number_append, List.mem_append] at member
    rw [List.map_append, List.map_singleton, List.flatMap_append, List.flatMap_singleton]
    rcases member with old | new
    · rcases ih n old with ⟨block, opens⟩ | ⟨l, of, same⟩
      · exact Or.inl ⟨block, opens_concat.mpr (Or.inl opens)⟩
      · exact Or.inr ⟨l, List.mem_append_left _ of, same⟩
    · rcases g.first_or_mem_lines c _ n new with ⟨block, made, place⟩ | ⟨l, of, same⟩
      · refine Or.inl ⟨block, opens_concat.mpr (Or.inr ⟨made, ?_⟩)⟩
        rw [place, Nat.zero_add]
        rfl
      · exact Or.inr ⟨l, List.mem_append_right _ of, same⟩

end Segment

/-! ### Lines of a document -/

/-- Some lines of a document, by their numbers, are the given texts apart from blanks. -/
def Quotes (document : Text) (numbers : List Nat) (texts : List Text) : Prop :=
  List.Forall₂ (fun n text => ∃ line, Text.lineAt? document n = some line ∧ Text.trim line = text)
    numbers texts

namespace Section

variable {document : Text} {s : Section}

theorem notMem_of_mem_lines {l : Line} (member : l ∈ s.lines) : '\n' ∉ l.text := by
  obtain ⟨k, line, here, -, same⟩ := line_of_mem_lines member
  rw [same]
  intro feed
  apply Text.notMem_of_mem_lines (List.mem_of_getElem? here)
  rw [← Text.eq_append_trim line]
  exact List.mem_append_left _ (List.mem_append_right _ feed)

/-- The contents of a section's nodes are the lines that its segments use. -/
theorem contentLines_graph (c : Classifier) {segments : List Segment} (row : Segment.Row segments)
    (cut : segments.flatMap Segment.lines = s.lines) :
    (s.graph c).contentLines = (segments.flatMap (Segment.used c)).map Line.text := by
  rw [Graph.contentLines, graph, Draft.nodes_foldl_addItem, items_of_row row cut,
    Node.flatMap_lines_number, List.flatMap_assoc, List.flatMap_map, List.map_flatMap]
  refine List.flatMap_congr fun g member => Segment.lines_item_statements c fun l inside => ?_
  exact notMem_of_mem_lines (cut ▸ List.mem_flatMap.mpr ⟨g, member, inside⟩ : l ∈ s.lines)

/-- The lines of a section's contents have lines of the section for their own. -/
theorem exists_quoted (c : Classifier) (of : s ∈ split document) :
    ∃ numbers : List Nat, numbers.Nodup ∧ (∀ n ∈ numbers, s.Covers n) ∧
      Quotes document numbers (s.graph c).contentLines := by
  obtain ⟨segments, row, cut⟩ := exists_segments s.lines
  have sub := Segment.used_subperm c segments
  rw [cut] at sub
  refine ⟨(segments.flatMap (Segment.used c)).map Line.number, ?_, ?_, ?_⟩
  · obtain ⟨used, perm, sublist⟩ := sub
    have increasing := increasing_numberLines s.firstLine ((Text.lines s.text).map Text.trim)
    have distinct : (s.lines.map Line.number).Nodup := by
      rw [List.Nodup, List.pairwise_map]
      exact increasing.imp Nat.ne_of_lt
    exact (perm.map Line.number).nodup_iff.mp (distinct.sublist (sublist.map Line.number))
  · intro n member
    obtain ⟨l, used, rfl⟩ := List.mem_map.mp member
    exact covers_of_mem_lines (sub.subset used)
  · rw [contentLines_graph c row cut, Quotes, List.forall₂_map_left_iff,
      List.forall₂_map_right_iff, List.forall₂_same]
    intro l used
    obtain ⟨k, line, here, place, text⟩ := line_of_mem_lines (sub.subset used)
    obtain ⟨whole, there, same⟩ := lineAt?_of_mem_split of here
    exact ⟨whole, place ▸ there, same.trans text.symm⟩

theorem length_nodes_le (c : Classifier) (of : s ∈ split document) :
    (s.graph c).nodes.length ≤ (Text.lines document).length := by
  obtain ⟨numbers, distinct, -, quoted⟩ := exists_quoted c of
  obtain ⟨sizes, each⟩ := List.forall₂_iff_get.mp quoted
  have lines : (s.graph c).nodes.length ≤ (s.graph c).contentLines.length := by
    rw [Graph.contentLines, List.length_flatMap,
      ← List.length_map (f := fun n : Node => (Text.lines n.content).length)]
    refine List.length_le_sum_of_one_le _ fun count member => ?_
    obtain ⟨n, -, rfl⟩ := List.mem_map.mp member
    rw [Text.length_lines]
    exact Nat.le_add_left 1 _
  have inside : numbers ⊆ List.range' 1 (Text.lines document).length := by
    intro n member
    obtain ⟨i, bound, rfl⟩ := List.getElem_of_mem member
    obtain ⟨line, here, -⟩ := each i bound (by omega)
    have place : 1 ≤ numbers[i] ∧ numbers[i] ≤ _ := bounds_of_lineAt? here
    rw [List.mem_range'_1]
    omega
  have bound := (List.subperm_of_subset distinct inside).length_le
  rw [List.length_range'] at bound
  omega

/-- Different sections quote different lines. -/
theorem exists_quoted_flatMap (c : Classifier) {sections : List Section}
    (apart : sections.Pairwise fun s t => s.firstLine + s.lineCount ≤ t.firstLine)
    (of : ∀ s ∈ sections, s ∈ split document) :
    ∃ numbers : List Nat, numbers.Nodup ∧ (∀ n ∈ numbers, ∃ s ∈ sections, s.Covers n) ∧
      Quotes document numbers (sections.flatMap fun s => (s.graph c).contentLines) := by
  induction sections with
  | nil => exact ⟨[], List.nodup_nil, by simp, List.Forall₂.nil⟩
  | cons s sections ih =>
    obtain ⟨before, later⟩ := List.pairwise_cons.mp apart
    obtain ⟨own, distinct, inside, quoted⟩ := exists_quoted c (of s List.mem_cons_self)
    obtain ⟨rest, distinct', inside', quoted'⟩ :=
      ih later fun t member => of t (List.mem_cons_of_mem _ member)
    refine ⟨own ++ rest, List.nodup_append.mpr ⟨distinct, distinct', ?_⟩, ?_, ?_⟩
    · rintro n here m there rfl
      obtain ⟨t, member, covers⟩ := inside' n there
      have high := (inside n here).2
      have low := covers.1
      have := before t member
      omega
    · intro n member
      rcases List.mem_append.mp member with here | there
      · exact ⟨s, List.mem_cons_self, inside n here⟩
      · obtain ⟨t, after, covers⟩ := inside' n there
        exact ⟨t, List.mem_cons_of_mem _ after, covers⟩
    · rw [List.flatMap_cons]
      exact List.rel_append quoted quoted'

theorem lines_content (c : Classifier) {n : Node} (member : n ∈ (s.graph c).nodes)
    (single : ∀ block, ¬Opens c (items s.lines) block n.id) :
    Text.lines n.content = [n.content] := by
  obtain ⟨segments, row, cut⟩ := exists_segments s.lines
  rw [graph, Draft.nodes_foldl_addItem, items_of_row row cut] at member
  rw [items_of_row row cut] at single
  rcases Segment.opens_or_mem_lines c segments n member with ⟨block, opens⟩ | ⟨l, of, same⟩
  · exact absurd opens (single block)
  · rw [same, Text.lines_of_notMem (notMem_of_mem_lines (cut ▸ of))]

end Section

/-- Each line of the contents in a document's graphs has a line of the document for its own, and
only the nodes of conditionals have more than one line. -/
theorem contentLines_injective (c : Classifier) (document : Text) :
    (∃ source : Fin (Compilation.ofDocument c document).contentLines.length → Nat,
      Function.Injective source ∧ ∀ i, ∃ line, Text.lineAt? document (source i) = some line ∧
        Text.trim line = (Compilation.ofDocument c document).contentLines[i]) ∧
      ∀ s ∈ Section.split document, ∀ n ∈ (s.graph c).nodes,
        (∀ block, ¬Opens c (items s.lines) block n.id) → Text.lines n.content = [n.content] := by
  refine ⟨?_, fun s _ n member single => Section.lines_content c member single⟩
  obtain ⟨numbers, distinct, -, quoted⟩ := Section.exists_quoted_flatMap c
    ((Section.pairwise_split document).imp And.right) fun s member => member
  have contents : (Compilation.ofDocument c document).contentLines =
      (Section.split document).flatMap fun s => (s.graph c).contentLines := by
    rw [Compilation.contentLines, Compilation.ofDocument, List.flatMap_map]
  rw [← contents] at quoted
  obtain ⟨sizes, each⟩ := List.forall₂_iff_get.mp quoted
  refine ⟨fun i => numbers.get ⟨i.val, by omega⟩, ?_, fun i => each i.val (by omega) i.isLt⟩
  intro i j same
  have places := distinct.get_inj_iff.mp same
  exact Fin.ext (Fin.mk.inj places)

end Storygraph
