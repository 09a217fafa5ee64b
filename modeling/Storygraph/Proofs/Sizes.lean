import Storygraph.Proofs.Locations
import Storygraph.Proofs.WellFormed

/-!
# Sizes of compilations

A document has at least as many lines as its compilation has sections, nodes, edges or warnings
(`Compilation.sized_ofDocument`). Edges are counted with the ends that the next node is linked from, and a
conditional has a line for every edge inside it and a marker for every end that it leaves.
-/

namespace Storygraph

theorem length_flatMap_le {α β γ : Type} {f : α → List β} {g : α → List γ} {xs : List α}
    (each : ∀ x ∈ xs, (f x).length ≤ (g x).length) :
    (xs.flatMap f).length ≤ (xs.flatMap g).length := by
  induction xs with
  | nil => exact Nat.le_refl _
  | cons x xs ih =>
    have first := each x List.mem_cons_self
    have rest := ih fun y member => each y (List.mem_cons_of_mem _ member)
    simp only [List.flatMap_cons, List.length_append]
    omega

/-! ### Bodies of conditionals -/

def Part.markers (part : Part) (body : List Line) : Nat :=
  body.countP fun l => begunBy? l.text == some part

theorem Part.markers_concat (part : Part) (body : List Line) (line : Line) :
    part.markers (body ++ [line]) =
      part.markers body + if begunBy? line.text == some part then 1 else 0 := by
  simp [markers, List.countP_append, List.countP_cons]

theorem Part.markers_pos {part : Part} {body : List Line} (stands : latest body = part)
    (branch : part ≠ .heading) : 0 < part.markers body := by
  induction body using List.reverseRecOn with
  | nil => exact absurd stands.symm branch
  | append_singleton body line ih =>
    rw [markers_concat]
    rw [latest_concat] at stands
    cases marker : begunBy? line.text with
    | none =>
      rw [marker] at stands
      have := ih stands
      omega
    | some other =>
      rw [marker] at stands
      have same : other = part := stands
      simp [same]

/-- A line of a branch comes after a marker of the branch. -/
theorem Part.linesOf_eq_nil_or {part : Part} (body : List Line) (branch : part ≠ .heading) :
    part.linesOf body = [] ∨ 0 < part.markers body := by
  induction body using List.reverseRecOn with
  | nil => exact Or.inl rfl
  | append_singleton body line ih =>
    rw [linesOf_concat, markers_concat]
    rcases ih with none | some
    · by_cases stands : latest body = part
      · have := markers_pos stands branch
        exact Or.inr (by omega)
      · left
        simp [none, stands]
    · exact Or.inr (by omega)

/-- A branch with a node has a marker for the end that it leaves. -/
theorem Part.end_le_markers (c : Classifier) {part : Part} (body : List Line)
    (branch : part ≠ .heading) :
    (if c.statements (part.linesOf body) = [] then 0 else 1) ≤ part.markers body := by
  rcases linesOf_eq_nil_or body branch with none | marked
  · rw [none]
    exact Nat.zero_le _
  · split <;> omega

/-- The lines of the branches and their markers are different lines. -/
theorem length_branches_add_markers_le (body : List Line) :
    (Part.linesOf .whenTrue body).length + (Part.linesOf .whenFalse body).length +
      (Part.markers .whenTrue body + Part.markers .whenFalse body) ≤ body.length := by
  induction body using List.reverseRecOn with
  | nil => exact Nat.le_refl _
  | append_singleton body line ih =>
    rw [linesOf_concat, linesOf_concat, Part.markers_concat, Part.markers_concat]
    simp only [List.length_append, List.length_singleton]
    cases marker : Part.begunBy? line.text with
    | some part => cases part <;> simp <;> omega
    | none => cases stands : Part.latest body <;> simp <;> omega

/-! ### Items and segments -/

theorem length_inner (c : Classifier) (first : Nat) (item : Item) :
    (item.inner c first).length = (item.statements c).length - 1 := by
  rw [← List.length_map (f := Edge.target), map_target_inner, NodeId.length_range]

theorem NodeId.length_getLast?_range (first count : Nat) :
    (range first count).getLast?.toList.length = if count = 0 then 0 else 1 := by
  cases last : (range first count).getLast? with
  | none =>
    have none := congrArg List.length (List.getLast?_eq_none_iff.mp last)
    rw [length_range] at none
    simp [none]
  | some id =>
    have inside := mem_range.mp (List.mem_of_getLast? last)
    rw [if_neg (by omega)]
    rfl

theorem length_exits (c : Classifier) (first : Nat) (item : Item) :
    (item.exits c first).length = item.fanOut c := by
  cases item with
  | line l => rfl
  | conditional block =>
    simp [Item.exits, Item.branches, NodeId.length_getLast?_range, Item.fanOut, fanOut_eq]

theorem length_statements_le (c : Classifier) (lines : List Line) :
    (c.statements lines).length ≤ lines.length := List.length_filterMap_le _ _

namespace Segment

theorem length_statements_le (c : Classifier) (g : Segment) :
    (g.item.statements c).length ≤ g.lines.length := by
  cases g with
  | line l => exact Storygraph.length_statements_le c [l]
  | block header body ending =>
    have room := length_branches_add_markers_le body
    have inTrue := Storygraph.length_statements_le c (Part.linesOf .whenTrue body)
    have inFalse := Storygraph.length_statements_le c (Part.linesOf .whenFalse body)
    simp only [item, Item.statements, lines, List.length_cons, List.length_append]
    omega

theorem fanOut_le (c : Classifier) (header : Line) (body : List Line) (ending : Option Line) :
    (item (.block header body ending)).fanOut c ≤
      Part.markers .whenTrue body + Part.markers .whenFalse body := by
  simp only [item, Item.fanOut, fanOut_eq]
  exact Nat.add_le_add (Part.end_le_markers c body (by decide))
    (Part.end_le_markers c body (by decide))

/-- A segment has at least as many lines as its item has edges inside and leaves ends. -/
theorem length_inner_add_exits_le (c : Classifier) (first : Nat) (g : Segment) :
    (g.item.inner c first).length + (g.item.exits c first).length ≤ g.lines.length := by
  rw [length_inner, length_exits]
  cases g with
  | line l =>
    have short := Storygraph.length_statements_le c [l]
    simp only [item, Item.statements, Item.fanOut, lines, List.length_singleton] at short ⊢
    omega
  | block header body ending =>
    have room := length_branches_add_markers_le body
    have inTrue := Storygraph.length_statements_le c (Part.linesOf .whenTrue body)
    have inFalse := Storygraph.length_statements_le c (Part.linesOf .whenFalse body)
    have ends := fanOut_le c header body ending
    simp only [item, Item.statements, lines, List.length_cons, List.length_append] at ends ⊢
    omega

theorem length_warnings_le (g : Segment) : g.warnings.length ≤ g.lines.length := by
  cases g with
  | line l =>
    simp only [warnings, lines]
    split <;> simp
  | block header body ending =>
    have nested := (nestedIn_sublist body).length_le
    simp only [warnings, lines, List.length_append, List.length_map, List.length_cons]
    split <;> simp <;> omega

/-- The edges of some segments, with one more from each end, are no more than their lines. -/
theorem length_edges_add_ends_le (c : Classifier) (segments : List Segment) :
    ((segments.map item).foldl (Draft.addItem c) .empty).edges.toList.length +
        ((segments.map item).foldl (Draft.addItem c) .empty).ends.length ≤
      (segments.flatMap lines).length := by
  induction segments using List.reverseRecOn with
  | nil => exact Nat.le_refl _
  | append_singleton segments g ih =>
    rw [List.map_append, List.foldl_append, List.map_singleton, List.foldl_cons, List.foldl_nil,
      List.flatMap_append, List.flatMap_singleton, List.length_append, Draft.addItem_eq]
    split
    · omega
    · have added := g.length_inner_add_exits_le c
        ((segments.map item).foldl (Draft.addItem c) .empty).next
      simp only [Draft.grow, Draft.links, Array.toList_appendList, List.length_append,
        List.length_map]
      omega

end Segment

/-! ### Sections -/

namespace Section

theorem length_nodes_le_lines (c : Classifier) (s : Section) :
    (s.graph c).nodes.length ≤ s.lines.length := by
  obtain ⟨segments, row, cut⟩ := exists_segments s.lines
  rw [graph, Draft.nodes_foldl_addItem, items_of_row row cut, Node.number, List.length_map,
    List.length_zipIdx, List.flatMap_map, ← cut]
  exact length_flatMap_le fun g _ => g.length_statements_le c

theorem length_edges_le_lines (c : Classifier) (s : Section) :
    (s.graph c).edges.length ≤ s.lines.length := by
  obtain ⟨segments, row, cut⟩ := exists_segments s.lines
  have bound := Segment.length_edges_add_ends_le c segments
  rw [graph, items_of_row row cut, ← cut]
  exact (Nat.le_add_right _ _).trans bound

theorem length_warnings_le_lines (s : Section) : s.warnings.length ≤ s.lines.length := by
  obtain ⟨segments, row, cut⟩ := exists_segments s.lines
  rw [warnings, itemWarnings, ← cut, Scan.ofLines_segments _ _ row]
  simpa using length_flatMap_le fun g (_ : g ∈ segments) => g.length_warnings_le

theorem length_lines (s : Section) : s.lines.length = s.lineCount := by
  rw [← List.length_map (f := Line.number), lines, map_number_numberLines, List.length_range',
    List.length_map, lineCount]

theorem length_lines_pos (s : Section) : 0 < s.lines.length := by
  rw [length_lines, lineCount, Text.length_lines]
  exact Nat.succ_pos _

theorem nodup_numbers (document : Text) :
    (((split document).flatMap lines).map Line.number).Nodup := by
  have increasing : ((split document).flatMap lines).Pairwise fun l m => l.number < m.number := by
    rw [List.pairwise_flatMap]
    refine ⟨fun s _ => increasing_numberLines _ _, (pairwise_split document).imp ?_⟩
    intro s t apart l inside m inside'
    have low := (covers_of_mem_lines inside).2
    have high := (covers_of_mem_lines inside').1
    omega
  rw [List.Nodup, List.pairwise_map]
  exact increasing.imp Nat.ne_of_lt

theorem length_flatMap_lines_le (document : Text) :
    ((split document).flatMap lines).length ≤ (Text.lines document).length := by
  have inside : ((split document).flatMap lines).map Line.number ⊆
      List.range' 1 (Text.lines document).length := by
    intro n member
    obtain ⟨l, within, rfl⟩ := List.mem_map.mp member
    obtain ⟨s, of, within⟩ := List.mem_flatMap.mp within
    have bounds := bounds_of_mem_lines of within
    rw [List.mem_range'_1]
    omega
  have bound := (List.subperm_of_subset (nodup_numbers document) inside).length_le
  rwa [List.length_map, List.length_range'] at bound

end Section

/-! ### Compilations -/

namespace Compilation

theorem nodeCount_eq (r : Compilation) : r.nodeCount = (r.sections.flatMap Graph.nodes).length := by
  rw [nodeCount]
  induction r.sections with
  | nil => rfl
  | cons g rest ih => rw [List.foldr_cons, ih, List.flatMap_cons, List.length_append]

theorem edgeCount_eq (r : Compilation) : r.edgeCount = (r.sections.flatMap Graph.edges).length := by
  rw [edgeCount]
  induction r.sections with
  | nil => rfl
  | cons g rest ih => rw [List.foldr_cons, ih, List.flatMap_cons, List.length_append]

structure Sized (bound : Nat) (r : Compilation) : Prop where
  sections : r.sections.length ≤ bound
  nodes : r.nodeCount ≤ bound
  edges : r.edgeCount ≤ bound
  warnings : r.warnings.length ≤ bound
  each : ∀ g ∈ r.sections, g.nodes.length ≤ bound ∧ g.edges.length ≤ bound

theorem Sized.mono {bound more : Nat} {r : Compilation} (sized : r.Sized bound)
    (le : bound ≤ more) : r.Sized more where
  sections := sized.sections.trans le
  nodes := sized.nodes.trans le
  edges := sized.edges.trans le
  warnings := sized.warnings.trans le
  each g member := ⟨(sized.each g member).1.trans le, (sized.each g member).2.trans le⟩

/-- Nothing that a summary counts is more than the lines of the document. -/
theorem sized_ofDocument (c : Classifier) (document : Text) :
    (ofDocument c document).Sized (Text.lines document).length := by
  have whole := Section.length_flatMap_lines_le document
  constructor
  · have lengths : ((Section.split document).flatMap fun s => [s]).length ≤
        ((Section.split document).flatMap Section.lines).length :=
      length_flatMap_le fun s _ => s.length_lines_pos
    rw [List.flatMap_singleton'] at lengths
    rw [ofDocument, List.length_map]
    exact lengths.trans whole
  · rw [nodeCount_eq, ofDocument, List.flatMap_map]
    exact (length_flatMap_le fun s _ => s.length_nodes_le_lines c).trans whole
  · rw [edgeCount_eq, ofDocument, List.flatMap_map]
    exact (length_flatMap_le fun s _ => s.length_edges_le_lines c).trans whole
  · exact (length_flatMap_le fun s _ => s.length_warnings_le_lines).trans whole
  · intro g member
    obtain ⟨s, of, rfl⟩ := List.mem_map.mp member
    have lines : s.lines.length ≤ ((Section.split document).flatMap Section.lines).length := by
      have part := (List.singleton_sublist.mpr of).flatMap Section.lines
      simpa using part.length_le
    exact ⟨(s.length_nodes_le_lines c).trans (lines.trans whole),
      (s.length_edges_le_lines c).trans (lines.trans whole)⟩

end Compilation

end Storygraph
