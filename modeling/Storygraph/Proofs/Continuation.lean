import Storygraph.Proofs.Growth
import Storygraph.Proofs.Segmentation

/-!
# Sections that go on

More lines after a section leave alone what the section compiles to, as long as it leaves no
conditional open: `ofLines_append` says so of items, `prefix_foldl_addItem` of the graph that is built
from them, and `prefix_continued` of a whole section.
-/

namespace Storygraph

/-! ### Rows of closed segments -/

namespace Segment

theorem Row.append {xs ys : List Segment} (left : Row xs) (closed : ∀ g ∈ xs, g.Closed)
    (right : Row ys) : Row (xs ++ ys) := by
  induction xs with
  | nil => exact right
  | cons g xs ih =>
    have later := ih left.tail fun other member => closed other (List.mem_cons_of_mem _ member)
    exact later.cons (left.wellFormed g List.mem_cons_self) (closed g List.mem_cons_self)

theorem closed_of_warnings {g : Segment} (silent : ∀ w ∈ g.warnings, w.code ≠ .unterminated) :
    g.Closed := by
  cases g with
  | line l => exact trivial
  | block header body ending =>
    cases ending with
    | some ending => exact fun h => nomatch h
    | none =>
      have warned : Warning.unterminated header.number header.text ∈
          (block header body none).warnings := by
        simp [warnings]
      exact absurd rfl (silent _ warned)

end Segment

def LeavesNoneOpen (lines : List Line) : Prop :=
  ∀ w ∈ itemWarnings lines, w.code ≠ .unterminated

/-- Lines that leave none open are scanned alike whatever comes after them. -/
theorem ofLines_append {before : List Line} (closed : LeavesNoneOpen before) (after : List Line) :
    items (before ++ after) = items before ++ items after ∧
      itemWarnings (before ++ after) = itemWarnings before ++ itemWarnings after := by
  obtain ⟨xs, left, rfl⟩ := exists_segments before
  obtain ⟨ys, right, rfl⟩ := exists_segments after
  have allClosed : ∀ g ∈ xs, g.Closed := by
    intro g member
    apply Segment.closed_of_warnings
    intro w warned
    apply closed
    rw [itemWarnings, Scan.ofLines_segments _ _ left]
    simpa using ⟨g, member, warned⟩
  have whole := left.append allClosed right
  rw [← List.flatMap_append]
  simp only [items, itemWarnings, Scan.ofLines_segments _ _ left,
    Scan.ofLines_segments _ _ right, Scan.ofLines_segments _ _ whole]
  simp

/-! ### Drafts that grow -/

namespace Draft

theorem prefix_addItem (c : Classifier) (d : Draft) (item : Item) :
    d.nodes.toList <+: (d.addItem c item).nodes.toList ∧
      d.edges.toList <+: (d.addItem c item).edges.toList := by
  rw [addItem_eq]
  split
  · exact ⟨List.prefix_refl _, List.prefix_refl _⟩
  · simp [grow]

theorem prefix_foldl_addItem (c : Classifier) (d : Draft) (items : List Item) :
    d.nodes.toList <+: (items.foldl (addItem c) d).nodes.toList ∧
      d.edges.toList <+: (items.foldl (addItem c) d).edges.toList := by
  induction items generalizing d with
  | nil => exact ⟨List.prefix_refl _, List.prefix_refl _⟩
  | cons item items ih =>
    have here := prefix_addItem c d item
    have later := ih (d.addItem c item)
    exact ⟨here.1.trans later.1, here.2.trans later.2⟩

end Draft

/-! ### Sections with more lines -/

theorem numberLines_append (first : Nat) (xs ys : List Text) :
    numberLines first (xs ++ ys) = numberLines first xs ++ numberLines (first + xs.length) ys := by
  simp [numberLines, List.zipIdx_append]

namespace Section

def continued (s : Section) (more : Text) : Section := { s with text := s.text ++ '\n' :: more }

theorem lines_continued (s : Section) (more : Text) :
    ∃ after, (s.continued more).lines = s.lines ++ after := by
  refine ⟨numberLines (s.firstLine + ((Text.lines s.text).map Text.trim).length)
    ((Text.lines more).map Text.trim), ?_⟩
  rw [lines, lines, ← numberLines_append, ← List.map_append, ← Text.lines_append_lineFeed]
  rfl

/-- A section that leaves no conditional open keeps its nodes, edges and warnings, in front of all
others, when its text goes on. -/
theorem prefix_continued (c : Classifier) (s : Section) (more : Text)
    (closed : ∀ w ∈ s.warnings, w.code ≠ .unterminated) :
    (s.graph c).nodes <+: ((s.continued more).graph c).nodes ∧
      (s.graph c).edges <+: ((s.continued more).graph c).edges ∧
      s.warnings <+: (s.continued more).warnings := by
  obtain ⟨after, shape⟩ := lines_continued s more
  obtain ⟨sameItems, sameWarnings⟩ := ofLines_append (show LeavesNoneOpen s.lines from closed) after
  have grown := Draft.prefix_foldl_addItem c ((items s.lines).foldl (Draft.addItem c) .empty)
    (items after)
  rw [← List.foldl_append, ← sameItems, ← shape] at grown
  refine ⟨grown.1, grown.2, ?_⟩
  rw [warnings, warnings, shape, sameWarnings]
  exact List.prefix_append _ _

/-- The conditional is closed, so the line that follows it is a statement of its own, linked from
both branches, and the `endif` after that closes nothing. -/
theorem prefix_continued_closed :
    let s : Section := ⟨0, "if a\nTrue:\nShow A\nFalse:\nif b\nendif".toList, 1⟩
    let c : Classifier := ⟨[], [], .dialogue⟩
    (∀ w ∈ s.warnings, w.code ≠ .unterminated) ∧
      s.warnings <+: (s.continued "Show B\nendif".toList).warnings ∧
      s.warnings.length = 1 ∧ (s.continued "Show B\nendif".toList).warnings.length = 2 ∧
      (s.graph c).edges.length = 2 ∧
      ((s.continued "Show B\nendif".toList).graph c).edges.length = 5 := by
  intro s c
  have closed : ∀ w ∈ s.warnings, w.code ≠ .unterminated := by decide +kernel
  refine ⟨closed, (prefix_continued c s _ closed).2.2, ?_⟩
  decide +kernel

/-- A conditional that is left open takes the lines after it, and those of its first branch come
first. -/
example :
    let s : Section := ⟨0, "if a\nFalse:\nShow A".toList, 1⟩
    let c : Classifier := ⟨[], [], .dialogue⟩
    (s.graph c).nodes.map (·.content) = ["if a".toList, "Show A".toList] ∧
      ((s.continued "True:\nShow B".toList).graph c).nodes.map (·.content) =
        ["if a".toList, "Show B".toList, "Show A".toList] := by
  decide +kernel

end Section

end Storygraph
