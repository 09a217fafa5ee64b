import Storygraph.Proofs.Pieces
import Storygraph.Compilation

/-!
# Independent sections

What is compiled from lines does not depend on their numbers, and warnings follow the numbers.
`compilation_append` draws from this that a document compiles to the same after a delimiter, apart
from the lines of its warnings and the numbers that stand for missing names.
-/

namespace Storygraph

/-! ### Lines with other numbers -/

def Line.renumber (f : Nat → Nat) (l : Line) : Line := { l with number := f l.number }

def Warning.renumber (f : Nat → Nat) (w : Warning) : Warning := { w with line := f w.line }

def Conditional.renumber (f : Nat → Nat) (block : Conditional) : Conditional where
  header := block.header.renumber f
  content := block.content
  whenTrue := block.whenTrue.map (Line.renumber f)
  whenFalse := block.whenFalse.map (Line.renumber f)

def Item.renumber (f : Nat → Nat) : Item → Item
  | .line l => .line (l.renumber f)
  | .conditional block => .conditional (block.renumber f)

theorem Line.text_renumber (f : Nat → Nat) (l : Line) : (l.renumber f).text = l.text := rfl

namespace Reading

def renumber (f : Nat → Nat) (r : Reading) : Reading where
  header := r.header.renumber f
  part := r.part
  metadata := r.metadata.map (Line.renumber f)
  whenTrue := r.whenTrue.map (Line.renumber f)
  whenFalse := r.whenFalse.map (Line.renumber f)
  warnings := r.warnings.map (Warning.renumber f)

variable (f : Nat → Nat)

theorem renumber_start (header : Line) (warnings : Array Warning) :
    (start header warnings).renumber f =
      start (header.renumber f) (warnings.map (Warning.renumber f)) := by
  simp [renumber, start]

theorem remark_renumber (r : Reading) (line : Line) :
    (r.renumber f).remark (line.renumber f) = (r.remark line).renumber f := by
  unfold remark
  by_cases nested : isHeader line.text = true
  · simp [Line.renumber, nested, renumber, Warning.nested, Warning.renumber]
  · simp [Line.text_renumber, nested]

theorem add_renumber (r : Reading) (line : Line) :
    (r.renumber f).add (line.renumber f) = (r.add line).renumber f := by
  have part : (r.renumber f).part = r.part := rfl
  unfold add
  rw [Line.text_renumber, part, remark_renumber]
  cases Part.begunBy? line.text with
  | some part => rfl
  | none =>
    cases r.part with
    | heading => by_cases option : isMetadata line.text = true <;> simp [option, renumber]
    | whenTrue => simp [renumber]
    | whenFalse => simp [renumber]

theorem finish_renumber (r : Reading) (lines : List Line) :
    (r.renumber f).finish (lines.map (Line.renumber f)) =
      ((r.finish lines).1.renumber f, (r.finish lines).2.map (Line.renumber f)) := by
  induction lines generalizing r with
  | nil => simp [finish, renumber, Line.renumber, Warning.unterminated, Warning.renumber]
  | cons line rest ih =>
    rw [List.map_cons, finish, finish, Line.text_renumber, add_renumber, ih]
    split
    · rfl
    · rfl

theorem conditional_renumber (r : Reading) :
    (r.renumber f).conditional = r.conditional.renumber f := by
  simp [conditional, renumber, Conditional.renumber, Line.renumber, Function.comp_def]

end Reading

namespace Scan

def renumber (f : Nat → Nat) (s : Scan) : Scan where
  items := s.items.map (Item.renumber f)
  warnings := s.warnings.map (Warning.renumber f)

theorem addLine_renumber (f : Nat → Nat) (s : Scan) (line : Line) :
    (s.renumber f).addLine (line.renumber f) = (s.addLine line).renumber f := by
  unfold addLine
  by_cases stray : isEnd line.text = true
  · simp [renumber, Item.renumber, Line.renumber, stray, Warning.strayEnd, Warning.renumber]
  · simp [renumber, Item.renumber, Line.renumber, stray]

/-- A scan never looks at the numbers of lines. -/
theorem run_renumber (f : Nat → Nat) (s : Scan) (lines : List Line) :
    (s.renumber f).run (lines.map (Line.renumber f)) = (s.run lines).renumber f := by
  fun_induction run s lines with
  | case1 s => rw [List.map_nil, run]
  | case2 s line rest opens read ih =>
    have finished := Reading.finish_renumber f (Reading.start line s.warnings) rest
    rw [Reading.renumber_start] at finished
    have made : (s.renumber f).items.push (.conditional (read.1.renumber f).conditional) =
        (s.items.push (.conditional read.1.conditional)).map (Item.renumber f) := by
      rw [Reading.conditional_renumber, Array.map_push]
      rfl
    rw [List.map_cons, run, Line.text_renumber, if_pos opens]
    simp only [renumber] at finished made ih ⊢
    rw [finished, made]
    exact ih
  | case3 s line rest single ih =>
    rw [List.map_cons, run, Line.text_renumber, if_neg single, addLine_renumber]
    exact ih

theorem ofLines_renumber (f : Nat → Nat) (warnings : Array Warning) (lines : List Line) :
    ofLines (warnings.map (Warning.renumber f)) (lines.map (Line.renumber f)) =
      (ofLines warnings lines).renumber f := by
  have scanned := run_renumber f ⟨#[], warnings⟩ lines
  simp only [renumber, Array.map_empty] at scanned
  exact scanned

end Scan

theorem items_renumber (f : Nat → Nat) (lines : List Line) :
    items (lines.map (Line.renumber f)) = (items lines).map (Item.renumber f) := by
  have scanned := Scan.ofLines_renumber f #[] lines
  rw [Array.map_empty] at scanned
  rw [items, scanned, Scan.renumber, Array.toList_map]
  rfl

theorem itemWarnings_renumber (f : Nat → Nat) (lines : List Line) :
    itemWarnings (lines.map (Line.renumber f)) = (itemWarnings lines).map (Warning.renumber f) := by
  have scanned := Scan.ofLines_renumber f #[] lines
  rw [Array.map_empty] at scanned
  rw [itemWarnings, scanned, Scan.renumber, Array.toList_map]
  rfl

/-! ### Graphs of lines with other numbers -/

namespace Draft

variable (c : Classifier) (f : Nat → Nat)

theorem foldl_addLine_renumber (d : Draft) (lines : List Line) :
    (lines.map (Line.renumber f)).foldl (addLine c) d = lines.foldl (addLine c) d := by
  rw [List.foldl_map]
  rfl

theorem addBranch_renumber (origin : NodeId) (d : Draft) (lines : List Line) :
    d.addBranch c origin (lines.map (Line.renumber f)) = d.addBranch c origin lines := by
  rw [addBranch, addBranch, foldl_addLine_renumber]

theorem addItem_renumber (d : Draft) (item : Item) :
    d.addItem c (item.renumber f) = d.addItem c item := by
  cases item with
  | line line => rfl
  | conditional block =>
    simp only [Item.renumber, Conditional.renumber, addItem, addBranch_renumber]

end Draft

/-! ### Sections after more pieces and lines -/

theorem numberLines_add (first lines : Nat) (texts : List Text) :
    numberLines (first + lines) texts = (numberLines first texts).map (Line.renumber (· + lines)) := by
  induction texts generalizing first with
  | nil => rfl
  | cons text texts ih =>
    have next : first + lines + 1 = first + 1 + lines := by omega
    have head : ∀ k, numberLines k (text :: texts) = ⟨k, text⟩ :: numberLines (k + 1) texts :=
      fun _ => rfl
    rw [head, head, next, ih, List.map_cons]
    rfl

namespace Section

/-- The graph of a section once more pieces stand before it: the number that stands for a missing
name goes up. -/
def graphAfter (pieces : Nat) (s : Section) (g : Graph) : Graph :=
  if (firstName? true s.text).isSome then g
  else { g with name := numberedName (s.index + pieces) }

variable (pieces lines : Nat) (s : Section)

theorem lines_moved : (s.moved pieces lines).lines = s.lines.map (Line.renumber (· + lines)) :=
  numberLines_add s.firstLine lines _

theorem warnings_moved :
    (s.moved pieces lines).warnings = s.warnings.map (Warning.renumber (· + lines)) := by
  rw [warnings, lines_moved, itemWarnings_renumber]
  rfl

theorem graph_moved (c : Classifier) :
    (s.moved pieces lines).graph c = graphAfter pieces s (s.graph c) := by
  have same : (items (s.moved pieces lines).lines).foldl (Draft.addItem c) .empty =
      (items s.lines).foldl (Draft.addItem c) .empty := by
    rw [lines_moved, items_renumber, List.foldl_map]
    simp only [Draft.addItem_renumber]
  rw [graph, same]
  unfold graphAfter graph name nameOf moved
  cases firstName? true s.text with
  | none => rfl
  | some declared => rfl

end Section

/-- A document and, after a delimiter, another compile to what each compiles to, the second with
its warnings as many lines further as come before and its missing names numbered on. -/
theorem compilation_append (c : Classifier) (a b : Text) (free : ¬openDelimiter <:+ a) :
    Compilation.ofDocument c (a ++ delimiter ++ b) =
      let first := Compilation.ofDocument c a
      let second := Compilation.ofDocument c b
      { sections := first.sections ++
          List.zipWith (Section.graphAfter (pieces a).length) (Section.split b) second.sections
        warnings := first.warnings ++
          second.warnings.map (Warning.renumber (· + (Text.lineFeeds a + 2))) } := by
  have graphs : (Section.split b).map (fun s =>
      (s.moved (pieces a).length (Text.lineFeeds a + 2)).graph c) =
        List.zipWith (Section.graphAfter (pieces a).length) (Section.split b)
          ((Section.split b).map (·.graph c)) := by
    rw [List.zipWith_map_right, List.zipWith_self]
    simp only [Section.graph_moved]
  have warnings : (Section.split b).flatMap (fun s =>
      (s.moved (pieces a).length (Text.lineFeeds a + 2)).warnings) =
        ((Section.split b).flatMap (·.warnings)).map
          (Warning.renumber (· + (Text.lineFeeds a + 2))) := by
    rw [List.map_flatMap]
    simp only [Section.warnings_moved]
  simp only [Compilation.ofDocument, Section.split_append a b free, List.map_append,
    List.flatMap_append, List.map_map, List.flatMap_map, Function.comp_def, graphs, warnings]

/-- A conditional that the first document leaves open ends there: the `endif` after the delimiter
is stray. The blank piece counts in the number of the last section. -/
theorem compilation_append_open :
    ¬openDelimiter <:+ "Start\nIf Show Variant\nTrue:\nShow A".toList ∧
      let r := Compilation.ofDocument ⟨[], [], .dialogue⟩
        ("Start\nIf Show Variant\nTrue:\nShow A".toList ++ delimiter ++
          "endif\nname: Two\n---\n \n---\nShow B".toList)
      r.sections.map (fun g => (g.name, g.nodes.length, g.edges.length)) =
          [("Section 1".toList, 3, 2), ("Two".toList, 2, 1), ("Section 4".toList, 1, 0)] ∧
        r.warnings.map (fun w => (w.code, w.line)) = [(.unterminated, 2), (.strayEnd, 6)] := by
  have free : ¬openDelimiter <:+ "Start\nIf Show Variant\nTrue:\nShow A".toList := by decide
  refine ⟨free, ?_⟩
  rw [compilation_append _ _ _ free]
  exact ⟨by decide +kernel, by decide +kernel⟩

end Storygraph
