import Storygraph.Compilation
import Storygraph.Proofs.Coverage
import Storygraph.Proofs.Remarks

/-!
# The lines of warnings

The number in a warning is that of a line of the document: `warnings_located` says that the line
is there, that it is what the warning is about, and in which order warnings come.
-/

namespace Storygraph

inductive Line.Earns (l : Line) : Warning → Prop where
  | strayEnd (ends : isEnd l.text = true) : Earns l (.strayEnd l.number)
  | nested (opens : isHeader l.text = true) : Earns l (.nested l.number l.text)
  | unterminated (opens : isHeader l.text = true) : Earns l (.unterminated l.number l.text)

/-- Every warning is further down than those before it, except that the last one may be about a
conditional that is not closed, which is known by its header. -/
def Ascending (warnings : List Warning) : Prop :=
  ∃ earlier, ∃ last : Option Warning, warnings = earlier ++ last.toList ∧
    earlier.Pairwise (fun v w => v.line < w.line) ∧
    (∀ w ∈ earlier, w.code ≠ .unterminated) ∧ ∀ w ∈ last, w.code = .unterminated

/-! ### Numbered lines -/

theorem map_number_numberLines (first : Nat) (texts : List Text) :
    (numberLines first texts).map Line.number = List.range' first texts.length := by
  rw [numberLines, List.map_map, ← List.zipIdx_map_snd first texts]
  rfl

theorem increasing_numberLines (first : Nat) (texts : List Text) :
    (numberLines first texts).Pairwise fun l m => l.number < m.number := by
  have increasing : (List.range' first texts.length).Pairwise (· < ·) := List.pairwise_lt_range'
  rw [← map_number_numberLines, List.pairwise_map] at increasing
  exact increasing

theorem mem_numberLines {first : Nat} {texts : List Text} {l : Line}
    (member : l ∈ numberLines first texts) :
    ∃ k, l.number = first + k ∧ texts[k]? = some l.text := by
  obtain ⟨⟨text, number⟩, of, rfl⟩ := List.mem_map.mp member
  obtain ⟨bound, here⟩ := List.mk_mem_zipIdx_iff_le_and_getElem?_sub.mp of
  exact ⟨number - first, by simp only; omega, here⟩

/-! ### Warnings about lines -/

theorem Line.earns_remark {l : Line} (out : isEnd l.text = true ∨ isHeader l.text = true) :
    l.Earns l.remark := by
  rw [remark]
  split
  · rename_i ends
    exact .strayEnd ends
  · rename_i ends
    exact .nested (out.resolve_left ends)

namespace Line.Earns

variable {l : Line} {w : Warning}

theorem line_eq (earned : l.Earns w) : w.line = l.number := by
  cases earned <;> rfl

theorem text_of_strayEnd (earned : l.Earns w) (code : w.code = .strayEnd) :
    l.text.asciiLower = "endif".toList := by
  cases earned with
  | strayEnd ends =>
    have same : l.text.asciiLower = Text.asciiLower "endif".toList := eq_of_beq ends
    rw [same]
    decide
  | nested | unterminated => nomatch code

theorem message_of_nested (earned : l.Earns w) (code : w.code = .nested) :
    isHeader l.text = true ∧ w.message = "nested conditional '".toList ++ l.text ++
      "' is not supported; treated as a statement".toList := by
  cases earned with
  | nested opens => exact ⟨opens, rfl⟩
  | strayEnd | unterminated => nomatch code

theorem message_of_unterminated (earned : l.Earns w) (code : w.code = .unterminated) :
    isHeader l.text = true ∧ w.message = "conditional '".toList ++ l.text ++
      "' has no 'endif'; closed at end of section".toList := by
  cases earned with
  | unterminated opens => exact ⟨opens, rfl⟩
  | strayEnd | nested => nomatch code

end Line.Earns

/-- Each warning is about one of the lines, and they come in the order of these. -/
theorem exists_remarked (lines : List Line) :
    ∃ remarked : List Line, ∃ opened : Option Line,
      itemWarnings lines = remarked.map Line.remark ++ opened.toList.map Segment.openWarning ∧
        remarked.Sublist lines ∧
        (∀ l ∈ remarked, isEnd l.text = true ∨ isHeader l.text = true) ∧
        ∀ l ∈ opened, l ∈ lines ∧ isHeader l.text = true := by
  obtain ⟨segments, row, cut⟩ := exists_segments lines
  refine ⟨_, _, itemWarnings_of_row row cut, remarked_sublist_lines cut, ?_, ?_⟩
  · intro l member
    obtain ⟨g, -, out⟩ := List.mem_flatMap.mp member
    exact Segment.isEnd_or_isHeader_of_mem_remarked out
  · intro l opened
    obtain ⟨g, comes, unclosed⟩ := Option.bind_eq_some_iff.mp opened
    have of := List.mem_of_getLast? comes
    obtain ⟨body, rfl⟩ := Segment.eq_block_of_unclosed? unclosed
    exact ⟨cut ▸ List.mem_flatMap.mpr ⟨_, of, List.mem_cons_self⟩, (row.wellFormed _ of).1⟩

namespace Section

variable {document : Text} {s : Section} {w : Warning}

theorem exists_line_of_warning (warned : w ∈ s.warnings) : ∃ l ∈ s.lines, l.Earns w := by
  obtain ⟨remarked, opened, same, sub, out, within⟩ := exists_remarked s.lines
  rw [warnings, same] at warned
  rcases List.mem_append.mp warned with remark | last
  · obtain ⟨l, member, rfl⟩ := List.mem_map.mp remark
    exact ⟨l, sub.mem member, Line.earns_remark (out l member)⟩
  · obtain ⟨l, member, rfl⟩ := List.mem_map.mp last
    obtain ⟨inside, opens⟩ := within l (Option.mem_toList.mp member)
    exact ⟨l, inside, .unterminated opens⟩

theorem line_of_mem_lines {l : Line} (member : l ∈ s.lines) :
    ∃ k line, (Text.lines s.text)[k]? = some line ∧ l.number = s.firstLine + k ∧
      l.text = Text.trim line := by
  obtain ⟨k, place, here⟩ := mem_numberLines member
  rw [List.getElem?_map] at here
  obtain ⟨line, own, same⟩ := Option.map_eq_some_iff.mp here
  exact ⟨k, line, own, place, same.symm⟩

theorem covers_of_mem_lines {l : Line} (member : l ∈ s.lines) : s.Covers l.number := by
  obtain ⟨k, line, here, place, -⟩ := line_of_mem_lines member
  have bound := (List.getElem?_eq_some_iff.mp here).1
  rw [Covers, lineCount]
  omega

theorem ascending_warnings (s : Section) : Ascending s.warnings := by
  obtain ⟨remarked, opened, same, sub, -, -⟩ := exists_remarked s.lines
  refine ⟨remarked.map Line.remark, opened.map Segment.openWarning, ?_, ?_, ?_, ?_⟩
  · rw [warnings, same, Option.toList_map]
  · have increasing := (increasing_numberLines s.firstLine _).sublist sub
    rw [List.pairwise_map]
    simp only [Line.line_remark]
    exact increasing
  · intro w member
    obtain ⟨l, -, rfl⟩ := List.mem_map.mp member
    exact l.code_remark_ne
  · intro w member
    obtain ⟨l, -, rfl⟩ := Option.map_eq_some_iff.mp member
    rfl

end Section

theorem bounds_of_lineAt? {t line : Text} {n : Nat} (here : Text.lineAt? t n = some line) :
    1 ≤ n ∧ n ≤ (Text.lines t).length := by
  cases n with
  | zero => nomatch here
  | succ j =>
    have bound := (List.getElem?_eq_some_iff.mp here).1
    omega

theorem Section.bounds_of_mem_lines {document : Text} {s : Section} (of : s ∈ split document)
    {l : Line} (member : l ∈ s.lines) : 1 ≤ l.number ∧ l.number ≤ (Text.lines document).length := by
  obtain ⟨k, line, here, place, -⟩ := line_of_mem_lines member
  obtain ⟨whole, there, -⟩ := lineAt?_of_mem_split of here
  rw [place]
  exact bounds_of_lineAt? there

/-- The warnings of a document point at lines of it that are what they say, quote these, and go
down with the sections and inside each. -/
theorem warnings_located (c : Classifier) (document : Text) :
    let sections := Section.split document
    let warnings := (Compilation.ofDocument c document).warnings
    warnings = sections.flatMap Section.warnings ∧
      (∀ w ∈ warnings, 1 ≤ w.line ∧ w.line ≤ (Text.lines document).length ∧
        ∃ line, Text.lineAt? document w.line = some line ∧
          let t := Text.trim line
          (w.code = .strayEnd → t.asciiLower = "endif".toList) ∧
          (w.code = .nested → isHeader t = true ∧ w.message =
            "nested conditional '".toList ++ t ++
              "' is not supported; treated as a statement".toList) ∧
          (w.code = .unterminated → isHeader t = true ∧ w.message =
            "conditional '".toList ++ t ++ "' has no 'endif'; closed at end of section".toList)) ∧
      sections.Pairwise (fun s t => ∀ v ∈ s.warnings, ∀ w ∈ t.warnings, v.line < w.line) ∧
      ∀ s ∈ sections, Ascending s.warnings := by
  refine ⟨rfl, ?_, ?_, fun s _ => s.ascending_warnings⟩
  · intro w warned
    obtain ⟨s, of, inside⟩ := List.mem_flatMap.mp warned
    obtain ⟨l, member, earned⟩ := Section.exists_line_of_warning inside
    obtain ⟨k, line, here, number, text⟩ := Section.line_of_mem_lines member
    obtain ⟨whole, there, same⟩ := Section.lineAt?_of_mem_split of here
    rw [← number, ← earned.line_eq] at there
    have bounds := bounds_of_lineAt? there
    refine ⟨bounds.1, bounds.2, whole, there, ?_⟩
    rw [same, ← text]
    exact ⟨earned.text_of_strayEnd, earned.message_of_nested, earned.message_of_unterminated⟩
  · apply (Section.pairwise_split document).imp
    intro s t apart v left w right
    obtain ⟨l, inside, earned⟩ := Section.exists_line_of_warning left
    obtain ⟨m, inside', earned'⟩ := Section.exists_line_of_warning right
    have low := (Section.covers_of_mem_lines inside).2
    have high := (Section.covers_of_mem_lines inside').1
    rw [earned.line_eq, earned'.line_eq]
    omega

/-- Two warnings about one section, whose first line is the third of the document: the header that
is not closed is told of after the one inside it. -/
theorem warnings_located_open :
    let document := "A\n---\nif b\nTrue:\n  If c \nD".toList
    let warnings := (Compilation.ofDocument ⟨[], [], .dialogue⟩ document).warnings
    warnings.map (fun w => (w.code, w.line)) = [(.nested, 5), (.unterminated, 3)] ∧
      ∀ w ∈ warnings, w.line = 5 → w.message =
        "nested conditional 'If c' is not supported; treated as a statement".toList := by
  intro document warnings
  refine ⟨by decide +kernel, ?_⟩
  intro w warned place
  have code : ∀ w ∈ warnings, w.line = 5 → w.code = .nested := by decide +kernel
  obtain ⟨-, -, line, here, -, quotes, -⟩ :=
    (warnings_located ⟨[], [], .dialogue⟩ document).2.1 w warned
  have fifth : Text.lineAt? document 5 = some "  If c ".toList := by decide +kernel
  rw [place, fifth] at here
  cases here
  rw [(quotes (code w warned place)).2]
  decide

end Storygraph
