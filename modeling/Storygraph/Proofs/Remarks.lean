import Mathlib.Data.List.Flatten
import Mathlib.Data.List.Perm.Basic
import Storygraph.Proofs.Segmentation

/-!
# What a scan remarks on

A scan warns of every `endif` that is an item by itself, of every line in a branch that looks like
a header, and of a last conditional that nothing closes. `ofLines_reports` says that it warns of
nothing else and in which order.
-/

namespace Storygraph

/-- The warning about an `endif` that closes nothing, or about a header in a branch. -/
def Line.remark (l : Line) : Warning :=
  if isEnd l.text then .strayEnd l.number else .nested l.number l.text

def Item.remarked : Item → List Line
  | .line l => [l].filter fun l => isEnd l.text
  | .conditional block => (block.whenTrue ++ block.whenFalse).filter fun l => isHeader l.text

namespace Segment

def remarked : Segment → List Line
  | .line l => [l].filter fun l => isEnd l.text
  | .block _ body _ => nestedIn body

def unclosed? : Segment → Option Line
  | .block header _ none => some header
  | _ => none

end Segment

namespace Scan

end Scan

/-! ### Headers, markers and ends -/

theorem head?_asciiLower_of_isHeader {t : Text} (opens : isHeader t = true) :
    t.asciiLower.head? = some 'i' := by
  rcases Bool.or_eq_true_iff.mp opens with general | special
  · unfold opensWithIf at general
    split at general
    · simp only [Bool.and_eq_true, beq_iff_eq] at general
      rw [Text.asciiLower, List.map_cons, List.head?_cons, general.1.1.1]
    · nomatch general
  · rw [eq_of_beq special]
    decide

theorem sameAscii_eq_false_of_isHeader {t s : Text} (opens : isHeader t = true)
    (other : s.asciiLower.head? ≠ some 'i') : Text.sameAscii t s = false := by
  apply beq_false_of_ne
  intro same
  exact other (same ▸ head?_asciiLower_of_isHeader opens)

theorem isEnd_eq_false_of_isHeader {t : Text} (opens : isHeader t = true) : isEnd t = false :=
  sameAscii_eq_false_of_isHeader opens (by decide)

theorem begunBy?_of_isHeader {t : Text} (opens : isHeader t = true) : Part.begunBy? t = none := by
  rw [Part.begunBy?, sameAscii_eq_false_of_isHeader opens (by decide),
    sameAscii_eq_false_of_isHeader opens (by decide)]
  rfl

/-! ### Lines out of place -/

theorem Line.line_remark (l : Line) : l.remark.line = l.number := by
  unfold remark
  split <;> rfl

theorem Line.code_remark_ne (l : Line) : l.remark.code ≠ .unterminated := by
  unfold remark
  split <;> exact fun same => nomatch same

theorem isHeader_of_mem_nestedIn {body : List Line} {l : Line} (member : l ∈ nestedIn body) :
    isHeader l.text = true := by
  obtain ⟨⟨m, i⟩, kept, rfl⟩ := List.mem_map.mp member
  have := (List.mem_filter.mp kept).2
  simp only [Bool.and_eq_true] at this
  exact this.2

theorem nestedIn_sublist (body : List Line) : (nestedIn body).Sublist body := by
  have picked : (nestedIn body).Sublist (body.zipIdx.map Prod.fst) :=
    List.filter_sublist.map Prod.fst
  rw [List.zipIdx_map_fst] at picked
  exact picked

namespace Segment

theorem remarked_sublist (g : Segment) : g.remarked.Sublist g.lines := by
  cases g with
  | line l => exact List.filter_sublist
  | block header body ending =>
    exact (nestedIn_sublist body).trans
      ((List.sublist_append_left body _).trans (List.sublist_cons_self header _))

theorem isEnd_or_isHeader_of_mem_remarked {g : Segment} {l : Line} (member : l ∈ g.remarked) :
    isEnd l.text = true ∨ isHeader l.text = true := by
  cases g with
  | line m => exact Or.inl (List.mem_filter.mp member).2
  | block header body ending => exact Or.inr (isHeader_of_mem_nestedIn member)

def openWarning (header : Line) : Warning := .unterminated header.number header.text

theorem warnings_eq (g : Segment) :
    g.warnings = g.remarked.map Line.remark ++ g.unclosed?.toList.map openWarning := by
  cases g with
  | line l =>
    by_cases ends : isEnd l.text = true
    · simp [warnings, remarked, unclosed?, Line.remark, ends]
    · simp [warnings, remarked, unclosed?, ends]
  | block header body ending =>
    have nested : (nestedIn body).map Line.remark =
        (nestedIn body).map fun l => Warning.nested l.number l.text := by
      apply List.map_congr_left
      intro l member
      rw [Line.remark, isEnd_eq_false_of_isHeader (isHeader_of_mem_nestedIn member)]
      rfl
    rw [warnings, remarked, nested]
    cases ending <;> rfl

theorem unclosed?_of_closed {g : Segment} (closed : g.Closed) : g.unclosed? = none := by
  cases g with
  | line l => rfl
  | block header body ending =>
    cases ending with
    | none => exact absurd rfl closed
    | some ending => rfl

/-- Only a block makes a conditional, and with its own header. -/
theorem eq_block_of_item {g : Segment} {block : Conditional} (made : g.item = .conditional block) :
    ∃ body ending, g = .block block.header body ending := by
  cases g with
  | line l => cases made
  | block header body ending =>
    rw [← Item.conditional.inj made]
    exact ⟨body, ending, rfl⟩

theorem eq_block_of_unclosed? {g : Segment} {header : Line} (unclosed : g.unclosed? = some header) :
    ∃ body, g = .block header body none := by
  cases g with
  | line l => cases unclosed
  | block other body ending =>
    cases ending with
    | none =>
      obtain rfl := Option.some.inj unclosed
      exact ⟨body, rfl⟩
    | some ending => cases unclosed

/-- Only the last of some segments in a row can be open. -/
theorem flatMap_warnings {segments : List Segment} (row : Row segments) :
    segments.flatMap warnings = (segments.flatMap remarked).map Line.remark ++
      (segments.getLast?.bind unclosed?).toList.map openWarning := by
  rcases List.eq_nil_or_concat segments with rfl | ⟨earlier, g, rfl⟩
  · rfl
  · rw [List.concat_eq_append] at row ⊢
    have closed : earlier.flatMap warnings = (earlier.flatMap remarked).map Line.remark := by
      rw [List.map_flatMap]
      apply List.flatMap_congr
      intro h member
      have shut := row.closed h (by rw [List.dropLast_concat]; exact member)
      rw [warnings_eq, unclosed?_of_closed shut]
      exact List.append_nil _
    rw [List.flatMap_append, closed, List.flatMap_singleton, warnings_eq, List.flatMap_append,
      List.flatMap_singleton, List.map_append, List.getLast?_concat, List.append_assoc]
    rfl

end Segment

namespace Scan

variable {segments : List Segment} {lines : List Line}

end Scan

/-! ### The lines of a row -/

section Row

variable {segments : List Segment} {lines : List Line}

theorem items_of_row (row : Segment.Row segments)
    (cut : segments.flatMap Segment.lines = lines) : items lines = segments.map Segment.item := by
  rw [items, ← cut, Scan.ofLines_segments _ _ row]

theorem itemWarnings_of_row (row : Segment.Row segments)
    (cut : segments.flatMap Segment.lines = lines) :
    itemWarnings lines = (segments.flatMap Segment.remarked).map Line.remark ++
      (segments.getLast?.bind Segment.unclosed?).toList.map Segment.openWarning := by
  rw [itemWarnings, ← cut, Scan.ofLines_segments _ _ row, Array.toList_appendList,
    Segment.flatMap_warnings row]
  rfl

theorem remarked_sublist_lines (cut : segments.flatMap Segment.lines = lines) :
    (segments.flatMap Segment.remarked).Sublist lines :=
  cut ▸ List.Sublist.flatMap_right segments fun g _ => g.remarked_sublist

end Row

end Storygraph
