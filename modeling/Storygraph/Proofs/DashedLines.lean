import Storygraph.Proofs.Dividers
import Storygraph.Proofs.Provenance

/-!
# Lines of dashes

A line of dashes takes the line break before it and the one after it to divide a document, so of two
such lines, one directly below the other, only one can. `outside_iff_odd` says which of them divide:
in a run of lines of dashes the first, the third and so on, and the others are lines of a section.
-/

namespace Storygraph

/-- How many lines of dashes stand one below the other down to a line of a document. The first line
of the document does not count: no line break is before it. -/
def dashRun (document : Text) : Nat → Nat
  | n + 2 =>
    if Text.lineAt? document (n + 2) = some dashes then dashRun document (n + 1) + 1 else 0
  | _ => 0

/-! ### Dashes inside a piece -/

theorem exists_divide_cons (line : Text) (after : List Text) :
    ∃ rest others, divide (line :: after) = (line :: rest) :: others := by
  generalize whole : line :: after = lines
  fun_induction divide lines generalizing line after with
  | case1 =>
    cases whole
    exact ⟨[], _, rfl⟩
  | case2 _ second third below _ ih =>
    cases whole
    obtain ⟨rest, others, shape⟩ := ih second (third :: below) rfl
    rw [shape]
    exact ⟨second :: rest, others, rfl⟩
  | case3 =>
    cases whole
    exact ⟨after, [], rfl⟩

/-- A line of dashes in a piece is its first line or the last line of all. -/
theorem last_of_dashes {lines piece : List Text} {before after : List (List Text)} {k : Nat}
    (shape : divide lines = before ++ piece :: after) (here : piece[k + 1]? = some dashes) :
    after = [] ∧ k + 2 = piece.length := by
  fun_induction divide lines generalizing before piece k with
  | case1 line third below ih =>
    cases before with
    | nil =>
      cases shape
      simp at here
    | cons first before =>
      rw [List.cons_append, List.cons.injEq] at shape
      exact ih shape.2 here
  | case2 line second third below other ih =>
    obtain ⟨rest, others, below⟩ := exists_divide_cons second (third :: below)
    rw [below] at ih shape
    cases before with
    | nil =>
      cases shape
      cases k with
      | zero =>
        cases here
        exact absurd rfl other
      | succ k =>
        obtain ⟨last, size⟩ := ih (List.nil_append _).symm here
        exact ⟨last, congrArg (· + 1) size⟩
    | cons first before =>
      cases shape
      exact ih List.cons_append.symm here
  | case3 lines few =>
    cases before with
    | nil =>
      cases shape
      have short : lines.length < 3 := by
        rcases lines with - | ⟨first, - | ⟨second, - | ⟨third, below⟩⟩⟩
        · simp
        · simp
        · simp
        · exact absurd rfl (few first second third below)
      have bound := (List.getElem?_eq_some_iff.mp here).1
      exact ⟨rfl, by omega⟩
    | cons first before => simp at shape

/-! ### Dashes that divide -/

/-- Where a list of pieces is cut twice, the later cut has more pieces before it. -/
theorem exists_between {before after before' after' : List Text}
    (same : before ++ after = before' ++ after')
    (later : linesOfPieces before < linesOfPieces before') :
    ∃ piece more, before' = before ++ piece :: more ∧ after = piece :: more ++ after' := by
  rcases List.append_eq_append_iff.mp same with ⟨more, rfl, rest⟩ | ⟨more, rfl, -⟩
  · cases more with
    | nil => simp at later
    | cons piece more => exact ⟨piece, more, rfl, rest⟩
  · rw [linesOfPieces_append] at later
    omega

theorem isDivider_iff {document : Text} {n : Nat} :
    IsDivider document n ↔ ∃ before after, pieces document = before ++ after ∧ before ≠ [] ∧
      after ≠ [] ∧ n = linesOfPieces before := by
  constructor
  · rintro ⟨before, after, shape, left, right, rfl⟩
    exact ⟨before, after, shape, left, right, (linesOfPieces_eq left).symm⟩
  · rintro ⟨before, after, shape, left, right, rfl⟩
    exact ⟨before, after, shape, left, right, linesOfPieces_eq left⟩

/-- Of two neighbouring lines, one divides at most: the piece between them has a line. -/
theorem not_isDivider_succ {document : Text} {n : Nat} (divider : IsDivider document n) :
    ¬IsDivider document (n + 1) := by
  intro next
  obtain ⟨before, after, shape, -, -, rfl⟩ := isDivider_iff.mp divider
  obtain ⟨before', after', shape', -, -, place⟩ := isDivider_iff.mp next
  rw [shape] at shape'
  obtain ⟨piece, more, rfl, -⟩ := exists_between shape' (by omega)
  rw [linesOfPieces_append, linesOfPieces] at place
  omega

/-- A line of dashes that is not the last line divides if the line before it does not. -/
theorem isDivider_succ_iff {document : Text} {n : Nat}
    (dashed : Text.lineAt? document (n + 1) = some dashes) (below : 0 < n)
    (above : n + 1 < (Text.lines document).length) :
    IsDivider document (n + 1) ↔ ¬IsDivider document n := by
  refine ⟨fun next divider => not_isDivider_succ divider next, fun free => ?_⟩
  have here := dashed
  rw [Text.lineAt?_add_one, ← join_pieces document] at here
  rcases piece_or_between (pieces document) (pieces_ne_nil document) here with
    ⟨before, piece, after, k, shape, place, own⟩ | ⟨before, after, shape, left, right, place⟩
  · have lengths := congrArg linesOfPieces shape
    have feeds := Text.length_lines document
    rw [linesOfPieces_pieces, linesOfPieces_append, linesOfPieces] at lengths
    cases k with
    -- As the first line of its piece it is directly below a line that divides.
    | zero =>
      refine absurd (isDivider_iff.mpr ⟨before, piece :: after, shape, ?_, by simp, place⟩) free
      rintro rfl
      exact absurd place (Nat.ne_of_gt below)
    | succ k =>
      have divided := congrArg (List.map Text.lines) shape
      rw [map_lines_pieces, List.map_append, List.map_cons] at divided
      obtain ⟨last, size⟩ := last_of_dashes divided own
      rw [List.map_eq_nil_iff.mp last, linesOfPieces] at lengths
      rw [Text.length_lines] at size
      omega
  · exact isDivider_iff.mpr ⟨before, after, shape, left, right, place⟩

theorem isDivider_iff_odd {document : Text} {n : Nat}
    (above : n < (Text.lines document).length) :
    IsDivider document n ↔ dashRun document n % 2 = 1 := by
  have far : ∀ {m}, IsDivider document m → 2 ≤ m := by
    rintro m ⟨before, after, -, -, -, rfl⟩
    exact Nat.le_add_left 2 _
  -- A line of dashes divides if the one before it does not, and its run is one longer.
  induction n with
  | zero => exact ⟨fun divider => absurd (far divider) (by decide), nofun⟩
  | succ n ih =>
    have before := ih (Nat.lt_of_succ_lt above)
    cases n with
    | zero => exact ⟨fun divider => absurd (far divider) (by decide), nofun⟩
    | succ n =>
      rw [dashRun]
      split
      · rename_i dashed
        refine (isDivider_succ_iff dashed (Nat.succ_pos n) above).trans ?_
        refine (not_congr before).trans ?_
        omega
      · rename_i other
        exact ⟨fun divider => absurd (lineAt?_divider divider) other, nofun⟩

/-! ### Dashes outside of sections -/

namespace Section

theorem not_covers_of_isDivider {document : Text} {n : Nat} {s : Section}
    (divider : IsDivider document n) (of : s ∈ split document) : ¬s.Covers n := by
  obtain ⟨before, piece, after, shape, -, rfl⟩ := mem_ofPieces.mp of
  obtain ⟨before', after', shape', -, -, rfl⟩ := isDivider_iff.mp divider
  have inside := lineFeeds_trim_le piece
  rw [Covers, lineCount, Text.length_lines]
  rintro ⟨low, high⟩
  simp only at low high
  rw [shape] at shape'
  obtain ⟨other, more, rfl, rest⟩ := exists_between shape' (by omega)
  obtain ⟨rfl, -⟩ := List.cons.inj rest
  rw [linesOfPieces_append, linesOfPieces] at high
  omega

end Section

/-- A line of dashes that is not the last line of a document is outside of all sections if and only
if it ends an odd run of such lines. The contents of graphs are then quoted from other lines. -/
theorem outside_iff_odd {document : Text} {n : Nat}
    (dashed : Text.lineAt? document n = some dashes)
    (above : n < (Text.lines document).length) :
    ((∀ s ∈ Section.split document, ¬s.Covers n) ↔ dashRun document n % 2 = 1) ∧
      (dashRun document n % 2 = 1 → ∀ c, ∃ numbers : List Nat, numbers.Nodup ∧ n ∉ numbers ∧
        Quotes document numbers (Compilation.ofDocument c document).contentLines) := by
  have outside : (∀ s ∈ Section.split document, ¬s.Covers n) ↔ dashRun document n % 2 = 1 := by
    rw [← isDivider_iff_odd above]
    constructor
    · intro free
      by_contra other
      obtain ⟨s, of, covers⟩ := Section.exists_covers dashed (by decide) other
      exact free s of covers
    · exact fun divider s of => Section.not_covers_of_isDivider divider of
  refine ⟨outside, fun odd c => ?_⟩
  obtain ⟨numbers, distinct, covered, quoted⟩ := Section.exists_quoted_flatMap c
    ((Section.pairwise_split document).imp And.right) fun s member => member
  refine ⟨numbers, distinct, ?_, ?_⟩
  · intro member
    obtain ⟨s, of, covers⟩ := covered n member
    exact outside.mpr odd s of covers
  · rw [Compilation.contentLines, Compilation.ofDocument, List.flatMap_map]
    exact quoted

theorem outside_iff_odd_three :
    let document := "A\n---\n---\n---\nB".toList
    (Text.lineAt? document 4 = some dashes ∧ 4 < (Text.lines document).length ∧
      dashRun document 4 = 3) ∧
    (∀ s ∈ Section.split document, ¬s.Covers 4) := by
  intro document
  have dashed : Text.lineAt? document 4 = some dashes := by decide +kernel
  have above : 4 < (Text.lines document).length := by decide +kernel
  have run : dashRun document 4 = 3 := by decide +kernel
  exact ⟨⟨dashed, above, run⟩, (outside_iff_odd dashed above).1.mpr (by rw [run])⟩

/-- The line of dashes directly below another one is the first line of the second section, and a
node of its graph. -/
theorem not_forall_outside :
    (¬∀ (document : Text) (n : Nat), Text.lineAt? document n = some dashes → 1 < n →
      n < (Text.lines document).length → ∀ s ∈ Section.split document, ¬s.Covers n) ∧
    dashes ∈ (Compilation.ofDocument ⟨[], [], .dialogue⟩ "A\n---\n---\nB".toList).contentLines := by
  constructor
  · intro outside
    have dashed : Text.lineAt? "A\n---\n---\nB".toList 3 = some dashes := by decide +kernel
    have free := outside _ 3 dashed (by decide) (by decide +kernel)
    exact free ⟨1, "---\nB".toList, 3⟩ (by decide +kernel) ⟨by decide, by decide +kernel⟩
  · decide +kernel

end Storygraph
