import Mathlib.Data.List.Pairwise
import Storygraph.Proofs.Pieces

/-!
# Where sections stand

`split_coverage` says that the sections of a document are its pieces in order, that each keeps the
document's lines under the numbers they have there, and that every line that is neither blank nor
divides two pieces is in exactly one section.
-/

namespace Storygraph

def dashes : Text := "---".toList

/-- The numbers of the lines that the delimiters of a document take. -/
def IsDivider (document : Text) (n : Nat) : Prop :=
  ∃ before after, pieces document = before ++ after ∧ before ≠ [] ∧ after ≠ [] ∧
    n = Text.lineFeeds (Text.join delimiter before) + 2

namespace Section

def lineCount (s : Section) : Nat := (Text.lines s.text).length

def Covers (s : Section) (n : Nat) : Prop := s.firstLine ≤ n ∧ n < s.firstLine + s.lineCount

structure Coverage (document : Text) (sections : List Section) : Prop where
  /-- The pieces and the delimiters between them are the whole document. -/
  joined : Text.join delimiter (pieces document) = document
  trimmed : ∀ s ∈ sections, s.text ≠ [] ∧ Text.trim s.text = s.text
  /-- The index of a section is the position of its piece. -/
  placed : ∀ s ∈ sections, ∃ piece, (pieces document)[s.index]? = some piece ∧
    s.text = Text.trim piece
  increasing : sections.Pairwise fun s t => s.index < t.index
  /-- The lines of a section are lines of the document, apart from blanks at their ends. -/
  numbered : ∀ s ∈ sections, ∀ k line, (Text.lines s.text)[k]? = some line →
    ∃ whole, Text.lineAt? document (s.firstLine + k) = some whole ∧
      Text.trim whole = Text.trim line
  apart : sections.Pairwise fun s t => s.firstLine + s.lineCount ≤ t.firstLine
  divided : ∀ n, IsDivider document n → Text.lineAt? document n = some dashes
  /-- No line is lost that is not blank. -/
  covered : ∀ n line, Text.lineAt? document n = some line → Text.trim line ≠ [] →
    ¬IsDivider document n → ∃! s, s ∈ sections ∧ s.Covers n

end Section

/-! ### The lines of pieces -/

theorem lines_append_delimiter (a b : Text) :
    Text.lines (a ++ delimiter ++ b) = Text.lines a ++ dashes :: Text.lines b := by
  have shape : a ++ delimiter ++ b = a ++ '\n' :: (dashes ++ '\n' :: b) := by
    rw [List.append_assoc]
    rfl
  rw [shape, Text.lines_append_lineFeed, Text.lines_append_lineFeed]
  rfl

theorem lines_join (before : List Text) (piece : Text) (after : List Text) :
    Text.lines (Text.join delimiter (before ++ piece :: after)) =
      before.flatMap (fun p => Text.lines p ++ [dashes]) ++
        (Text.lines piece ++ after.flatMap fun p => dashes :: Text.lines p) := by
  induction before with
  | nil =>
    induction after generalizing piece with
    | nil => simp [Text.join]
    | cons next after ih =>
      have rest := ih next
      rw [List.nil_append] at rest ⊢
      rw [Text.join_cons_of_ne_nil _ _ (List.cons_ne_nil next after), lines_append_delimiter, rest]
      simp
  | cons first before ih =>
    have nonempty : before ++ piece :: after ≠ [] := by simp
    rw [List.cons_append, Text.join_cons_of_ne_nil _ _ nonempty, lines_append_delimiter, ih]
    simp

theorem length_linesBefore (before : List Text) :
    (before.flatMap fun p => Text.lines p ++ [dashes]).length = linesOfPieces before := by
  induction before with
  | nil => rfl
  | cons piece before ih =>
    rw [List.flatMap_cons, List.length_append, ih, List.length_append, Text.length_lines,
      List.length_singleton, linesOfPieces]

/-- The lines of a piece have their places after those of the pieces before it. -/
theorem getElem?_lines_join (before : List Text) (piece : Text) (after : List Text) {k : Nat}
    {line : Text} (here : (Text.lines piece)[k]? = some line) :
    (Text.lines (Text.join delimiter (before ++ piece :: after)))[linesOfPieces before + k]? =
      some line := by
  have bound : k < (Text.lines piece).length := (List.getElem?_eq_some_iff.mp here).1
  rw [lines_join, ← length_linesBefore, List.getElem?_append_right (Nat.le_add_right _ _),
    Nat.add_sub_cancel_left, List.getElem?_append_left bound]
  exact here

/-- A line of joined pieces is a line of one of them or stands between two. -/
theorem piece_or_between (ps : List Text) {j : Nat} {line : Text} (nonempty : ps ≠ [])
    (here : (Text.lines (Text.join delimiter ps))[j]? = some line) :
    (∃ before piece after k, ps = before ++ piece :: after ∧ j = linesOfPieces before + k ∧
        (Text.lines piece)[k]? = some line) ∨
      ∃ before after, ps = before ++ after ∧ before ≠ [] ∧ after ≠ [] ∧
        j + 1 = linesOfPieces before := by
  induction ps generalizing j with
  | nil => exact absurd rfl nonempty
  | cons piece rest ih =>
    by_cases own : j < (Text.lines piece).length
    · rw [← List.nil_append (piece :: rest), lines_join, List.flatMap_nil, List.nil_append,
        List.getElem?_append_left own] at here
      exact Or.inl ⟨[], piece, rest, j, rfl, (Nat.zero_add j).symm, here⟩
    · cases rest with
      | nil =>
        have bound := (List.getElem?_eq_some_iff.mp here).1
        exact absurd bound own
      | cons next rest =>
        have feeds := Text.length_lines piece
        rw [Text.join_cons_of_ne_nil _ _ (List.cons_ne_nil next rest), lines_append_delimiter,
          List.getElem?_append_right (Nat.le_of_not_lt own)] at here
        cases later : j - (Text.lines piece).length with
        | zero =>
          refine Or.inr ⟨[piece], next :: rest, rfl, List.cons_ne_nil _ _, List.cons_ne_nil _ _, ?_⟩
          rw [linesOfPieces, linesOfPieces]
          omega
        | succ i =>
          rw [later, List.getElem?_cons_succ] at here
          rcases ih (List.cons_ne_nil _ _) here with
            ⟨before, other, after, k, shape, place, inside⟩ | ⟨before, after, shape, left, right, place⟩
          · refine Or.inl ⟨piece :: before, other, after, k, by rw [shape]; rfl, ?_, inside⟩
            rw [linesOfPieces]
            omega
          · refine Or.inr ⟨piece :: before, after, by rw [shape]; rfl, List.cons_ne_nil _ _, right, ?_⟩
            rw [linesOfPieces]
            omega

theorem lineAt?_divider {document : Text} {n : Nat} (divider : IsDivider document n) :
    Text.lineAt? document n = some dashes := by
  obtain ⟨before, after, split, left, right, rfl⟩ := divider
  rw [Text.lineAt?_add_one, ← Text.length_lines, ← join_pieces document, split,
    Text.join_append delimiter left right, lines_append_delimiter,
    List.getElem?_append_right (Nat.le_refl _), Nat.sub_self]
  rfl

/-! ### Lines of a piece and of its text -/

theorem getElem?_trim_lines {piece : Text} {k : Nat} {line : Text}
    (here : (Text.lines (Text.trim piece))[k]? = some line) :
    ∃ whole, (Text.lines piece)[Text.lineFeeds (piece.takeWhile isBlank) + k]? = some whole ∧
      Text.trim whole = Text.trim line := by
  have trimmed := congrArg
    (·[Text.lineFeeds (piece.takeWhile isBlank) + k]?) (Text.map_trim_lines piece)
  have bound := (List.getElem?_eq_some_iff.mp here).1
  have start := List.length_replicate
    (n := Text.lineFeeds (piece.takeWhile isBlank)) (a := ([] : Text))
  rw [List.getElem?_append_right (by omega), start, Nat.add_sub_cancel_left,
    List.getElem?_append_left (by rw [List.length_map]; exact bound), List.getElem?_map,
    List.getElem?_map, here] at trimmed
  exact Option.map_eq_some_iff.mp trimmed

/-- A line that is not blank keeps its place in the trimmed text. -/
theorem place_of_not_blank {piece : Text} {k : Nat} {line : Text}
    (here : (Text.lines piece)[k]? = some line) (visible : Text.trim line ≠ []) :
    Text.lineFeeds (piece.takeWhile isBlank) ≤ k ∧
      k < Text.lineFeeds (piece.takeWhile isBlank) + (Text.lines (Text.trim piece)).length := by
  have trimmed := congrArg (·[k]?) (Text.map_trim_lines piece)
  simp only [List.getElem?_map, here, Option.map_some] at trimmed
  constructor
  · by_contra early
    rw [List.getElem?_append_left (by rw [List.length_replicate]; omega)] at trimmed
    exact visible (List.eq_of_mem_replicate (List.mem_of_getElem? trimmed.symm))
  · by_contra late
    rw [← List.append_assoc, List.getElem?_append_right
      (by rw [List.length_append, List.length_replicate, List.length_map]; omega)] at trimmed
    exact visible (List.eq_of_mem_replicate (List.mem_of_getElem? trimmed.symm))

theorem trim_ne_nil_of_line {piece : Text} {k : Nat} {line : Text}
    (here : (Text.lines piece)[k]? = some line) (visible : Text.trim line ≠ []) :
    Text.trim piece ≠ [] := by
  intro blank
  have all := Text.trim_eq_nil_iff.mp blank
  exact visible (Text.trim_eq_nil_iff.mpr fun c member =>
    all c (Text.mem_of_mem_lines (List.mem_of_getElem? here) member))

theorem lineFeeds_trim_le (piece : Text) :
    Text.lineFeeds (piece.takeWhile isBlank) + Text.lineFeeds (Text.trim piece) ≤
      Text.lineFeeds piece := by
  have whole := congrArg Text.lineFeeds (Text.eq_append_trim piece)
  simp only [Text.lineFeeds, List.count_append] at whole ⊢
  omega

/-! ### Sections of pieces -/

namespace Section

theorem mem_ofPieces {index line : Nat} {ps : List Text} {s : Section} :
    s ∈ ofPieces index line ps ↔ ∃ before piece after, ps = before ++ piece :: after ∧
      Text.trim piece ≠ [] ∧ s = ⟨index + before.length, Text.trim piece,
        line + linesOfPieces before + Text.lineFeeds (piece.takeWhile isBlank)⟩ := by
  constructor
  · intro member
    induction ps generalizing index line with
    | nil => nomatch member
    | cons piece rest ih =>
      have later : s ∈ ofPieces (index + 1) (line + Text.lineFeeds piece + 2) rest →
          ∃ before other after, piece :: rest = before ++ other :: after ∧
            Text.trim other ≠ [] ∧ s = ⟨index + before.length, Text.trim other,
              line + linesOfPieces before + Text.lineFeeds (other.takeWhile isBlank)⟩ := by
        intro inside
        obtain ⟨before, other, after, rfl, visible, rfl⟩ := ih inside
        refine ⟨piece :: before, other, after, rfl, visible, ?_⟩
        rw [linesOfPieces, List.length_cons, Section.mk.injEq]
        exact ⟨by omega, rfl, by omega⟩
      rw [ofPieces] at member
      split at member
      · exact later member
      · rename_i visible
        rcases List.mem_cons.mp member with rfl | inside
        · exact ⟨[], piece, rest, rfl, visible, rfl⟩
        · exact later inside
  · rintro ⟨before, piece, after, rfl, visible, rfl⟩
    rw [ofPieces_append, ofPieces, if_neg visible]
    exact List.mem_append_right _ List.mem_cons_self

theorem pairwise_ofPieces (index line : Nat) (ps : List Text) :
    (ofPieces index line ps).Pairwise fun s t =>
      s.index < t.index ∧ s.firstLine + s.lineCount ≤ t.firstLine := by
  induction ps generalizing index line with
  | nil => exact List.Pairwise.nil
  | cons piece rest ih =>
    rw [ofPieces]
    split
    · exact ih _ _
    · refine List.Pairwise.cons ?_ (ih _ _)
      intro t later
      obtain ⟨before, other, after, -, -, rfl⟩ := mem_ofPieces.mp later
      have inside := lineFeeds_trim_le piece
      rw [lineCount, Text.length_lines]
      exact ⟨by simp only; omega, by simp only; omega⟩

theorem unique_of_covers {sections : List Section} {n : Nat} {s t : Section}
    (apart : sections.Pairwise fun s t => s.firstLine + s.lineCount ≤ t.firstLine)
    (left : s ∈ sections) (right : t ∈ sections) (here : s.Covers n) (there : t.Covers n) :
    s = t := by
  by_contra other
  have disjoint : sections.Pairwise fun s t =>
      s.firstLine + s.lineCount ≤ t.firstLine ∨ t.firstLine + t.lineCount ≤ s.firstLine :=
    apart.imp Or.inl
  have symmetric : Std.Symm fun s t : Section =>
      s.firstLine + s.lineCount ≤ t.firstLine ∨ t.firstLine + t.lineCount ≤ s.firstLine :=
    ⟨fun _ _ => Or.symm⟩
  have either := disjoint.forall left right other
  obtain ⟨low, high⟩ := here
  obtain ⟨low', high'⟩ := there
  omega

theorem exists_covers {document : Text} {n : Nat} {line : Text}
    (here : Text.lineAt? document n = some line) (visible : Text.trim line ≠ [])
    (inside : ¬IsDivider document n) : ∃ s ∈ split document, s.Covers n := by
  cases n with
  | zero => nomatch here
  | succ j =>
    rw [Text.lineAt?_add_one, ← join_pieces document] at here
    rcases piece_or_between (Storygraph.pieces document) (pieces_ne_nil document) here with
      ⟨before, piece, after, k, shape, rfl, own⟩ | ⟨before, after, shape, left, right, place⟩
    · have place := place_of_not_blank own visible
      have shown := trim_ne_nil_of_line own visible
      refine ⟨_, mem_ofPieces.mpr ⟨before, piece, after, shape, shown, rfl⟩, ?_⟩
      rw [Covers, lineCount]
      simp only
      omega
    · refine absurd ⟨before, after, shape, left, right, ?_⟩ inside
      rw [place, linesOfPieces_eq left]

theorem lineAt?_of_mem_split {document : Text} {s : Section} {k : Nat} {line : Text}
    (member : s ∈ split document) (here : (Text.lines s.text)[k]? = some line) :
    ∃ whole, Text.lineAt? document (s.firstLine + k) = some whole ∧
      Text.trim whole = Text.trim line := by
  obtain ⟨before, piece, after, shape, -, rfl⟩ := mem_ofPieces.mp member
  obtain ⟨whole, own, same⟩ := getElem?_trim_lines here
  refine ⟨whole, ?_, same⟩
  have place : 1 + linesOfPieces before + Text.lineFeeds (piece.takeWhile isBlank) + k =
      linesOfPieces before + (Text.lineFeeds (piece.takeWhile isBlank) + k) + 1 := by omega
  rw [place, Text.lineAt?_add_one, ← join_pieces document, shape]
  exact getElem?_lines_join before piece after own

theorem pairwise_split (document : Text) :
    (split document).Pairwise fun s t =>
      s.index < t.index ∧ s.firstLine + s.lineCount ≤ t.firstLine :=
  pairwise_ofPieces 0 1 _

/-- A document's sections keep all of its lines that are not blank, in their places. -/
theorem split_coverage (document : Text) : Coverage document (split document) := by
  have apart := (pairwise_split document).imp And.right
  constructor
  case joined => exact join_pieces document
  case trimmed =>
    intro s member
    obtain ⟨before, piece, after, -, visible, rfl⟩ := mem_ofPieces.mp member
    exact ⟨visible, Text.trim_trim piece⟩
  case placed =>
    intro s member
    obtain ⟨before, piece, after, shape, -, rfl⟩ := mem_ofPieces.mp member
    refine ⟨piece, ?_, rfl⟩
    rw [shape]
    simp
  case increasing => exact (pairwise_split document).imp And.left
  case numbered =>
    intro s member k line here
    exact lineAt?_of_mem_split member here
  case apart => exact apart
  case divided => exact fun n => lineAt?_divider
  case covered =>
    intro n line here visible inside
    obtain ⟨s, member, covers⟩ := exists_covers here visible inside
    exact ⟨s, ⟨member, covers⟩, fun t other => unique_of_covers apart other.1 member other.2 covers⟩

/-- A blank piece counts, and blank lines before a text are not part of it. -/
example : (split "A\n---\n \n---\n\n\n  B\nC".toList).map (fun s => (s.index, s.firstLine)) =
    [(0, 1), (2, 7)] := by decide

end Section

end Storygraph
