import Storygraph.Proofs.Lines
import Storygraph.Section

/-!
# Pieces of joined documents

A delimiter between two documents divides them, unless the first one ends so that it would be
found earlier. `split_append` says what sections the joined document then has.
-/

namespace Storygraph

/-- A delimiter without its last character. A text that ends so has a delimiter one character
before the place where another is put after it. -/
def openDelimiter : Text := "\n---".toList

theorem pieces_ne_nil (t : Text) : pieces t ≠ [] := by
  fun_induction pieces t with
  | case1 t ih => exact List.cons_ne_nil _ _
  | case2 c t _ ih =>
    cases h : pieces t with
    | nil => exact absurd h ih
    | cons piece rest => exact List.cons_ne_nil _ _
  | case3 => exact List.cons_ne_nil _ _

theorem consHead_append (c : Char) {xs : List Text} (ys : List Text) (some : xs ≠ []) :
    Text.consHead c (xs ++ ys) = Text.consHead c xs ++ ys := by
  cases xs with
  | nil => exact absurd rfl some
  | cons piece rest => rfl

theorem pieces_cons {c : Char} {t : Text}
    (other : ∀ rest, c = '\n' → t = '-' :: '-' :: '-' :: '\n' :: rest → False) :
    pieces (c :: t) = Text.consHead c (pieces t) := by
  rw [pieces]
  exact other

theorem pieces_delimiter_append (t : Text) : pieces (delimiter ++ t) = [] :: pieces t := by
  show pieces ('\n' :: '-' :: '-' :: '-' :: '\n' :: t) = [] :: pieces t
  rw [pieces]

/-- No delimiter begins in a text and ends in the delimiter after it. -/
theorem no_earlier_delimiter {c : Char} {t : Text} (b : Text)
    (other : ∀ rest, c = '\n' → t = '-' :: '-' :: '-' :: '\n' :: rest → False)
    (free : ¬openDelimiter <:+ c :: t) :
    ∀ rest, c = '\n' → t ++ (delimiter ++ b) = '-' :: '-' :: '-' :: '\n' :: rest → False := by
  intro rest first same
  have shape : delimiter ++ b = '\n' :: '-' :: '-' :: '-' :: '\n' :: b := rfl
  rw [shape] at same
  match t, same with
  | [], same => simp at same
  | [x], same => simp at same
  | [x, y], same => simp at same
  | [x, y, z], same =>
    simp only [List.cons_append, List.nil_append, List.cons.injEq] at same
    obtain ⟨rfl, rfl, rfl, -⟩ := same
    subst first
    exact free (List.suffix_refl _)
  | x :: y :: z :: w :: t, same =>
    simp only [List.cons_append, List.cons.injEq] at same
    obtain ⟨rfl, rfl, rfl, rfl, -⟩ := same
    exact other t first rfl

theorem pieces_append (a b : Text) (free : ¬openDelimiter <:+ a) :
    pieces (a ++ delimiter ++ b) = pieces a ++ pieces b := by
  rw [List.append_assoc]
  fun_induction pieces a with
  | case1 t ih =>
    have shorter : ¬openDelimiter <:+ t := fun h =>
      free (h.trans (List.suffix_append ['\n', '-', '-', '-', '\n'] t))
    show pieces (delimiter ++ (t ++ (delimiter ++ b))) = [] :: (pieces t ++ pieces b)
    rw [pieces_delimiter_append, ih shorter]
  | case2 c t other ih =>
    have shorter : ¬openDelimiter <:+ t := fun h => free (h.trans (List.suffix_cons c t))
    rw [List.cons_append, pieces_cons (no_earlier_delimiter b other free), ih shorter,
      consHead_append c _ (pieces_ne_nil t)]
  | case3 => exact pieces_delimiter_append b

theorem join_pieces (t : Text) : Text.join delimiter (pieces t) = t := by
  fun_induction pieces t with
  | case1 t ih =>
    rw [Text.join_cons_of_ne_nil _ _ (pieces_ne_nil t), ih]
    rfl
  | case2 c t _ ih =>
    obtain ⟨piece, rest, shape⟩ := List.exists_cons_of_ne_nil (pieces_ne_nil t)
    have whole : Text.join delimiter (Text.consHead c (piece :: rest)) =
        c :: Text.join delimiter (piece :: rest) := by
      cases rest <;> rfl
    rw [shape] at ih ⊢
    rw [whole, ih]
  | case3 => rfl

theorem pieces_eq_singleton {t : Text} (undivided : ¬delimiter <:+: t) : pieces t = [t] := by
  have whole := join_pieces t
  obtain ⟨piece, rest, shape⟩ := List.exists_cons_of_ne_nil (pieces_ne_nil t)
  rw [shape] at whole ⊢
  cases rest with
  | nil => rw [← whole, Text.join]
  | cons next rest =>
    rw [Text.join_cons_of_ne_nil _ _ (List.cons_ne_nil next rest)] at whole
    exact absurd ⟨piece, _, whole⟩ undivided

/-! ### Places -/

/-- How many lines further a piece begins than the first of those before it. -/
def linesOfPieces : List Text → Nat
  | [] => 0
  | piece :: rest => Text.lineFeeds piece + 2 + linesOfPieces rest

theorem linesOfPieces_append (ps qs : List Text) :
    linesOfPieces (ps ++ qs) = linesOfPieces ps + linesOfPieces qs := by
  induction ps with
  | nil => exact (Nat.zero_add _).symm
  | cons piece ps ih =>
    rw [List.cons_append, linesOfPieces, ih, linesOfPieces]
    omega

theorem linesOfPieces_eq {ps : List Text} (nonempty : ps ≠ []) :
    linesOfPieces ps = Text.lineFeeds (Text.join delimiter ps) + 2 := by
  induction ps with
  | nil => exact absurd rfl nonempty
  | cons piece rest ih =>
    cases rest with
    | nil => rfl
    | cons next rest =>
      have feeds : Text.lineFeeds delimiter = 2 := rfl
      rw [linesOfPieces, ih (List.cons_ne_nil _ _),
        Text.join_cons_of_ne_nil _ _ (List.cons_ne_nil next rest)]
      simp only [Text.lineFeeds, List.count_append] at feeds ⊢
      omega

/-- A document's pieces take its lines, and the delimiter after the last takes two more. -/
theorem linesOfPieces_pieces (t : Text) : linesOfPieces (pieces t) = Text.lineFeeds t + 2 := by
  rw [linesOfPieces_eq (pieces_ne_nil t), join_pieces]

namespace Section

def moved (pieces lines : Nat) (s : Section) : Section :=
  { s with index := s.index + pieces, firstLine := s.firstLine + lines }

theorem ofPieces_append (index line : Nat) (ps qs : List Text) :
    ofPieces index line (ps ++ qs) =
      ofPieces index line ps ++ ofPieces (index + ps.length) (line + linesOfPieces ps) qs := by
  induction ps generalizing index line with
  | nil => rfl
  | cons piece rest ih =>
    have place : index + (piece :: rest).length = index + 1 + rest.length := by
      rw [List.length_cons]
      omega
    have lines : line + linesOfPieces (piece :: rest) =
        line + Text.lineFeeds piece + 2 + linesOfPieces rest := by
      rw [linesOfPieces]
      omega
    rw [List.cons_append, ofPieces, ofPieces, ih, place, lines]
    split
    · rfl
    · rfl

theorem ofPieces_moved (index line pieces lines : Nat) (ps : List Text) :
    ofPieces (index + pieces) (line + lines) ps = (ofPieces index line ps).map (moved pieces lines) := by
  induction ps generalizing index line with
  | nil => rfl
  | cons piece rest ih =>
    have place : index + pieces + 1 = index + 1 + pieces := by omega
    have next : line + lines + Text.lineFeeds piece + 2 =
        line + Text.lineFeeds piece + 2 + lines := by omega
    rw [ofPieces, ofPieces, place, next, ih]
    split
    · rfl
    · have first : line + lines + Text.lineFeeds (piece.takeWhile isBlank) =
          line + Text.lineFeeds (piece.takeWhile isBlank) + lines := by omega
      rw [List.map_cons, first]
      rfl

theorem split_append (a b : Text) (free : ¬openDelimiter <:+ a) :
    split (a ++ delimiter ++ b) =
      split a ++ (split b).map (moved (Storygraph.pieces a).length (Text.lineFeeds a + 2)) := by
  have after := ofPieces_moved 0 1 (Storygraph.pieces a).length (Text.lineFeeds a + 2)
    (Storygraph.pieces b)
  rw [split, pieces_append a b free, ofPieces_append, linesOfPieces_pieces, after]
  rfl

end Section

end Storygraph
