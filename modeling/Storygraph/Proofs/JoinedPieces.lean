import Storygraph.Proofs.Coverage

/-!
# Joined pieces

Splitting a document undoes joining its pieces. `pieces_eq_iff` says which lists of texts are the
pieces of a document, and `split_join` what sections the joined texts have and where they stand.
-/

namespace Storygraph

/-! ### What pieces are -/

theorem infix_delimiter_cons {c : Char} {t : Text} :
    delimiter <:+: c :: t ↔
      (∃ rest, c = '\n' ∧ t = '-' :: '-' :: '-' :: '\n' :: rest) ∨ delimiter <:+: t := by
  rw [List.infix_cons_iff]
  refine or_congr_left ⟨?_, ?_⟩
  · rintro ⟨rest, same⟩
    cases same
    exact ⟨rest, rfl, rfl⟩
  · rintro ⟨rest, rfl, rfl⟩
    exact ⟨rest, rfl⟩

/-- No delimiter is left in a piece, and none begins in a piece and ends behind it. -/
theorem undivided_pieces (t : Text) :
    (∀ p ∈ pieces t, ¬delimiter <:+: p) ∧ ∀ p ∈ (pieces t).dropLast, ¬openDelimiter <:+ p := by
  fun_induction pieces t with
  | case1 t ih =>
    rw [List.dropLast_cons_of_ne_nil (pieces_ne_nil t)]
    exact ⟨List.forall_mem_cons.mpr ⟨by decide, ih.1⟩, List.forall_mem_cons.mpr ⟨by decide, ih.2⟩⟩
  | case2 c t other ih =>
    have whole := join_pieces t
    obtain ⟨piece, rest, shape⟩ := List.exists_cons_of_ne_nil (pieces_ne_nil t)
    rw [shape] at ih whole ⊢
    obtain ⟨undivided, free⟩ := ih
    have ofFirst : piece <+: t := by
      rw [← whole, Text.join_cons]
      exact List.prefix_append _ _
    constructor
    · refine List.forall_mem_cons.mpr
        ⟨?_, fun p member => undivided p (List.mem_cons_of_mem _ member)⟩
      rw [infix_delimiter_cons]
      rintro (⟨more, feed, rfl⟩ | inside)
      · obtain ⟨after, rfl⟩ := ofFirst
        exact other _ feed rfl
      · exact undivided piece List.mem_cons_self inside
    · cases rest with
      | nil => exact fun p member => absurd member List.not_mem_nil
      | cons next rest =>
        refine List.forall_mem_cons.mpr ⟨?_, fun p member => free p (List.mem_cons_of_mem _ member)⟩
        rw [List.suffix_cons_iff]
        rintro (same | inside)
        -- The delimiter after the piece goes on where the piece ends.
        · cases same
          rw [Text.join_cons_of_ne_nil _ _ (List.cons_ne_nil next rest)] at whole
          exact other _ rfl whole.symm
        · exact free piece List.mem_cons_self inside
  | case3 =>
    refine ⟨fun p member => ?_, fun p member => absurd member List.not_mem_nil⟩
    rw [List.mem_singleton.mp member]
    decide

theorem pieces_join {ps : List Text} (nonempty : ps ≠ []) (undivided : ∀ p ∈ ps, ¬delimiter <:+: p)
    (free : ∀ p ∈ ps.dropLast, ¬openDelimiter <:+ p) : pieces (Text.join delimiter ps) = ps := by
  induction ps with
  | nil => exact absurd rfl nonempty
  | cons p rest ih =>
    have alone := pieces_eq_singleton (undivided p List.mem_cons_self)
    by_cases last : rest = []
    · rw [last]
      exact alone
    · rw [List.dropLast_cons_of_ne_nil last] at free
      have below := ih last (fun q member => undivided q (List.mem_cons_of_mem _ member))
        fun q member => free q (List.mem_cons_of_mem _ member)
      rw [Text.join_cons_of_ne_nil _ _ last, pieces_append _ _ (free p List.mem_cons_self), alone,
        below, List.singleton_append]

/-- The pieces of a document are the only texts that make it up with delimiters between them, have
no delimiter in them and do not end, but for the last, so that one would be found earlier. -/
theorem pieces_eq_iff {t : Text} {ps : List Text} :
    pieces t = ps ↔ ps ≠ [] ∧ Text.join delimiter ps = t ∧ (∀ p ∈ ps, ¬delimiter <:+: p) ∧
      ∀ p ∈ ps.dropLast, ¬openDelimiter <:+ p := by
  constructor
  · rintro rfl
    exact ⟨pieces_ne_nil t, join_pieces t, undivided_pieces t⟩
  · rintro ⟨nonempty, rfl, undivided, free⟩
    exact pieces_join nonempty undivided free

/-- Dashes at the end of a text meet the delimiter after it. -/
example : pieces (Text.join delimiter ["A\n---".toList, "B".toList]) =
    ["A".toList, "---\nB".toList] := by decide +kernel

/-! ### Sections of joined pieces -/

namespace Section

/-- What stands before the visible part of a piece that comes after others. -/
def lead (before : List Text) (piece : Text) : Text :=
  before.flatMap (· ++ delimiter) ++ piece.takeWhile isBlank

theorem lineFeeds_lead (before : List Text) (piece : Text) :
    Text.lineFeeds (lead before piece) =
      linesOfPieces before + Text.lineFeeds (piece.takeWhile isBlank) := by
  have feeds : Text.lineFeeds delimiter = 2 := rfl
  induction before with
  | nil => rw [lead, linesOfPieces, List.flatMap_nil, List.nil_append, Nat.zero_add]
  | cons first before ih =>
    simp only [lead, linesOfPieces, Text.lineFeeds, List.flatMap_cons, List.count_append] at *
    omega

theorem lead_prefix_join (before : List Text) (piece : Text) (after : List Text) :
    lead before piece ++ Text.trim piece <+: Text.join delimiter (before ++ piece :: after) := by
  have front : Text.join delimiter (before ++ piece :: after) =
      before.flatMap (· ++ delimiter) ++ (piece ++ after.flatMap (delimiter ++ ·)) := by
    rw [← Text.join_cons]
    induction before with
    | nil => rfl
    | cons first before ih =>
      have nonempty : before ++ piece :: after ≠ [] := by simp
      rw [List.cons_append, Text.join_cons_of_ne_nil _ _ nonempty, ih]
      simp
  rw [front, lead, List.append_assoc]
  refine (List.prefix_append_right_inj _).mpr ?_
  conv => rhs; rw [← Text.eq_append_trim piece]
  simp

theorem ofPieces_eq_map (before rest : List Text) :
    ofPieces before.length (1 + linesOfPieces before) rest =
      ((rest.zipIdx before.length).filter fun (p, _) => Text.trim p ≠ []).map fun (p, i) =>
        ⟨i, Text.trim p, 1 + Text.lineFeeds (lead ((before ++ rest).take i) p)⟩ := by
  induction rest generalizing before with
  | nil => rfl
  | cons p rest ih =>
    have later := ih (before ++ [p])
    rw [List.append_assoc, List.singleton_append, List.length_append, List.length_singleton,
      linesOfPieces_append, linesOfPieces, linesOfPieces] at later
    have next : 1 + linesOfPieces before + Text.lineFeeds p + 2 =
        1 + (linesOfPieces before + (Text.lineFeeds p + 2 + 0)) := by omega
    rw [ofPieces, next, later, List.zipIdx_cons, List.filter_cons]
    split
    · rename_i blank
      rw [if_neg (by simpa using blank)]
    · rename_i visible
      have first : 1 + Text.lineFeeds (lead ((before ++ p :: rest).take before.length) p) =
          1 + linesOfPieces before + Text.lineFeeds (p.takeWhile isBlank) := by
        rw [List.take_left, lineFeeds_lead, Nat.add_assoc]
      rw [if_pos (by simpa using visible), List.map_cons, ← first]

/-- Joined with delimiters, texts without a delimiter in them, of which none but the last ends with
the start of one, give a document with a section for each of them that is not blank. The section has
the place of the text in the list, and begins on the line where the visible part of it stands. -/
theorem split_join {ps : List Text} (nonempty : ps ≠ []) (undivided : ∀ p ∈ ps, ¬delimiter <:+: p)
    (free : ∀ p ∈ ps.dropLast, ¬openDelimiter <:+ p) :
    split (Text.join delimiter ps) =
        (ps.zipIdx.filter fun (p, _) => Text.trim p ≠ []).map (fun (p, i) =>
          ⟨i, Text.trim p, 1 + Text.lineFeeds (lead (ps.take i) p)⟩) ∧
      ∀ i p, ps[i]? = some p → lead (ps.take i) p ++ Text.trim p <+: Text.join delimiter ps := by
  constructor
  · rw [split, pieces_join nonempty undivided free]
    exact ofPieces_eq_map [] ps
  · intro i p here
    obtain ⟨bound, rfl⟩ := List.getElem?_eq_some_iff.mp here
    have front := lead_prefix_join (ps.take i) ps[i] (ps.drop (i + 1))
    rwa [List.getElem_cons_drop, List.take_append_drop] at front

/-- The first text ends with two of the dashes, the third begins with three of them, and the last
ends with the start of a delimiter. -/
theorem split_join_dashed :
    let ps := ["A\n--", "", "---\nB", " \n", "\n C\n---"].map String.toList
    (∀ p ∈ ps, ¬delimiter <:+: p) ∧ (∀ p ∈ ps.dropLast, ¬openDelimiter <:+ p) ∧
      split (Text.join delimiter ps) =
        [⟨0, "A\n--".toList, 1⟩, ⟨2, "---\nB".toList, 6⟩, ⟨4, "C\n---".toList, 13⟩] := by
  intro ps
  have undivided : ∀ p ∈ ps, ¬delimiter <:+: p := by decide +kernel
  have free : ∀ p ∈ ps.dropLast, ¬openDelimiter <:+ p := by decide +kernel
  refine ⟨undivided, free, ?_⟩
  rw [(split_join (by decide) undivided free).1]
  decide +kernel

end Section

end Storygraph
