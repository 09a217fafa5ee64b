import Storygraph.Proofs.Padding

/-!
# Line endings

A carriage return before a line break is a blank at the end of a line. It has no meaning for the
line, but a line of dashes with one divides no document: `ofDocument_crlf` says that a document with
such line endings compiles to the same as without them if nothing divides it, and in any case to
what the document is as one piece.
-/

namespace Storygraph

namespace Text

def crlf (t : Text) : Text := t.flatMap fun c => if c = '\n' then ['\r', '\n'] else [c]

variable {t : Text}

theorem crlf_lineFeed (t : Text) : crlf ('\n' :: t) = '\r' :: '\n' :: crlf t := rfl

theorem crlf_cons {c : Char} (t : Text) (other : c ≠ '\n') : crlf (c :: t) = c :: crlf t := by
  rw [crlf, List.flatMap_cons, if_neg other]
  rfl

theorem forall₂_lines_crlf (t : Text) : List.Forall₂ Lengthened (lines t) (lines (crlf t)) := by
  induction t with
  | nil => exact .cons ⟨[], rfl, nofun⟩ .nil
  | cons c t ih =>
    by_cases feed : c = '\n'
    · subst feed
      rw [crlf_lineFeed, lines_lineFeed, lines_cons _ (by decide), lines_lineFeed]
      refine .cons ⟨['\r'], rfl, ?_⟩ ih
      intro c member
      rw [List.mem_singleton.mp member]
      decide
    · obtain ⟨line, after, shape⟩ := exists_lines_eq_cons t
      rw [crlf_cons t feed, lines_cons _ feed, lines_cons _ feed]
      rw [shape] at ih ⊢
      generalize lines (crlf t) = longer at ih ⊢
      cases ih with
      | cons first rest =>
        obtain ⟨right, rfl, blank⟩ := first
        exact .cons ⟨right, rfl, blank⟩ rest

theorem exists_return_before {before after : Text} (shape : crlf t = before ++ '\n' :: after) :
    ∃ line, before = line ++ ['\r'] := by
  induction t generalizing before with
  | nil => simp [crlf] at shape
  | cons c t ih =>
    by_cases feed : c = '\n'
    · subst feed
      rw [crlf_lineFeed] at shape
      match before, shape with
      | [c], shape =>
        cases shape
        exact ⟨[], rfl⟩
      | a :: b :: before, shape =>
        simp only [List.cons_append, List.cons.injEq] at shape
        obtain ⟨line, rfl⟩ := ih shape.2.2
        exact ⟨a :: b :: line, rfl⟩
    · rw [crlf_cons t feed] at shape
      cases before with
      | nil => exact absurd (List.cons.inj shape).1 feed
      | cons a before =>
        obtain ⟨line, rfl⟩ := ih (List.cons.inj shape).2
        exact ⟨a :: line, rfl⟩

theorem not_delimiter_infix_crlf (t : Text) : ¬delimiter <:+: crlf t := by
  rintro ⟨before, after, shape⟩
  have second : crlf t = (before ++ openDelimiter) ++ '\n' :: after := by
    rw [← shape]
    simp [delimiter, openDelimiter]
  obtain ⟨line, last⟩ := exists_return_before second
  have ends := congrArg List.getLast? last
  simp [openDelimiter] at ends

end Text

namespace Compilation

/-- The compilation of a document as one piece, whatever divides it. -/
def undivided (c : Classifier) (document : Text) : Compilation :=
  let sections := Section.ofPieces 0 1 [document]
  ⟨sections.map (·.graph c), sections.flatMap (·.warnings)⟩

theorem ofDocument_of_pieces (c : Classifier) {d : Text} (whole : pieces d = [d]) :
    ofDocument c d = undivided c d := by
  rw [ofDocument, Section.split, whole, undivided]

theorem undivided_crlf (c : Classifier) (d : Text) :
    undivided c (Text.crlf d) = undivided c d := by
  have related := Section.forall₂_ofPieces_lengthened
    (.cons (Text.forall₂_lines_crlf d) .nil) 0 1
  have graphs : (Section.ofPieces 0 1 [d]).map (·.graph c) =
      (Section.ofPieces 0 1 [Text.crlf d]).map (·.graph c) := by
    apply map_eq_of_forall₂ (related.imp ?_)
    intro s s' same
    rw [Section.graph_eq_of_lines c same.1, same.2]
    rfl
  have warnings : (Section.ofPieces 0 1 [d]).map (·.warnings) =
      (Section.ofPieces 0 1 [Text.crlf d]).map (·.warnings) := by
    apply map_eq_of_forall₂ (related.imp ?_)
    intro s s' same
    rw [Section.warnings, Section.warnings, same.1]
  simp only [undivided, List.flatMap_def, graphs, warnings]

theorem length_sections_undivided (c : Classifier) (d : Text) :
    (undivided c d).sections.length ≤ 1 := by
  rw [undivided, List.length_map, Section.ofPieces]
  split
  · exact Nat.zero_le 1
  · exact Nat.le_refl 1

end Compilation

open Compilation in
/-- With a carriage return before each line break, a document compiles to the same if no delimiter
is in it. If one is, its sections become one. -/
theorem ofDocument_crlf (c : Classifier) (d : Text) :
    ofDocument c (Text.crlf d) = undivided c d ∧
      (¬delimiter <:+: d → ofDocument c (Text.crlf d) = ofDocument c d) ∧
      (1 < (Section.split d).length → ofDocument c (Text.crlf d) ≠ ofDocument c d) := by
  have whole : ofDocument c (Text.crlf d) = undivided c d := by
    have single := pieces_eq_singleton (Text.not_delimiter_infix_crlf d)
    rw [ofDocument_of_pieces c single, undivided_crlf]
  refine ⟨whole, fun free => ?_, fun several same => ?_⟩
  · rw [whole, ofDocument_of_pieces c (pieces_eq_singleton free)]
  · have few := length_sections_undivided c d
    rw [← whole, same, ofDocument, List.length_map] at few
    omega

/-- The title of the section, the stray `endif` and its place stay. -/
theorem ofDocument_crlf_title :
    let c : Classifier := ⟨[], [], .dialogue⟩
    let d := "name: Inn\nStart\nendif".toList
    let r := Compilation.ofDocument c (Text.crlf d)
    ¬delimiter <:+: d ∧ r = Compilation.ofDocument c d ∧ r.sections.map (·.name) = ["Inn".toList] ∧
      r.warnings = [.strayEnd 3] := by
  intro c d r
  have free : ¬delimiter <:+: d := by decide +kernel
  exact ⟨free, (ofDocument_crlf c d).2.1 free, by decide +kernel, by decide +kernel⟩

/-- The line of dashes is a node between the two others. -/
theorem not_forall_ofDocument_crlf :
    ¬∀ (c : Classifier) (d : Text), '\r' ∉ d →
      Compilation.ofDocument c (Text.crlf d) = Compilation.ofDocument c d := by
  intro same
  have wrong := same ⟨[], [], .dialogue⟩ "Start\n---\nEnd".toList (by decide)
  exact absurd wrong (by decide +kernel)

end Storygraph
