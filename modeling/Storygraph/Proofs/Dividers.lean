import Mathlib.Data.List.Forall2
import Storygraph.Proofs.Coverage

/-!
# Pieces by lines

Which lines of a document divide it is a matter of lines alone: a line of dashes divides if its
piece already has a line and another line follows. `map_lines_pieces` says so, and
`forall₂_pieces` that documents whose lines correspond have corresponding pieces.
-/

namespace Storygraph

/-- The lines of the pieces into which some lines fall. -/
def divide : List Text → List (List Text)
  | line :: second :: third :: after =>
    if second = dashes then [line] :: divide (third :: after)
    else (divide (second :: third :: after)).modifyHead (line :: ·)
  | lines => [lines]

theorem pieces_of_notMem {t : Text} (single : '\n' ∉ t) : pieces t = [t] := by
  induction t with
  | nil => rfl
  | cons c t ih =>
    rw [List.mem_cons, not_or] at single
    rw [pieces_cons fun _ feed _ => single.1 feed.symm, ih single.2]
    rfl

/-- A line break that begins no delimiter stays inside its piece. -/
theorem pieces_append_lineFeed {line rest : Text} (single : '\n' ∉ line)
    (other : ∀ more, rest ≠ dashes ++ '\n' :: more) :
    pieces (line ++ '\n' :: rest) = (pieces rest).modifyHead (line ++ '\n' :: ·) := by
  obtain ⟨piece, after, shape⟩ := List.exists_cons_of_ne_nil (pieces_ne_nil rest)
  induction line with
  | nil =>
    have first : pieces ('\n' :: rest) = Text.consHead '\n' (pieces rest) :=
      pieces_cons fun more _ same => other more same
    rw [List.nil_append, first, shape]
    rfl
  | cons c line ih =>
    rw [List.mem_cons, not_or] at single
    rw [List.cons_append, pieces_cons fun _ feed _ => single.1 feed.symm, ih single.2, shape]
    rfl

theorem divide_delimiter (line : Text) (more : Text) :
    divide (line :: dashes :: Text.lines more) = [line] :: divide (Text.lines more) := by
  obtain ⟨third, after, shape⟩ := Text.exists_lines_eq_cons more
  rw [shape, divide, if_pos rfl]

theorem divide_cons {line rest : Text} (other : ∀ more, rest ≠ dashes ++ '\n' :: more) :
    divide (line :: Text.lines rest) = (divide (Text.lines rest)).modifyHead (line :: ·) := by
  obtain ⟨second, after, shape⟩ := Text.exists_lines_eq_cons rest
  rw [shape]
  cases after with
  | nil => rfl
  | cons third after =>
    have different : second ≠ dashes := by
      rintro rfl
      rcases Text.lines_eq_cons shape with ⟨none, -⟩ | ⟨more, same, -⟩
      · nomatch none
      · exact other more same
    rw [divide, if_neg different]

theorem map_lines_pieces (t : Text) : (pieces t).map Text.lines = divide (Text.lines t) := by
  induction size : t.length using Nat.strong_induction_on generalizing t with
  | _ n ih =>
    obtain ⟨line, after, shape⟩ := Text.exists_lines_eq_cons t
    have single := Text.notMem_of_mem_lines (shape ▸ List.mem_cons_self : line ∈ Text.lines t)
    rcases Text.lines_eq_cons shape with ⟨-, rfl⟩ | ⟨rest, rfl, -⟩
    · rw [pieces_of_notMem single, List.map_singleton, Text.lines_of_notMem single, divide]
      exact fun _ _ _ _ many => nomatch many
    · rw [List.length_append, List.length_cons] at size
      by_cases delimited : ∃ more, rest = dashes ++ '\n' :: more
      · obtain ⟨more, rfl⟩ := delimited
        have joined : line ++ '\n' :: (dashes ++ '\n' :: more) = line ++ delimiter ++ more := by
          simp [delimiter, dashes]
        have free : ¬openDelimiter <:+ line := fun inside =>
          single (inside.subset List.mem_cons_self)
        have cut : Text.lines (line ++ '\n' :: (dashes ++ '\n' :: more)) =
            line :: dashes :: Text.lines more := by
          rw [Text.lines_append_cons single, Text.lines_append_cons (by decide)]
        have shorter : more.length < n := by
          rw [List.length_append, List.length_cons] at size
          omega
        rw [cut, joined, pieces_append _ _ free, pieces_of_notMem single, List.map_append,
          ih more.length shorter more rfl, divide_delimiter, List.map_singleton,
          Text.lines_of_notMem single]
        rfl
      · rw [not_exists] at delimited
        have later := ih rest.length (by omega) rest rfl
        obtain ⟨piece, others, shape⟩ := List.exists_cons_of_ne_nil (pieces_ne_nil rest)
        rw [pieces_append_lineFeed single delimited, Text.lines_append_cons single,
          divide_cons delimited, ← later, shape, List.modifyHead_cons, List.map_cons, List.map_cons,
          Text.lines_append_cons single, List.modifyHead_cons]

/-! ### Corresponding documents -/

variable {R : Text → Text → Prop}

theorem forall₂_modifyHead {α β : Type} {S : α → β → Prop} {f : α → α} {g : β → β}
    (keeps : ∀ x y, S x y → S (f x) (g y)) {xs : List α} {ys : List β}
    (related : List.Forall₂ S xs ys) : List.Forall₂ S (xs.modifyHead f) (ys.modifyHead g) := by
  cases related with
  | nil => exact .nil
  | cons first rest => exact .cons (keeps _ _ first) rest

theorem forall₂_dropWhile {α β : Type} {S : α → β → Prop} {p : α → Bool} {q : β → Bool}
    (agree : ∀ x y, S x y → p x = q y) {xs : List α} {ys : List β}
    (related : List.Forall₂ S xs ys) : List.Forall₂ S (xs.dropWhile p) (ys.dropWhile q) := by
  induction related with
  | nil => exact .nil
  | @cons x y xs ys first rest ih =>
    rw [List.dropWhile_cons, List.dropWhile_cons, agree x y first]
    split
    · exact ih
    · exact .cons first rest

theorem map_eq_of_forall₂ {α β γ : Type} {f : α → γ} {g : β → γ} {xs : List α} {ys : List β}
    (related : List.Forall₂ (fun x y => f x = g y) xs ys) : xs.map f = ys.map g := by
  induction related with
  | nil => rfl
  | cons first _ ih => rw [List.map_cons, List.map_cons, first, ih]

theorem forall₂_divide (same : ∀ l l', R l l' → (l = dashes ↔ l' = dashes)) {xs ys : List Text}
    (related : List.Forall₂ R xs ys) : List.Forall₂ (List.Forall₂ R) (divide xs) (divide ys) := by
  fun_induction divide xs generalizing ys with
  | case1 line third after ih =>
    cases related with
    | cons first rest =>
      cases rest with
      | cons second rest =>
        cases rest with
        | cons third after =>
          rw [divide, if_pos ((same _ _ second).mp rfl)]
          exact .cons (.cons first .nil) (ih (.cons third after))
  | case2 line second third after other ih =>
    cases related with
    | cons first rest =>
      cases rest with
      | cons here rest =>
        cases rest with
        | cons third after =>
          rw [divide, if_neg fun dashes => other ((same _ _ here).mpr dashes)]
          exact forall₂_modifyHead (fun _ _ tail => .cons first tail) (ih (.cons here (.cons third after)))
  | case3 lines few =>
    have fewer : divide ys = [ys] := by
      rw [divide]
      rintro line second third after rfl
      cases related with
      | cons first rest =>
        cases rest with
        | cons second rest =>
          cases rest with
          | cons third after => exact few _ _ _ _ rfl
    rw [fewer]
    exact .cons related .nil

/-- Documents whose lines correspond, those of dashes to each other, have corresponding pieces. -/
theorem forall₂_pieces (same : ∀ l l', R l l' → (l = dashes ↔ l' = dashes)) {d d' : Text}
    (related : List.Forall₂ R (Text.lines d) (Text.lines d')) :
    List.Forall₂ (fun p p' => List.Forall₂ R (Text.lines p) (Text.lines p')) (pieces d)
      (pieces d') := by
  have divided := forall₂_divide same related
  rw [← map_lines_pieces, ← map_lines_pieces, List.forall₂_map_left_iff,
    List.forall₂_map_right_iff] at divided
  exact divided

end Storygraph
