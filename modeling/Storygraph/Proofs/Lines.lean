import Mathlib.Data.List.DropRight
import Storygraph.Text.Blank

/-!
# Lines and blanks

How the lines of texts fall when the texts are put together, and what is left of them by trimming.
`map_trim_lines` says that trimming a text removes blank lines at both ends and blanks inside the
first and the last line that stay, and nothing else.
-/

namespace Storygraph.Text

/-- The line of a text that has a number, counted from one. -/
def lineAt? (t : Text) : Nat → Option Text
  | 0 => none
  | n + 1 => (lines t)[n]?

theorem lineAt?_add_one (t : Text) (n : Nat) : t.lineAt? (n + 1) = (lines t)[n]? := rfl

theorem mem_lines_of_lineAt? {t line : Text} {n : Nat} (here : t.lineAt? n = some line) :
    line ∈ lines t := by
  cases n with
  | zero => cases here
  | succ n => exact List.mem_of_getElem? here

/-! ### Lines of joined texts -/

theorem splitAt_ne_nil (sep : Char) (t : Text) : splitAt sep t ≠ [] := by
  cases t with
  | nil => exact List.cons_ne_nil _ _
  | cons c t =>
    rw [splitAt]
    split
    · exact List.cons_ne_nil _ _
    · cases splitAt sep t <;> exact List.cons_ne_nil _ _

theorem exists_lines_eq_cons (t : Text) : ∃ first after, lines t = first :: after :=
  List.exists_cons_of_ne_nil (splitAt_ne_nil '\n' t)

theorem lines_lineFeed (t : Text) : lines ('\n' :: t) = [] :: lines t := rfl

theorem lines_cons {c : Char} (t : Text) (other : c ≠ '\n') :
    lines (c :: t) = consHead c (lines t) := by
  rw [lines, splitAt, if_neg other, lines]

/-- The last line of a text goes on as the first line of the text after it. -/
theorem lines_append (a b : Text) :
    ∃ before last first after, lines a = before ++ [last] ∧ lines b = first :: after ∧
      lines (a ++ b) = before ++ (last ++ first) :: after := by
  induction a with
  | nil =>
    obtain ⟨first, after, same⟩ := exists_lines_eq_cons b
    exact ⟨[], [], first, after, rfl, same, same⟩
  | cons c a ih =>
    obtain ⟨before, last, first, after, left, right, joined⟩ := ih
    by_cases feed : c = '\n'
    · subst feed
      refine ⟨[] :: before, last, first, after, ?_, right, ?_⟩
      · rw [lines_lineFeed, left, List.cons_append]
      · rw [List.cons_append, lines_lineFeed, joined, List.cons_append]
    · rw [List.cons_append, lines_cons _ feed, lines_cons _ feed, left, joined]
      cases before with
      | nil => exact ⟨[], c :: last, first, after, rfl, right, rfl⟩
      | cons head before => exact ⟨(c :: head) :: before, last, first, after, rfl, right, rfl⟩

theorem lines_append_lineFeed (a b : Text) : lines (a ++ '\n' :: b) = lines a ++ lines b := by
  obtain ⟨before, last, first, after, left, right, joined⟩ := lines_append a ('\n' :: b)
  rw [lines_lineFeed, List.cons.injEq] at right
  obtain ⟨rfl, rfl⟩ := right
  rw [joined, left, List.append_nil, List.append_assoc, List.singleton_append]

theorem length_lines (t : Text) : (lines t).length = lineFeeds t + 1 := by
  induction t with
  | nil => rfl
  | cons c t ih =>
    by_cases feed : c = '\n'
    · subst feed
      rw [lines_lineFeed, List.length_cons, ih, lineFeeds, lineFeeds, List.count_cons_self]
    · have same : (consHead c (lines t)).length = (lines t).length := by
        obtain ⟨first, after, shape⟩ := exists_lines_eq_cons t
        rw [shape]
        rfl
      rw [lines_cons t feed, same, ih, lineFeeds, lineFeeds,
        List.count_cons_of_ne feed]

theorem mem_of_mem_lines {t line : Text} {c : Char} (of : line ∈ lines t) (member : c ∈ line) :
    c ∈ t := by
  induction t generalizing line with
  | nil =>
    rw [List.mem_singleton.mp of] at member
    exact member
  | cons d t ih =>
    by_cases feed : d = '\n'
    · subst feed
      rw [lines_lineFeed] at of
      rcases List.mem_cons.mp of with rfl | later
      · nomatch member
      · exact List.mem_cons_of_mem _ (ih later member)
    · rw [lines_cons t feed] at of
      obtain ⟨first, after, shape⟩ := exists_lines_eq_cons t
      rw [shape, consHead] at of
      rw [shape] at ih
      rcases List.mem_cons.mp of with rfl | later
      · rcases List.mem_cons.mp member with rfl | inside
        · exact List.mem_cons_self
        · exact List.mem_cons_of_mem _ (ih List.mem_cons_self inside)
      · exact List.mem_cons_of_mem _ (ih (List.mem_cons_of_mem _ later) member)

/-! ### First lines -/

theorem lines_of_notMem {t : Text} (single : '\n' ∉ t) : lines t = [t] := by
  induction t with
  | nil => rfl
  | cons c t ih =>
    rw [List.mem_cons, not_or] at single
    rw [lines_cons t (Ne.symm single.1), ih single.2]
    rfl

theorem notMem_of_mem_lines {t line : Text} (of : line ∈ lines t) : '\n' ∉ line := by
  induction t generalizing line with
  | nil =>
    rw [List.mem_singleton.mp of]
    exact List.not_mem_nil
  | cons c t ih =>
    by_cases feed : c = '\n'
    · subst feed
      rw [lines_lineFeed] at of
      rcases List.mem_cons.mp of with rfl | later
      · exact List.not_mem_nil
      · exact ih later
    · obtain ⟨first, after, shape⟩ := exists_lines_eq_cons t
      rw [lines_cons t feed, shape, consHead] at of
      rw [shape] at ih
      rcases List.mem_cons.mp of with rfl | later
      · rw [List.mem_cons, not_or]
        exact ⟨Ne.symm feed, ih List.mem_cons_self⟩
      · exact ih (List.mem_cons_of_mem _ later)

theorem lines_eq_cons {t line : Text} {after : List Text} (shape : lines t = line :: after) :
    (after = [] ∧ t = line) ∨ ∃ rest, t = line ++ '\n' :: rest ∧ lines rest = after := by
  have single := notMem_of_mem_lines (shape ▸ List.mem_cons_self : line ∈ lines t)
  by_cases feed : '\n' ∈ t
  · obtain ⟨first, rest, rfl, clear⟩ := List.eq_append_cons_of_mem feed
    rw [lines_append_lineFeed, lines_of_notMem clear, List.singleton_append,
      List.cons.injEq] at shape
    obtain ⟨rfl, same⟩ := shape
    exact Or.inr ⟨rest, rfl, same⟩
  · rw [lines_of_notMem feed, List.cons.injEq] at shape
    exact Or.inl ⟨shape.2.symm, shape.1⟩

theorem lines_append_cons {line rest : Text} (single : '\n' ∉ line) :
    lines (line ++ '\n' :: rest) = line :: lines rest := by
  rw [lines_append_lineFeed, lines_of_notMem single, List.singleton_append]

/-! ### Joined pieces -/

theorem join_cons (sep piece : Text) (rest : List Text) :
    join sep (piece :: rest) = piece ++ rest.flatMap (sep ++ ·) := by
  induction rest generalizing piece with
  | nil => simp [join]
  | cons next rest ih => simp [join, ih]

theorem lines_append_flatMap (first : Text) (rest : List Text) :
    lines (first ++ rest.flatMap ('\n' :: ·)) = lines first ++ rest.flatMap lines := by
  induction rest generalizing first with
  | nil => simp
  | cons next rest ih =>
    rw [List.flatMap_cons, List.flatMap_cons, List.cons_append, lines_append_lineFeed, ih]

theorem lines_join {texts : List Text} (some : texts ≠ []) :
    lines (join ['\n'] texts) = texts.flatMap lines := by
  obtain ⟨first, rest, rfl⟩ := List.exists_cons_of_ne_nil some
  rw [join_cons]
  exact lines_append_flatMap first rest

theorem join_cons_of_ne_nil (sep piece : Text) {rest : List Text} (some : rest ≠ []) :
    join sep (piece :: rest) = piece ++ sep ++ join sep rest := by
  cases rest with
  | nil => exact absurd rfl some
  | cons next rest => rfl

theorem join_append (sep : Text) {xs ys : List Text} (left : xs ≠ []) (right : ys ≠ []) :
    join sep (xs ++ ys) = join sep xs ++ sep ++ join sep ys := by
  induction xs with
  | nil => exact absurd rfl left
  | cons x xs ih =>
    rw [List.cons_append, join_cons_of_ne_nil sep x (List.append_ne_nil_of_right_ne_nil xs right)]
    cases xs with
    | nil => rfl
    | cons next xs =>
      rw [ih (List.cons_ne_nil _ _), join_cons_of_ne_nil sep x (List.cons_ne_nil _ _)]
      simp only [List.append_assoc]

/-! ### Trimming -/

variable {t blanks : Text}

theorem trim_append_left (t : Text) (blank : ∀ c ∈ blanks, isBlank c = true) :
    trim (blanks ++ t) = trim t := by
  rw [trim, trimStart, List.dropWhile_append_of_pos blank]
  rfl

theorem trimEnd_append (t : Text) (blank : ∀ c ∈ blanks, isBlank c = true) :
    trimEnd (t ++ blanks) = trimEnd t := by
  have reversed : ∀ c ∈ blanks.reverse, isBlank c = true :=
    fun c member => blank c (List.mem_reverse.mp member)
  rw [trimEnd, List.reverse_append, List.dropWhile_append_of_pos reversed]
  rfl

theorem trim_eq_nil_iff : trim t = [] ↔ ∀ c ∈ t, isBlank c = true := by
  have ends : trim t = [] ↔ ∀ c ∈ trimStart t, isBlank c = true := List.rdropWhile_eq_nil_iff
  rw [ends]
  constructor
  · intro rest c member
    rw [← List.takeWhile_append_dropWhile (p := isBlank) (l := t)] at member
    rcases List.mem_append.mp member with start | inside
    · exact List.mem_takeWhile_imp start
    · exact rest c inside
  · exact fun blank c member => blank c ((List.dropWhile_sublist isBlank).mem member)

theorem trim_append_right (t : Text) (blank : ∀ c ∈ blanks, isBlank c = true) :
    trim (t ++ blanks) = trim t := by
  rw [trim, trimStart, List.dropWhile_append]
  split
  · rename_i nothing
    have before : trim t = [] := by
      rw [trim, trimStart, List.isEmpty_iff.mp nothing]
      rfl
    rw [before]
    exact trim_eq_nil_iff.mpr blank
  · exact trimEnd_append _ blank

def blankEnd (t : Text) : Text := (trimStart t).rtakeWhile isBlank

theorem isBlank_of_mem_blankEnd {c : Char} (member : c ∈ blankEnd t) : isBlank c = true :=
  List.mem_rtakeWhile_imp member

theorem eq_append_trim (t : Text) : t.takeWhile isBlank ++ trim t ++ blankEnd t = t := by
  have ends : trim t ++ blankEnd t = trimStart t := List.rdropWhile_append_rtakeWhile
  rw [List.append_assoc, ends]
  exact List.takeWhile_append_dropWhile

theorem trim_trim (t : Text) : trim (trim t) = trim t := by
  have whole := congrArg trim (eq_append_trim t)
  rw [trim_append_right _ fun c => isBlank_of_mem_blankEnd,
    trim_append_left _ fun c => List.mem_takeWhile_imp] at whole
  exact whole

/-! ### Lines of trimmed texts -/

theorem map_trim_lines_of_blank (blank : ∀ c ∈ blanks, isBlank c = true) :
    (lines blanks).map trim = List.replicate (lineFeeds blanks + 1) [] := by
  rw [List.eq_replicate_iff, List.length_map, length_lines]
  refine ⟨rfl, ?_⟩
  intro line member
  obtain ⟨raw, of, rfl⟩ := List.mem_map.mp member
  exact trim_eq_nil_iff.mpr fun c inside => blank c (mem_of_mem_lines of inside)

theorem map_trim_lines_append_left (t : Text) (blank : ∀ c ∈ blanks, isBlank c = true) :
    (lines (blanks ++ t)).map trim =
      List.replicate (lineFeeds blanks) [] ++ (lines t).map trim := by
  obtain ⟨before, last, first, after, left, right, joined⟩ := lines_append blanks t
  have empty := map_trim_lines_of_blank blank
  rw [left, List.map_append, List.replicate_succ'] at empty
  have sides := List.append_inj' empty rfl
  have inside : ∀ c ∈ last, isBlank c = true := fun c member =>
    blank c (mem_of_mem_lines (left ▸ List.mem_append_right _ List.mem_cons_self) member)
  rw [joined, right, List.map_append, sides.1, List.map_cons, List.map_cons,
    trim_append_left first inside]

theorem map_trim_lines_append_right (t : Text) (blank : ∀ c ∈ blanks, isBlank c = true) :
    (lines (t ++ blanks)).map trim =
      (lines t).map trim ++ List.replicate (lineFeeds blanks) [] := by
  obtain ⟨before, last, first, after, left, right, joined⟩ := lines_append t blanks
  have empty := map_trim_lines_of_blank blank
  rw [right, List.map_cons, List.replicate_succ, List.cons.injEq] at empty
  have inside : ∀ c ∈ first, isBlank c = true := fun c member =>
    blank c (mem_of_mem_lines (right ▸ List.mem_cons_self) member)
  rw [joined, left, List.map_append, List.map_cons, trim_append_right last inside, empty.2,
    List.map_append, List.append_assoc, List.map_singleton, List.singleton_append]

theorem map_trim_lines (t : Text) :
    (lines t).map trim = List.replicate (lineFeeds (t.takeWhile isBlank)) [] ++
      ((lines (trim t)).map trim ++ List.replicate (lineFeeds (blankEnd t)) []) := by
  have split := eq_append_trim t
  rw [List.append_assoc] at split
  conv => lhs; rw [← split]
  rw [map_trim_lines_append_left _ fun c => List.mem_takeWhile_imp,
    map_trim_lines_append_right _ fun c => isBlank_of_mem_blankEnd]

end Storygraph.Text
