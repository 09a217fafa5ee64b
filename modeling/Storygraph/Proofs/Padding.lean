import Storygraph.Proofs.Dividers
import Storygraph.Proofs.Names
import Storygraph.Compilation

/-!
# Padded documents

Blanks at the ends of lines have no meaning: `ofDocument_padded` says that a document compiles to
the same graphs and warnings once blanks are added around its lines, and that the names of sections
stay too where they are added at the ends of lines only.
-/

namespace Storygraph

namespace Text

/-- A line with more blanks around it. A line of dashes stays as it is. -/
def PaddedLine (line padded : Text) : Prop :=
  ∃ left right, padded = left ++ line ++ right ∧ (∀ c ∈ left ++ right, isBlank c = true) ∧
    (trim line = dashes → padded = line)

def Lengthened (line longer : Text) : Prop :=
  ∃ right, longer = line ++ right ∧ ∀ c ∈ right, isBlank c = true

def PaddedAtEnd (line padded : Text) : Prop :=
  Lengthened line padded ∧ (trim line = dashes → padded = line)

def Padded (document padded : Text) : Prop :=
  List.Forall₂ PaddedLine (lines document) (lines padded)

variable {t line padded : Text}

theorem PaddedAtEnd.paddedLine (h : PaddedAtEnd line padded) : PaddedLine line padded := by
  obtain ⟨⟨right, rfl, blank⟩, dashed⟩ := h
  exact ⟨[], right, rfl, blank, dashed⟩

theorem PaddedLine.trim_eq (h : PaddedLine line padded) : trim padded = trim line := by
  obtain ⟨left, right, rfl, blank, -⟩ := h
  rw [trim_append_right _ fun c member => blank c (List.mem_append_right _ member),
    trim_append_left _ fun c member => blank c (List.mem_append_left _ member)]

theorem PaddedLine.eq_dashes_iff (h : PaddedLine line padded) :
    line = dashes ↔ padded = dashes := by
  have same := h.trim_eq
  obtain ⟨left, right, -, -, dashed⟩ := h
  constructor
  · rintro rfl
    exact dashed (by decide)
  · rintro rfl
    exact (dashed (same.symm.trans (by decide))).symm

/-! ### Lines between blank ones -/

theorem isBlank_of_head?_trim {c : Char} (first : c ∈ (trim t).head?) : isBlank c = false := by
  obtain ⟨body, shape⟩ := List.head?_eq_some_iff.mp first
  obtain ⟨ends, whole⟩ : trim t <+: trimStart t := List.rdropWhile_prefix isBlank _
  rw [shape] at whole
  have stopped := List.head?_dropWhile_not isBlank t
  rw [show t.dropWhile isBlank = c :: (body ++ ends) from whole.symm] at stopped
  simpa using stopped

theorem head?_lines_trim (visible : trim t ≠ []) :
    ∃ first ∈ ((lines (trim t)).map trim).head?, first ≠ [] := by
  obtain ⟨c, body, shape⟩ := List.exists_cons_of_ne_nil visible
  have shown : isBlank c = false := isBlank_of_head?_trim (t := t) (by rw [shape]; rfl)
  have inside : c ≠ '\n' := by
    rintro rfl
    exact absurd shown (by decide)
  obtain ⟨first, after, rest⟩ := exists_lines_eq_cons body
  refine ⟨trim (c :: first), ?_, trim_cons_ne_nil first shown⟩
  rw [shape, lines_cons body inside, rest]
  rfl

theorem getLast?_lines_trim (visible : trim t ≠ []) :
    ∃ last ∈ ((lines (trim t)).map trim).getLast?, last ≠ [] := by
  obtain ⟨body, c, shape⟩ := (List.eq_nil_or_concat' (trim t)).resolve_left visible
  have shown := Section.endsVisibly_of_trim (trim_trim t) c (by rw [shape]; simp)
  have inside : c ≠ '\n' := by
    rintro rfl
    exact absurd shown (by decide)
  obtain ⟨before, last, first, after, -, right, joined⟩ := lines_append body [c]
  rw [lines_of_notMem (by simpa using inside.symm), List.cons.injEq] at right
  obtain ⟨rfl, rfl⟩ := right
  refine ⟨trim (last ++ [c]), ?_, ?_⟩
  · rw [shape, joined]
    simp
  · intro blank
    have := trim_eq_nil_iff.mp blank c (List.mem_append_right _ List.mem_cons_self)
    rw [shown] at this
    exact Bool.false_ne_true this

theorem replicate_nil_append_inj {a a' : Nat} {xs ys : List Text}
    (left : ∃ first ∈ xs.head?, first ≠ []) (right : ∃ first ∈ ys.head?, first ≠ [])
    (same : List.replicate a [] ++ xs = List.replicate a' [] ++ ys) : a = a' ∧ xs = ys := by
  have count : ∀ {n : Nat} {zs : List Text}, (∃ first ∈ zs.head?, first ≠ []) →
      ((List.replicate n [] ++ zs).takeWhile (· = [])).length = n := by
    rintro n zs ⟨first, start, shown⟩
    obtain ⟨rest, rfl⟩ := List.head?_eq_some_iff.mp start
    rw [List.takeWhile_append_of_pos (by simp), List.takeWhile_cons_of_neg (by simpa using shown)]
    simp
  have counts := count (n := a) left
  rw [same, count right] at counts
  subst counts
  exact ⟨rfl, List.append_cancel_left same⟩

/-- What is left of the lines of a text once it is trimmed depends on its trimmed lines alone. -/
theorem lines_trim_congr {t t' : Text} (visible : trim t ≠ []) (visible' : trim t' ≠ [])
    (same : (lines t).map trim = (lines t').map trim) :
    lineFeeds (t.takeWhile isBlank) = lineFeeds (t'.takeWhile isBlank) ∧
      (lines (trim t)).map trim = (lines (trim t')).map trim := by
  have starts : ∀ {t : Text}, trim t ≠ [] → ∀ n, ∃ first ∈
      ((lines (trim t)).map trim ++ List.replicate n []).head?, first ≠ [] := by
    intro t visible n
    obtain ⟨first, start, shown⟩ := head?_lines_trim visible
    exact ⟨first, by rw [List.head?_append, start]; rfl, shown⟩
  have stops : ∀ {t : Text}, trim t ≠ [] → ∃ first ∈
      ((lines (trim t)).map trim).reverse.head?, first ≠ [] := by
    intro t visible
    rw [List.head?_reverse]
    exact getLast?_lines_trim visible
  rw [map_trim_lines t, map_trim_lines t'] at same
  obtain ⟨before, rest⟩ := replicate_nil_append_inj (starts visible _) (starts visible' _) same
  have turned := congrArg List.reverse rest
  rw [List.reverse_append, List.reverse_append, List.reverse_replicate,
    List.reverse_replicate] at turned
  obtain ⟨-, middle⟩ := replicate_nil_append_inj (stops visible) (stops visible') turned
  exact ⟨before, List.reverse_injective middle⟩

theorem trim_eq_nil_iff_lines : trim t = [] ↔ ∀ line ∈ (lines t).map trim, line = [] := by
  constructor
  · intro blank line member
    rw [map_trim_lines_of_blank (trim_eq_nil_iff.mp blank)] at member
    exact List.eq_of_mem_replicate member
  · intro blank
    by_contra visible
    obtain ⟨first, start, shown⟩ := head?_lines_trim visible
    apply shown (blank first _)
    rw [map_trim_lines]
    simp [List.mem_of_head? start]

/-! ### Lines with more blanks at their ends -/

theorem trimStart_append_of_visible {a : Text} (b : Text) (visible : trim a ≠ []) :
    trimStart (a ++ b) = trimStart a ++ b := by
  rw [trimStart, List.dropWhile_append, if_neg]
  · rfl
  · intro none
    apply visible
    rw [trim, trimStart, List.isEmpty_iff.mp none]
    rfl

theorem trimStart_of_blank {a : Text} (blank : trim a = []) : trimStart a = [] :=
  List.dropWhile_eq_nil_iff.mpr (trim_eq_nil_iff.mp blank)

theorem Lengthened.trim_eq (h : Lengthened line padded) : trim padded = trim line := by
  obtain ⟨right, rfl, blank⟩ := h
  exact trim_append_right line blank

theorem Lengthened.trimStart (h : Lengthened line padded) :
    Lengthened (Text.trimStart line) (Text.trimStart padded) := by
  have same := h.trim_eq
  obtain ⟨right, rfl, blank⟩ := h
  by_cases visible : trim line = []
  · rw [trimStart_of_blank visible, trimStart_of_blank (same.trans visible)]
    exact ⟨[], rfl, by simp⟩
  · exact ⟨right, trimStart_append_of_visible right visible, blank⟩

/-- Blanks at the start of a text: its blank lines go, and those at the start of the next line. -/
theorem lines_trimStart (visible : trim t ≠ []) :
    lines (trimStart t) = ((lines t).dropWhile (trim · = [])).modifyHead trimStart := by
  induction shape : lines t generalizing t with
  | nil => exact absurd shape (splitAt_ne_nil '\n' t)
  | cons line after ih =>
    have single := notMem_of_mem_lines (shape ▸ List.mem_cons_self : line ∈ lines t)
    have shorter : '\n' ∉ trimStart line := fun member =>
      single ((List.dropWhile_sublist isBlank).mem member)
    rcases lines_eq_cons shape with ⟨rfl, rfl⟩ | ⟨rest, rfl, rfl⟩
    · rw [List.dropWhile_cons_of_neg (by simpa using visible), List.modifyHead_cons,
        lines_of_notMem shorter]
    · by_cases blank : trim line = []
      · have gone : ∀ c ∈ line ++ ['\n'], isBlank c = true := by
          intro c member
          rcases List.mem_append.mp member with inside | feed
          · exact trim_eq_nil_iff.mp blank c inside
          · rw [List.mem_singleton.mp feed]
            decide
        rw [List.append_cons, trim_append_left rest gone] at visible
        rw [List.append_cons, trimStart, List.dropWhile_append_of_pos gone,
          List.dropWhile_cons_of_pos (by simpa using blank)]
        exact ih visible rfl
      · rw [trimStart_append_of_visible _ blank, lines_append_cons shorter,
          List.dropWhile_cons_of_neg (by simpa using blank), List.modifyHead_cons]

theorem firstVisible?_append_blank (texts : List Text) {after : List Text}
    (blank : ∀ t ∈ after, trim t = []) :
    firstVisible? (texts ++ after) = firstVisible? texts := by
  have nothing : firstVisible? after = none := by
    rw [← List.append_nil after, firstVisible?_append_of_blank [] blank]
    rfl
  unfold firstVisible? at nothing ⊢
  rw [List.map_append, List.find?_append, nothing, Option.or_none]

end Text

namespace Section

theorem isMarked_append {line right : Text} (blank : ∀ c ∈ right, isBlank c = true) :
    isMarked (line ++ right) = isMarked line := by
  cases right with
  | nil => rw [List.append_nil]
  | cons c right =>
    apply startsWithAscii_append_cons
    have here : isBlank c = true := blank c List.mem_cons_self
    rw [asciiLower_of_isBlank here]
    intro inside
    have visible : (Text.asciiLower nameMark).any isBlank = false := by decide
    exact List.any_eq_false.mp visible c inside here

theorem nameFrom?_append_blank {lines after : List Text} (blank : ∀ t ∈ after, Text.trim t = []) :
    nameFrom? (lines ++ after) = nameFrom? lines := by
  induction lines with
  | nil =>
    exact nameFrom?_eq_none (Text.firstVisible?_append_blank [] blank)
  | cons line lines ih =>
    rw [List.cons_append, nameFrom?, nameFrom?, ih, ← List.cons_append,
      Text.firstVisible?_append_blank _ blank]

theorem nameFrom?_congr {lines longer : List Text}
    (related : List.Forall₂ Text.Lengthened lines longer) : nameFrom? longer = nameFrom? lines := by
  induction related with
  | nil => rfl
  | @cons line other lines longer here rest ih =>
    obtain ⟨right, rfl, blank⟩ := here
    rw [nameFrom?, nameFrom?, ih, isMarked_append blank]
    split
    · rename_i marked
      have after : afterMark (line ++ right) = afterMark line ++ right :=
        List.drop_append_of_le_length (length_of_isMarked marked)
      have below : longer.map Text.trim = lines.map Text.trim := by
        have same := rest.imp fun _ _ h => (Text.Lengthened.trim_eq h).symm
        exact (map_eq_of_forall₂ same).symm
      rw [after, Text.firstVisible?, Text.firstVisible?, List.map_cons, List.map_cons, below,
        Text.trim_append_right _ blank]
    · rfl

theorem firstName?_trim {t : Text} (visible : Text.trim t ≠ []) :
    firstName? true (Text.trim t) =
      nameFrom? (((Text.lines t).dropWhile (Text.trim · = [])).modifyHead Text.trimStart) := by
  have whole : Text.trimStart t = Text.trim t ++ Text.blankEnd t :=
    List.rdropWhile_append_rtakeWhile.symm
  obtain ⟨before, last, first, after, left, right, joined⟩ :=
    Text.lines_append (Text.trim t) (Text.blankEnd t)
  have blank : ∀ line ∈ first :: after, ∀ c ∈ line, isBlank c = true := fun line of c member =>
    Text.isBlank_of_mem_blankEnd (Text.mem_of_mem_lines (right ▸ of) member)
  rw [← Text.lines_trimStart visible, whole, joined,
    firstName?_eq_nameFrom? (endsVisibly_of_trim (Text.trim_trim t)), left,
    List.append_cons before (last ++ first) after,
    nameFrom?_append_blank fun line of =>
      Text.trim_eq_nil_iff.mpr (blank line (List.mem_cons_of_mem _ of))]
  symm
  apply nameFrom?_congr
  refine List.rel_append ?_ (.cons ⟨first, rfl, blank first List.mem_cons_self⟩ .nil)
  exact List.forall₂_same.mpr fun line _ => ⟨[], by simp, by simp⟩

/-! ### Sections of corresponding pieces -/

theorem forall₂_ofPieces {Q : Text → Text → Prop} {R : Section → Section → Prop}
    (feeds : ∀ p p', Q p p' → Text.lineFeeds p = Text.lineFeeds p')
    (blank : ∀ p p', Q p p' → (Text.trim p = [] ↔ Text.trim p' = []))
    (keeps : ∀ index line p p', Q p p' → Text.trim p ≠ [] →
      R ⟨index, Text.trim p, line + Text.lineFeeds (p.takeWhile isBlank)⟩
        ⟨index, Text.trim p', line + Text.lineFeeds (p'.takeWhile isBlank)⟩)
    {ps ps' : List Text} (related : List.Forall₂ Q ps ps') (index line : Nat) :
    List.Forall₂ R (ofPieces index line ps) (ofPieces index line ps') := by
  induction related generalizing index line with
  | nil => exact .nil
  | @cons p p' ps ps' first _ ih =>
    rw [ofPieces, ofPieces, ← feeds p p' first]
    by_cases empty : Text.trim p = []
    · rw [if_pos empty, if_pos ((blank p p' first).mp empty)]
      exact ih _ _
    · rw [if_neg empty, if_neg (mt (blank p p' first).mpr empty)]
      exact .cons (keeps index line p p' first empty) (ih _ _)

end Section

/-! ### Padded documents -/

namespace Text

variable {p p' : Text}

theorem lineFeeds_of_forall₂ {R : Text → Text → Prop}
    (related : List.Forall₂ R (lines p) (lines p')) : lineFeeds p = lineFeeds p' := by
  have lengths := related.length_eq
  rw [length_lines, length_lines] at lengths
  omega

theorem map_trim_of_padded (padded : Padded p p') : (lines p).map trim = (lines p').map trim :=
  map_eq_of_forall₂ (padded.imp fun _ _ h => h.trim_eq.symm)

theorem map_trim_of_lengthened (longer : List.Forall₂ Lengthened (lines p) (lines p')) :
    (lines p).map trim = (lines p').map trim :=
  map_eq_of_forall₂ (longer.imp fun _ _ h => h.trim_eq.symm)

theorem trim_eq_nil_iff_congr (same : (lines p).map trim = (lines p').map trim) :
    trim p = [] ↔ trim p' = [] := by
  rw [trim_eq_nil_iff_lines, trim_eq_nil_iff_lines, same]

theorem trim_eq_nil_iff_of_padded (padded : Padded p p') : trim p = [] ↔ trim p' = [] :=
  trim_eq_nil_iff_congr (map_trim_of_padded padded)

end Text

namespace Section

variable {d d' p p' : Text}

theorem lines_congr (same : (Text.lines p).map Text.trim = (Text.lines p').map Text.trim)
    (visible : Text.trim p ≠ []) (index line : Nat) :
    lines ⟨index, Text.trim p, line + Text.lineFeeds (p.takeWhile isBlank)⟩ =
      lines ⟨index, Text.trim p', line + Text.lineFeeds (p'.takeWhile isBlank)⟩ := by
  have visible' := mt (Text.trim_eq_nil_iff_congr same).mpr visible
  obtain ⟨before, middle⟩ := Text.lines_trim_congr visible visible' same
  rw [lines, lines, before, middle]

theorem firstName?_congr (longer : List.Forall₂ Text.Lengthened (Text.lines p) (Text.lines p'))
    (visible : Text.trim p ≠ []) :
    firstName? true (Text.trim p) = firstName? true (Text.trim p') := by
  have same := Text.map_trim_of_lengthened longer
  have visible' := mt (Text.trim_eq_nil_iff_congr same).mpr visible
  rw [firstName?_trim visible, firstName?_trim visible']
  symm
  apply nameFrom?_congr
  apply forall₂_modifyHead fun _ _ => Text.Lengthened.trimStart
  apply forall₂_dropWhile ?_ longer
  intro line other h
  rw [h.trim_eq]

/-- Blanks at the ends of the lines of pieces change neither the lines nor the names of sections. -/
theorem forall₂_ofPieces_lengthened {ps ps' : List Text}
    (longer : List.Forall₂ (fun p p' =>
      List.Forall₂ Text.Lengthened (Text.lines p) (Text.lines p')) ps ps') (index line : Nat) :
    List.Forall₂ (fun s s' => s.lines = s'.lines ∧ s.name = s'.name) (ofPieces index line ps)
      (ofPieces index line ps') := by
  apply forall₂_ofPieces (fun _ _ => Text.lineFeeds_of_forall₂)
    (fun _ _ h => Text.trim_eq_nil_iff_congr (Text.map_trim_of_lengthened h)) ?_ longer
  intro index line p p' longer visible
  refine ⟨lines_congr (Text.map_trim_of_lengthened longer) visible index line, ?_⟩
  rw [name, name, nameOf, nameOf, firstName?_congr longer visible]

theorem forall₂_split_padded (padded : Text.Padded d d') :
    List.Forall₂ (fun s s' => s.lines = s'.lines) (split d) (split d') := by
  have related := forall₂_pieces (fun _ _ => Text.PaddedLine.eq_dashes_iff) padded
  apply forall₂_ofPieces (fun _ _ => Text.lineFeeds_of_forall₂)
    (fun _ _ => Text.trim_eq_nil_iff_of_padded) ?_ related
  intro index line p p' padded visible
  exact lines_congr (Text.map_trim_of_padded padded) visible index line

theorem forall₂_split_paddedAtEnd
    (padded : List.Forall₂ Text.PaddedAtEnd (Text.lines d) (Text.lines d')) :
    List.Forall₂ (fun s s' => s.lines = s'.lines ∧ s.name = s'.name) (split d) (split d') := by
  have related := forall₂_pieces (fun _ _ h => (Text.PaddedAtEnd.paddedLine h).eq_dashes_iff) padded
  exact forall₂_ofPieces_lengthened (related.imp fun _ _ h => h.imp fun _ _ => And.left) 0 1

/-- Without its name, the graph of a section is a matter of its lines. -/
theorem graph_eq_of_lines {s s' : Section} (c : Classifier) (same : s.lines = s'.lines) :
    s.graph c = { s'.graph c with name := s.name } := by
  rw [graph, graph, same]

end Section

/-- A document with more blanks around its lines compiles to the same nodes, edges and warnings, and
to the very same if there are more at the ends of lines only. -/
theorem ofDocument_padded (c : Classifier) {d d' : Text} (padded : Text.Padded d d') :
    let r := Compilation.ofDocument c d
    let r' := Compilation.ofDocument c d'
    r'.sections.map (fun g => (g.nodes, g.edges)) = r.sections.map (fun g => (g.nodes, g.edges)) ∧
      r'.warnings = r.warnings ∧
      (List.Forall₂ Text.PaddedAtEnd (Text.lines d) (Text.lines d') → r' = r) := by
  have related := Section.forall₂_split_padded padded
  have warnings : (Section.split d).map (·.warnings) = (Section.split d').map (·.warnings) :=
    map_eq_of_forall₂ (related.imp fun s s' same => by rw [Section.warnings, Section.warnings, same])
  have sameWarnings : (Compilation.ofDocument c d').warnings =
      (Compilation.ofDocument c d).warnings := by
    simp only [Compilation.ofDocument, List.flatMap_def, warnings]
  refine ⟨?_, sameWarnings, ?_⟩
  · simp only [Compilation.ofDocument, List.map_map]
    symm
    apply map_eq_of_forall₂ (related.imp ?_)
    intro s s' same
    rw [Function.comp_apply, Function.comp_apply, Section.graph_eq_of_lines c same]
  · intro atEnds
    have graphs : (Section.split d).map (·.graph c) = (Section.split d').map (·.graph c) := by
      apply map_eq_of_forall₂ ((Section.forall₂_split_paddedAtEnd atEnds).imp ?_)
      intro s s' same
      rw [Section.graph_eq_of_lines c same.1, same.2]
      rfl
    have sameSections : (Compilation.ofDocument c d').sections =
        (Compilation.ofDocument c d).sections := graphs.symm
    exact congrArg₂ Compilation.mk sameSections sameWarnings

/-- The padded document has the same stray `endif`, but its first section has lost its name: the
mark no longer stands at the start of a line. -/
theorem ofDocument_padded_mark :
    let c : Classifier := ⟨[], [], .dialogue⟩
    let d := "Start\nname: Inn\n---\nendif".toList
    let d' := "  Start\t\n name: Inn\n---\nendif\u00A0".toList
    Text.Padded d d' ∧
      (Compilation.ofDocument c d').warnings = (Compilation.ofDocument c d).warnings ∧
      (Compilation.ofDocument c d').warnings = [.strayEnd 4] ∧
      (Compilation.ofDocument c d).sections.map (·.name) = ["Inn".toList, "Section 2".toList] ∧
      (Compilation.ofDocument c d').sections.map (·.name) =
        ["Section 1".toList, "Section 2".toList] := by
  intro c d d'
  have blanks (t : Text) (all : t.all isBlank = true) : ∀ c ∈ t, isBlank c = true :=
    List.all_eq_true.mp all
  have padded : Text.Padded d d' := by
    refine .cons ⟨[' ', ' '], ['\t'], rfl, blanks _ (by decide), by decide⟩ ?_
    refine .cons ⟨[' '], [], rfl, blanks _ (by decide), by decide⟩ ?_
    refine .cons ⟨[], [], rfl, nofun, by decide⟩ ?_
    exact .cons ⟨[], ['\u00A0'], rfl, blanks _ (by decide), by decide⟩ .nil
  exact ⟨padded, (ofDocument_padded c padded).2.1, by decide +kernel, by decide +kernel,
    by decide +kernel⟩

end Storygraph
