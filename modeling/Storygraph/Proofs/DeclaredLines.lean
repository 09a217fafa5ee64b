import Storygraph.Proofs.Declarations
import Storygraph.Proofs.IgnoredLines
import Storygraph.Proofs.Provenance
import Storygraph.Proofs.Remarks

/-!
# Lines that declare names

Contents use no line that is overlooked (`not_overlooks_of_mem_contentLines`), and the built-in
classifier overlooks each line that announces a name (`Announces.overlooks`). `contents_undeclared`
puts the two together: no declaration of a document gets into the contents of its graphs.
-/

namespace Storygraph

/-! ### Contents -/

section

variable {c : Classifier}

theorem not_overlooks_of_mem_live {lines : List Line} {l : Line} (member : l ∈ c.live lines) :
    ¬c.Overlooks l.text := by
  intro unseen
  have kind := (List.mem_filter.mp member).2
  rw [unseen.ignored] at kind
  cases kind

/-- A line that is used is a header, describes options, or has a kind. -/
theorem Segment.not_overlooks_of_mem_used {g : Segment} (wellFormed : g.WellFormed) {l : Line}
    (member : l ∈ g.used c) : ¬c.Overlooks l.text := by
  cases g with
  | line m => exact not_overlooks_of_mem_live member
  | block header body ending =>
    rcases List.mem_cons.mp member with rfl | inside
    · intro unseen
      have opens := wellFormed.1
      rw [unseen.notHeader] at opens
      cases opens
    · rcases List.mem_append.mp inside with option | branch
      · intro unseen
        have describes := (List.mem_filter.mp option).2
        rw [unseen.notMetadata] at describes
        cases describes
      · rcases List.mem_append.mp branch with inTrue | inFalse
        · exact not_overlooks_of_mem_live inTrue
        · exact not_overlooks_of_mem_live inFalse

theorem Compilation.not_overlooks_of_mem_contentLines {document t : Text}
    (member : t ∈ (ofDocument c document).contentLines) : ¬c.Overlooks t := by
  obtain ⟨g, of, inside⟩ := List.mem_flatMap.mp member
  obtain ⟨s, -, rfl⟩ := List.mem_map.mp of
  obtain ⟨segments, row, cut⟩ := exists_segments s.lines
  rw [Section.contentLines_graph c row cut] at inside
  obtain ⟨l, used, rfl⟩ := List.mem_map.mp inside
  obtain ⟨segment, here, uses⟩ := List.mem_flatMap.mp used
  exact segment.not_overlooks_of_mem_used (row.wellFormed segment here) uses

/-- Different lines of a document make up all contents of its graphs. -/
theorem Compilation.exists_quoted (c : Classifier) (document : Text) :
    ∃ numbers : List Nat, numbers.Nodup ∧
      Quotes document numbers (ofDocument c document).contentLines := by
  obtain ⟨numbers, distinct, -, quoted⟩ := Section.exists_quoted_flatMap c
    ((Section.pairwise_split document).imp And.right) fun s member => member
  refine ⟨numbers, distinct, ?_⟩
  rw [contentLines, ofDocument, List.flatMap_map]
  exact quoted

end

/-! ### Lines that announce a name -/

namespace Text

theorem head?_asciiLower_of_sameAscii {k : Char} {s t : Text} (same : sameAscii t (k :: s) = true) :
    t.asciiLower.head? = some (Storygraph.asciiLower k) := by
  rw [eq_of_beq same]
  rfl

theorem sameAscii_eq_false {k : Char} {s t : Text}
    (other : t.asciiLower.head? ≠ some (Storygraph.asciiLower k)) : sameAscii t (k :: s) = false :=
  Bool.eq_false_iff.mpr (mt head?_asciiLower_of_sameAscii other)

theorem startsWithAscii_eq_false {k : Char} {s t : Text}
    (other : t.asciiLower.head? ≠ some (Storygraph.asciiLower k)) :
    startsWithAscii t (k :: s) = false := by
  apply sameAscii_eq_false
  cases t with
  | nil => exact fun none => nomatch none
  | cons c t => exact other

theorem trimEnd_append_cons {c : Char} (t u : Text) (visible : isBlank c = false) :
    trimEnd (t ++ c :: u) = t ++ c :: trimEnd u := by
  rw [trimEnd, List.reverse_append, List.reverse_cons, List.append_assoc, List.dropWhile_append]
  split
  · rename_i blank
    rw [trimEnd, List.isEmpty_iff.mp blank]
    simp [visible]
  · simp [trimEnd]

theorem trim_trimEnd (t : Text) : trim (trimEnd t) = trim t := by
  have whole : trimEnd t ++ t.rtakeWhile isBlank = t := List.rdropWhile_append_rtakeWhile
  conv => rhs; rw [← whole]
  exact (trim_append_right _ fun c => List.mem_rtakeWhile_imp).symm

end Text

namespace Declaration

variable {line rest name : Text}

/-- The first character of a line that announces a name is a blank or an n. -/
theorem Announces.head?_asciiLower (announces : Announces line rest) {c : Char}
    (first : line.asciiLower.head? = some c) : isBlank c = true ∨ c = 'n' := by
  obtain @⟨lead, word, gap, rest, lead_blank, spelled, gap_blank⟩ := announces
  cases lead with
  | nil =>
    cases word with
    | nil => cases spelled
    | cons k word =>
      obtain rfl : asciiLower k = c := Option.some.inj first
      exact Or.inr (List.cons.inj spelled).1
  | cons b lead =>
    obtain rfl : asciiLower b = c := Option.some.inj first
    exact Or.inl ((isBlank_asciiLower b).trans (lead_blank b List.mem_cons_self))

theorem Announces.head?_asciiLower_ne (announces : Announces line rest) {c : Char}
    (visible : isBlank c = false) (other : c ≠ 'n') : line.asciiLower.head? ≠ some c := by
  intro first
  rcases announces.head?_asciiLower first with blank | same
  · rw [visible] at blank
    cases blank
  · exact other same

theorem Announces.sameAscii_eq_false (announces : Announces line rest) {k : Char} {s : Text}
    (visible : isBlank (asciiLower k) = false) (other : asciiLower k ≠ 'n') :
    Text.sameAscii line (k :: s) = false :=
  Text.sameAscii_eq_false (announces.head?_asciiLower_ne visible other)

theorem Announces.startsWithAscii_eq_false (announces : Announces line rest) {k : Char} {s : Text}
    (visible : isBlank (asciiLower k) = false) (other : asciiLower k ≠ 'n') :
    Text.startsWithAscii line (k :: s) = false :=
  Text.startsWithAscii_eq_false (announces.head?_asciiLower_ne visible other)

theorem Announces.classify_builtin_eq_none (announces : Announces line rest) :
    Classifier.builtin.classify line = none := by
  have read := (exists_announces_iff fun _ => true).mp ⟨rest, announces, rfl⟩
  simp only [Text.reads_colon] at read
  have named : (Text.trimStart line).readsName = true := read
  rw [Classifier.classify, Classifier.any_ignored_builtin, named, Bool.or_true, if_pos rfl]

/-- A line that announces a name is none of the lines that a scan looks for, and it is ignored. -/
theorem Announces.overlooks (announces : Announces line rest) :
    Classifier.builtin.Overlooks line := by
  constructor
  · exact announces.classify_builtin_eq_none
  · apply Bool.eq_false_iff.mpr
    intro opens
    exact announces.head?_asciiLower_ne (by decide) (by decide) (head?_asciiLower_of_isHeader opens)
  · exact announces.sameAscii_eq_false (k := 'e') (by decide) (by decide)
  · have notTrue : Text.sameAscii line "true:".toList = false :=
      announces.sameAscii_eq_false (k := 't') (by decide) (by decide)
    have notFalse : Text.sameAscii line "false:".toList = false :=
      announces.sameAscii_eq_false (k := 'f') (by decide) (by decide)
    rw [Part.begunBy?, notTrue, notFalse]
    rfl
  · have notVariants : Text.startsWithAscii line "variants:".toList = false :=
      announces.startsWithAscii_eq_false (k := 'v') (by decide) (by decide)
    have notOption : Text.startsWithAscii line "option".toList = false :=
      announces.startsWithAscii_eq_false (k := 'o') (by decide) (by decide)
    rw [isMetadata, notVariants, notOption, Bool.or_false]

/-- Trimming takes off what stands before the name and after it. -/
theorem Announces.trim (announces : Announces line rest) :
    Announces (Text.trim line) (Text.trimEnd rest) := by
  obtain @⟨lead, word, gap, rest, lead_blank, spelled, gap_blank⟩ := announces
  have ends : Text.trim (lead ++ word ++ gap ++ ':' :: rest) =
      [] ++ word ++ gap ++ ':' :: Text.trimEnd rest := by
    rw [List.append_assoc lead, List.append_assoc lead, Text.trim_append_left _ lead_blank,
      List.append_assoc word, Text.trim, trimStart_of_spelled spelled, ← List.append_assoc,
      Text.trimEnd_append_cons _ _ (by decide), List.nil_append]
  rw [ends]
  exact .colon (List.forall_mem_nil _) spelled gap_blank

theorem Declares.trim (declares : Declares line name) : Declares (Text.trim line) name := by
  obtain ⟨rest, announces, same, some⟩ := declares
  exact ⟨Text.trimEnd rest, announces.trim, (Text.trim_trimEnd rest).trans same, some⟩

end Declaration

/-- No line of a document that declares a name makes up a line of contents, and the contents of no
node declare a name. -/
theorem Compilation.contents_undeclared (document : Text) :
    let r := ofDocument .builtin document
    (∃ numbers : List Nat, numbers.Nodup ∧ Quotes document numbers r.contentLines) ∧
    (∀ numbers, Quotes document numbers r.contentLines →
      ∀ d ∈ Declaration.all document, d.line ∉ numbers) ∧
    ∀ g ∈ r.sections, ∀ n ∈ g.nodes, Declaration.all n.content = [] := by
  intro r
  have undeclared : ∀ t ∈ r.contentLines, ∀ name, ¬Declaration.Declares t name := by
    rintro t member name ⟨rest, announces, -, -⟩
    exact not_overlooks_of_mem_contentLines member announces.overlooks
  refine ⟨exists_quoted .builtin document, ?_, ?_⟩
  · rintro numbers quoted ⟨number, name⟩ listed used
    obtain ⟨line, here, declares⟩ := Declaration.mem_all.mp listed
    obtain ⟨i, bound, rfl⟩ := List.getElem_of_mem used
    obtain ⟨sizes, each⟩ := List.forall₂_iff_get.mp quoted
    obtain ⟨whole, there, text⟩ := each i bound (by omega)
    obtain rfl := Option.some.inj (here.symm.trans there)
    exact undeclared _ (text ▸ List.get_mem _ _) name declares.trim
  · intro g of n member
    rw [List.eq_nil_iff_forall_not_mem]
    rintro ⟨number, name⟩ listed
    obtain ⟨line, here, declares⟩ := Declaration.mem_all.mp listed
    have inNode : line ∈ g.contentLines :=
      List.mem_flatMap.mpr ⟨n, member, Text.mem_lines_of_lineAt? here⟩
    exact undeclared line (List.mem_flatMap.mpr ⟨g, of, inNode⟩) name declares

end Storygraph
