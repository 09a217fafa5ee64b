import Mathlib.Order.Bounds.Basic
import Storygraph.Declaration
import Storygraph.Proofs.BuiltinKinds
import Storygraph.Proofs.Locations

/-!
# Declared names

`Declaration.Announces` is the grammar of a line that announces a name. Names are read by it
(`nameIn?_eq_some_iff`), and `nameIn?_by_pattern` says that they are what a pattern leaves of a line.
`all_declares` gives the declarations of a document as those of its lines.
-/

namespace Storygraph

namespace Text

/-- A word without an s is spelled in its own letters only. -/
theorem reads_iff {word : Text} {follows : Text → Bool} {t : Text} (plain : 's' ∉ word) :
    reads word follows t = true ↔
      ∃ u v, t = u ++ v ∧ u.asciiLower = word ∧ follows v = true := by
  induction word generalizing t with
  | nil =>
    constructor
    · intro rest
      exact ⟨[], t, rfl, rfl, rest⟩
    · rintro ⟨u, v, rfl, empty, rest⟩
      rw [List.map_eq_nil_iff.mp empty]
      exact rest
  | cons k word ih =>
    rw [List.mem_cons, not_or] at plain
    have letter := spells_of_ne (Ne.symm plain.1)
    constructor
    · intro read
      cases t with
      | nil => cases read
      | cons c t =>
        rw [reads, letter, Bool.and_eq_true, beq_iff_eq] at read
        obtain ⟨rfl, later⟩ := read
        obtain ⟨u, v, rfl, rfl, rest⟩ := (ih plain.2).mp later
        exact ⟨c :: u, v, rfl, rfl, rest⟩
    · rintro ⟨u, v, rfl, spelled, rest⟩
      cases u with
      | nil => cases spelled
      | cons c u =>
        obtain ⟨here, later⟩ := List.cons.inj spelled
        rw [List.cons_append, reads, letter, here, beq_self_eq_true, Bool.true_and]
        exact (ih plain.2).mpr ⟨u, v, rfl, later, rest⟩

end Text

namespace Declaration

/-! ### Lines that announce a name -/

/-- The line reads `name`, in letters of either case, and a colon, maybe with blanks in front of
each. The rest is what stands after the colon. -/
inductive Announces : (line rest : Text) → Prop
  | colon {lead word gap rest : Text} (lead_blank : ∀ c ∈ lead, isBlank c = true)
      (spelled : word.asciiLower = "name".toList) (gap_blank : ∀ c ∈ gap, isBlank c = true) :
      Announces (lead ++ word ++ gap ++ ':' :: rest) rest

def Declares (line name : Text) : Prop :=
  ∃ rest, Announces line rest ∧ Text.trim rest = name ∧ name ≠ []

variable {line rest name : Text}

theorem trimStart_of_spelled {word : Text} (spelled : word.asciiLower = "name".toList)
    (t : Text) : Text.trimStart (word ++ t) = word ++ t := by
  cases word with
  | nil => cases spelled
  | cons c word =>
    have first : asciiLower c = 'n' := (List.cons.inj spelled).1
    apply Text.trimStart_eq_self
    show isBlank c = false
    rw [← isBlank_asciiLower, first]
    decide

theorem Announces.trimStart (announces : Announces line rest) :
    ∃ word gap, Text.trimStart line = word ++ gap ∧ word.asciiLower = "name".toList ∧
      Text.trimStart gap = ':' :: rest := by
  obtain @⟨lead, word, gap, rest, lead_blank, spelled, gap_blank⟩ := announces
  refine ⟨word, gap ++ ':' :: rest, ?_, spelled, ?_⟩
  · rw [List.append_assoc, List.append_assoc, Text.trimStart_append_of_blank _ lead_blank,
      trimStart_of_spelled spelled]
  · have visible : Text.startsBlank (':' :: rest) = false := by
      show isBlank ':' = false
      decide
    rw [Text.trimStart_append_of_blank _ gap_blank, Text.trimStart_eq_self visible]

theorem announces_of_trimStart {word gap : Text} (whole : Text.trimStart line = word ++ gap)
    (spelled : word.asciiLower = "name".toList) (colon : Text.trimStart gap = ':' :: rest) :
    Announces line rest := by
  have shape : line = line.takeWhile isBlank ++ word ++ gap.takeWhile isBlank ++ ':' :: rest := by
    rw [← colon, List.append_assoc _ _ (Text.trimStart gap), Text.takeWhile_append_trimStart,
      List.append_assoc, ← whole, Text.takeWhile_append_trimStart]
  rw [shape]
  exact .colon (fun c => List.mem_takeWhile_imp) spelled fun c => List.mem_takeWhile_imp

theorem nameIn?_of_announces (announces : Announces line rest) :
    nameIn? line = if Text.trim rest = [] then none else some (Text.trim rest) := by
  obtain ⟨word, gap, whole, spelled, colon⟩ := announces.trimStart
  have size : word.length = "name".toList.length := by
    rw [← spelled, Text.asciiLower, List.length_map]
  have starts : Text.startsWithAscii (word ++ gap) "name".toList = true := by
    rw [Text.startsWithAscii, List.take_left' size, Text.sameAscii, spelled]
    rfl
  unfold nameIn?
  dsimp only
  rw [whole, if_pos starts, List.drop_left' (i := 4) size, colon]
  rfl

theorem declares_of_nameIn? (found : nameIn? line = some name) : Declares line name := by
  unfold nameIn? at found
  dsimp only at found
  split at found
  · rename_i starts
    split at found
    · rename_i rest colon
      have announces : Announces line rest :=
        announces_of_trimStart (List.take_append_drop 4 _).symm (eq_of_beq starts) colon
      split at found
      · cases found
      · rename_i visible
        obtain rfl := Option.some.inj found
        exact ⟨rest, announces, rfl, visible⟩
    · cases found
  · cases found

/-- The name that is read from a line is the one that the line declares. -/
theorem nameIn?_eq_some_iff : nameIn? line = some name ↔ Declares line name := by
  constructor
  · exact declares_of_nameIn?
  · rintro ⟨rest, announces, rfl, visible⟩
    rw [nameIn?_of_announces announces, if_neg visible]

/-! ### Names after a pattern -/

/-- Lines that announce a name, read letter by letter. -/
theorem exists_announces_iff (follows : Text → Bool) :
    (∃ rest, Announces line rest ∧ follows rest = true) ↔
      Text.reads "name".toList
        (fun gap => Text.reads ":".toList follows (Text.trimStart gap)) (Text.trimStart line) =
          true := by
  rw [Text.reads_iff (by decide)]
  constructor
  · rintro ⟨rest, announces, shown⟩
    obtain ⟨word, gap, whole, spelled, colon⟩ := announces.trimStart
    refine ⟨word, gap, whole, spelled, ?_⟩
    exact Text.reads_colon_iff.mpr ⟨rest, colon, shown⟩
  · rintro ⟨word, gap, whole, spelled, read⟩
    obtain ⟨rest, colon, shown⟩ := Text.reads_colon_iff.mp read
    exact ⟨rest, announces_of_trimStart whole spelled colon, shown⟩

section

open Pattern Pattern.Regex

def opening : Regex := concat (empty :: lineStart :: blanks 0 ::
  (letters "name".toList ++ blanks 0 :: (letters ":".toList ++ [blanks 0])))

/-- What is left after a match of the pattern and what is left after the colon differ by blanks. -/
theorem exists_matches_iff :
    (∃ start rest, line = start ++ rest ∧ opening.Matches none start rest.head? ∧
      Text.trim rest = name) ↔ ∃ rest, Announces line rest ∧ Text.trim rest = name := by
  let follows (rest : Text) : Bool := Text.trim rest == name
  have minds : ∀ u v, (∀ c ∈ u, isBlank c = true) → follows (u ++ v) = follows v := by
    intro u v blank
    show (Text.trim (u ++ v) == name) = (Text.trim v == name)
    rw [Text.trim_append_left v blank]
  have colon := (reads_any_blanks minds).word ":".toList (by decide) (by decide)
  have word := colon.word "name".toList (by decide) (by decide)
  have announced : (∃ rest, Announces line rest ∧ follows rest = true) ↔ _ :=
    exists_announces_iff follows
  rw [← word none line] at announced
  simp only [follows, beq_iff_eq] at announced
  rw [announced]
  simp only [opening, matches_empty_concat, matches_lineStart_concat]

end

/-- In whichever way the pattern is matched at the start of a line, the rest of the line leaves the
same name; and the pattern is matched at the start of each line that declares a name. -/
theorem nameIn?_by_pattern :
    Pattern.compile "(?i)^\\s*name\\s*:\\s*".toList = .ok opening ∧
    (∀ start rest, opening.Matches none start rest.head? →
      nameIn? (start ++ rest) = if Text.trim rest = [] then none else some (Text.trim rest)) ∧
    ∀ line name, nameIn? line = some name → ∃ start rest, line = start ++ rest ∧
      opening.Matches none start rest.head? ∧ Text.trim rest = name := by
  refine ⟨rfl, fun start rest matched => ?_, fun line name found => ?_⟩
  · obtain ⟨after, announces, same⟩ := exists_matches_iff.mp ⟨start, rest, rfl, matched, rfl⟩
    rw [nameIn?_of_announces announces, same]
  · obtain ⟨rest, announces, same, -⟩ := declares_of_nameIn? found
    exact exists_matches_iff.mpr ⟨rest, announces, same⟩

/-! ### All declarations of a document -/

theorem mem_all {document : Text} {n : Nat} :
    ⟨n, name⟩ ∈ all document ↔
      ∃ line, Text.lineAt? document n = some line ∧ Declares line name := by
  simp only [← nameIn?_eq_some_iff]
  constructor
  · intro member
    obtain ⟨⟨line, number⟩, of, made⟩ := List.mem_filterMap.mp member
    obtain ⟨found, declared, same⟩ := Option.map_eq_some_iff.mp made
    obtain ⟨rfl, rfl⟩ := Declaration.mk.inj same
    obtain ⟨above, here⟩ := List.mk_mem_zipIdx_iff_le_and_getElem?_sub.mp of
    refine ⟨line, ?_, declared⟩
    rw [← here, ← Text.lineAt?_add_one, Nat.sub_add_cancel above]
  · rintro ⟨line, here, declared⟩
    cases n with
    | zero => cases here
    | succ n =>
      refine List.mem_filterMap.mpr ⟨(line, n + 1), ?_, by simp [declared]⟩
      exact List.mk_mem_zipIdx_iff_le_and_getElem?_sub.mpr ⟨Nat.le_add_left 1 n, here⟩

theorem pairwise_all (document : Text) : (all document).Pairwise (·.line < ·.line) := by
  have numbered : all document = (numberLines 1 (Text.lines document)).filterMap fun l =>
      (nameIn? l.text).map fun name => ⟨l.number, name⟩ := by
    rw [numberLines, List.filterMap_map]
    rfl
  rw [numbered, List.pairwise_filterMap]
  refine (increasing_numberLines 1 _).imp fun less d here e there => ?_
  obtain ⟨-, -, rfl⟩ := Option.map_eq_some_iff.mp here
  obtain ⟨-, -, rfl⟩ := Option.map_eq_some_iff.mp there
  exact less

theorem lineOf?_eq_some_iff {declarations : List Declaration} {n : Nat}
    (increasing : declarations.Pairwise (·.line < ·.line)) :
    lineOf? declarations name = some n ↔ IsLeast {i | ⟨i, name⟩ ∈ declarations} n := by
  induction declarations with
  | nil => simp [lineOf?, IsLeast]
  | cons d declarations ih =>
    obtain ⟨before, later⟩ := List.pairwise_cons.mp increasing
    obtain ⟨line, other⟩ := d
    by_cases same : other = name
    · subst same
      have found : lineOf? (⟨line, other⟩ :: declarations) other = some line := by
        simp [lineOf?]
      have least :
          IsLeast {i | ⟨i, other⟩ ∈ (⟨line, other⟩ : Declaration) :: declarations} line := by
        refine ⟨List.mem_cons_self, fun i member => ?_⟩
        rcases List.mem_cons.mp member with here | there
        · exact Nat.le_of_eq (Declaration.mk.inj here).1.symm
        · exact Nat.le_of_lt (before _ there)
      rw [found, Option.some_inj]
      constructor
      · rintro rfl
        exact least
      · exact least.unique
    · have skipped : lineOf? (⟨line, other⟩ :: declarations) name = lineOf? declarations name := by
        simp [lineOf?, same]
      have rest : {i | ⟨i, name⟩ ∈ (⟨line, other⟩ : Declaration) :: declarations} =
          {i | ⟨i, name⟩ ∈ declarations} := by
        ext i
        simp [Ne.symm same]
      rw [skipped, rest, ih later]

theorem lineOf?_eq_none_iff {declarations : List Declaration} :
    lineOf? declarations name = none ↔ ∀ n, ⟨n, name⟩ ∉ declarations := by
  rw [lineOf?, Option.map_eq_none_iff, List.find?_eq_none]
  constructor
  · intro none n member
    simpa using none _ member
  · rintro none ⟨n, other⟩ member
    simp only [decide_eq_true_eq]
    rintro rfl
    exact none n member

/-- The declarations of a document stand in the order of its lines, one for each line that declares
a name; the line of a name is the first one that declares it. -/
theorem all_declares (document : Text) :
    (all document).Pairwise (·.line < ·.line) ∧
    (∀ n name, ⟨n, name⟩ ∈ all document ↔
      ∃ line, Text.lineAt? document n = some line ∧ Declares line name) ∧
    (∀ name n, lineOf? (all document) name = some n ↔
      IsLeast {i | ∃ line, Text.lineAt? document i = some line ∧ Declares line name} n) ∧
    ∀ name, lineOf? (all document) name = none ↔
      ∀ n line, Text.lineAt? document n = some line → ¬Declares line name := by
  refine ⟨pairwise_all document, fun n name => mem_all, fun name n => ?_, fun name => ?_⟩
  · rw [lineOf?_eq_some_iff (pairwise_all document)]
    simp only [mem_all]
  · rw [lineOf?_eq_none_iff]
    simp only [mem_all, not_exists, not_and]

end Declaration
end Storygraph
