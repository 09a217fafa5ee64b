import Mathlib.Data.List.TakeWhile
import Storygraph.Pattern.Compile
import Storygraph.Proofs.Pattern.LetterCase

/-!
# Patterns of words and blanks

Most patterns are words with blanks between them. `Regex.Reads` says which test a text passes if an
expression can read its start and leave a rest that passes another test. There is one rule for each
part of such patterns, and `Regex.isMatch_pinned` takes them to the search. A word is read letter by
letter (`Text.reads`), which is exact for letters without forms outside ASCII, apart from the long s
(`folds_eq_spells`).
-/

namespace Storygraph

namespace Unicode

theorem foldCode_cases (n : Nat) : foldCode n = n ∨ ∃ r ∈ foldRuns,
    r.run.contains n = true ∧ r.image ≤ foldCode n ∧
      r.run.first + (foldCode n - r.image) = n := by
  unfold foldCode
  cases found : foldRuns.find? (·.run.contains n) with
  | none => exact Or.inl rfl
  | some r =>
    have inside : r.run.contains n = true := by simpa using List.find?_some found
    have above : r.run.first ≤ n := by
      simp only [Run.contains, Bool.and_eq_true, decide_eq_true_eq] at inside
      exact inside.1.1
    exact Or.inr ⟨r, List.mem_of_find?_eq_some found, inside, by simp, by simp; omega⟩

theorem mem_foldOrbit {c d : Char} (same : foldCode d.toNat = foldCode c.toNat) :
    d ∈ foldOrbit c := by
  simp only [foldOrbit, ← same, List.mem_cons, List.mem_filterMap]
  rcases foldCode_cases d.toNat with fixed | ⟨r, of, inside, above, back⟩
  · rw [fixed, Char.ofNat_toNat]
    exact Or.inl rfl
  · exact Or.inr ⟨r, of, by simp [back, above, inside]⟩

end Unicode

namespace Text

/-- The character is read as the letter `k`, in either case. The long s is an s too. -/
def spells (k c : Char) : Bool := Storygraph.asciiLower c == k || (k == 's' && c == '\u017F')

/-- The text begins with a word, which is given in small letters, and what follows passes the
test. -/
def reads : (word : Text) → (follows : Text → Bool) → Text → Bool
  | [], follows, t => follows t
  | _ :: _, _, [] => false
  | k :: word, follows, c :: t => spells k c && reads word follows t

def startsBlank (t : Text) : Bool := t.head?.any isBlank

/-! ### Words and blanks in front of them -/

theorem spells_of_ne {k : Char} (other : k ≠ 's') (c : Char) :
    spells k c = (Storygraph.asciiLower c == k) := by
  simp [spells, beq_false_of_ne other]

theorem not_isBlank_of_spells {k c : Char} (visible : isBlank k = false)
    (spelled : spells k c = true) : isBlank c = false := by
  simp only [spells, Bool.or_eq_true, Bool.and_eq_true, beq_iff_eq] at spelled
  rcases spelled with same | ⟨-, rfl⟩
  · rw [← isBlank_asciiLower, same, visible]
  · decide

theorem startsBlank_of_reads {word : Text} {follows : Text → Bool} {t : Text} (some : word ≠ [])
    (visible : ∀ k ∈ word, isBlank k = false) (read : reads word follows t = true) :
    startsBlank t = false := by
  obtain ⟨k, word, rfl⟩ := List.exists_cons_of_ne_nil some
  cases t with
  | nil => rfl
  | cons c t =>
    rw [reads, Bool.and_eq_true] at read
    exact not_isBlank_of_spells (visible k List.mem_cons_self) read.1

theorem trimStart_append_of_blank {blanks : Text} (t : Text)
    (blank : ∀ c ∈ blanks, isBlank c = true) : trimStart (blanks ++ t) = trimStart t :=
  List.dropWhile_append_of_pos blank

theorem trimStart_eq_self {t : Text} (visible : startsBlank t = false) : trimStart t = t := by
  cases t with
  | nil => rfl
  | cons c t => exact List.dropWhile_cons_of_neg (by simpa [startsBlank] using visible)

theorem takeWhile_append_trimStart (t : Text) : t.takeWhile isBlank ++ trimStart t = t :=
  List.takeWhile_append_dropWhile

variable {follows : Text → Bool}

/-- Blanks in front of something visible are those that trimming takes off. -/
theorem exists_blanks_iff (visible : ∀ t, follows t = true → startsBlank t = false) (t : Text) :
    (∃ u v, t = u ++ v ∧ (∀ c ∈ u, isBlank c = true) ∧ follows v = true) ↔
      follows (trimStart t) = true := by
  constructor
  · rintro ⟨u, v, rfl, blank, shown⟩
    rwa [trimStart_append_of_blank v blank, trimStart_eq_self (visible v shown)]
  · intro shown
    exact ⟨t.takeWhile isBlank, trimStart t, (takeWhile_append_trimStart t).symm,
      fun c member => List.mem_takeWhile_imp member, shown⟩

theorem exists_some_blanks_iff (visible : ∀ t, follows t = true → startsBlank t = false)
    (t : Text) :
    (∃ u v, t = u ++ v ∧ (u ≠ [] ∧ ∀ c ∈ u, isBlank c = true) ∧ follows v = true) ↔
      (startsBlank t && follows (trimStart t)) = true := by
  rw [Bool.and_eq_true, ← exists_blanks_iff visible]
  constructor
  · rintro ⟨u, v, rfl, ⟨some, blank⟩, shown⟩
    obtain ⟨c, u, rfl⟩ := List.exists_cons_of_ne_nil some
    exact ⟨blank c List.mem_cons_self, c :: u, v, rfl, blank, shown⟩
  · rintro ⟨starts, u, v, rfl, blank, shown⟩
    refine ⟨u, v, rfl, ⟨?_, blank⟩, shown⟩
    rintro rfl
    rw [List.nil_append, visible v shown] at starts
    cases starts

theorem exists_last_blanks_iff (t : Text) :
    (∃ u v, t = u ++ v ∧ u ≠ [] ∧ ∀ c ∈ u, isBlank c = true) ↔ startsBlank t = true := by
  constructor
  · rintro ⟨u, v, rfl, some, blank⟩
    obtain ⟨c, u, rfl⟩ := List.exists_cons_of_ne_nil some
    exact blank c List.mem_cons_self
  · intro starts
    cases t with
    | nil => cases starts
    | cons c t =>
      have here : isBlank c = true := starts
      exact ⟨[c], t, rfl, List.cons_ne_nil _ _, by simpa using here⟩

end Text

namespace Pattern

/-! ### Letters -/

def folds (k : Char) : CharSet := fun c => Unicode.foldCode c.toNat == Unicode.foldCode k.toNat

/-- The letters in the words of patterns, and the colon. -/
def plainLetters : Text := "acdefhijlmnoprstuw:".toList

def isPlain (word : Text) : Bool := word.all plainLetters.contains

theorem mem_plainLetters {word : Text} (plain : isPlain word = true) {k : Char}
    (member : k ∈ word) : k ∈ plainLetters :=
  List.contains_iff_mem.mp (List.all_eq_true.mp plain k member)

theorem isBlank_of_mem_plainLetters {k : Char} (member : k ∈ plainLetters) : isBlank k = false := by
  have visible : (plainLetters.all fun k => !isBlank k) = true := by decide
  simpa using List.all_eq_true.mp visible k member

theorem startsBlank_of_plain {word : Text} {follows : Text → Bool} {t : Text} (some : word ≠ [])
    (plain : isPlain word = true) (read : Text.reads word follows t = true) :
    Text.startsBlank t = false :=
  Text.startsBlank_of_reads some
    (fun _ member => isBlank_of_mem_plainLetters (mem_plainLetters plain member)) read

theorem folds_eq_spells {k : Char} (plain : k ∈ plainLetters) (c : Char) :
    folds k c = Text.spells k c := by
  have forms : (plainLetters.all fun k => (Unicode.foldOrbit k).all (Text.spells k)) = true := by
    decide +kernel
  have long : Unicode.foldCode 0x17F = Unicode.foldCode 's'.toNat := by decide +kernel
  rw [Bool.eq_iff_iff, folds, beq_iff_eq]
  constructor
  · intro same
    exact List.all_eq_true.mp (List.all_eq_true.mp forms k plain) c (Unicode.mem_foldOrbit same)
  · intro spelled
    simp only [Text.spells, Bool.or_eq_true, Bool.and_eq_true, beq_iff_eq] at spelled
    rcases spelled with rfl | ⟨rfl, rfl⟩
    · exact (foldCode_asciiLower c).symm
    · exact long

namespace Regex

def letters (word : Text) : List Regex := word.map fun k => one (folds k)

def blanks (least : Nat) : Regex := repeated (one isBlank) least none

def pinned (rs : List Regex) : Regex := seq lineStart (concat (lineStart :: rs))

/-! ### Runs of one set -/

variable {before after : Option Char} {set : CharSet} {w : Text}

theorem matches_empty : empty.Matches before w after ↔ w = [] := by
  constructor
  · rintro ⟨⟩
    rfl
  · rintro rfl
    exact .empty

theorem matches_one : (one set).Matches before w after ↔ ∃ c, w = [c] ∧ set c = true := by
  constructor
  · rintro ⟨⟩
    exact ⟨_, rfl, ‹_›⟩
  · rintro ⟨c, rfl, member⟩
    exact .one member

theorem matches_plus_one :
    (plus (one set)).Matches before w after ↔ w ≠ [] ∧ ∀ c ∈ w, set c = true := by
  induction w generalizing before with
  | nil => simp [matches_plus_nil, matches_one]
  | cons c w ih =>
    rw [matches_plus_cons, matches_one, List.forall_mem_cons]
    constructor
    · rintro (⟨d, same, member⟩ | ⟨u, v, rfl, first, others⟩)
      · obtain ⟨rfl, rfl⟩ := List.cons.inj same
        exact ⟨List.cons_ne_nil _ _, member, nofun⟩
      · obtain ⟨d, same, member⟩ := matches_one.mp first
        obtain ⟨rfl, rfl⟩ := List.cons.inj same
        exact ⟨List.cons_ne_nil _ _, member, (ih.mp others).2⟩
    · rintro ⟨-, here, others⟩
      by_cases last : w = []
      · subst last
        exact Or.inl ⟨c, rfl, here⟩
      · exact Or.inr ⟨[], w, rfl, .one here, ih.mpr ⟨last, others⟩⟩

theorem matches_blanks_zero :
    (blanks 0).Matches before w after ↔ ∀ c ∈ w, isBlank c = true := by
  have shape : blanks 0 = alt empty (plus (one isBlank)) := rfl
  rw [shape, matches_alt, matches_empty, matches_plus_one]
  by_cases none : w = []
  · simp [none]
  · simp [none]

theorem matches_blanks_one :
    (blanks 1).Matches before w after ↔ w ≠ [] ∧ ∀ c ∈ w, isBlank c = true := by
  have shape : blanks 1 = seq ((one isBlank).power 0) (plus (one isBlank)) := rfl
  rw [shape, power, if_pos rfl, matches_seq]
  simp only [matches_empty, matches_plus_one]
  constructor
  · rintro ⟨u, v, rfl, rfl, all⟩
    exact all
  · intro all
    exact ⟨[], w, rfl, rfl, all⟩

theorem matches_concat_cons {r : Regex} {rs : List Regex} :
    (concat (r :: rs)).Matches before w after ↔ (seq r (concat rs)).Matches before w after := by
  cases rs with
  | nil =>
    rw [concat, concat, matches_seq]
    simp [matches_empty]
  | cons s rs => rfl

/-! ### Reading a text -/

/-- The texts that pass the test are those of which the expression can read the start so that the
rest passes the test `follows`. What stands before the text does not matter. -/
def Reads (r : Regex) (follows test : Text → Bool) : Prop :=
  ∀ before t, (∃ u v, t = u ++ v ∧ r.Matches before u v.head? ∧ follows v = true) ↔ test t = true

variable {r s : Regex} {rs : List Regex} {follows next test : Text → Bool}

theorem reads_nil : (concat []).Reads follows follows := by
  intro before t
  simp [concat, matches_empty]

theorem reads_one : (one set).Reads follows fun t =>
    match t with
    | [] => false
    | c :: rest => set c && follows rest := by
  intro before t
  simp only [matches_one]
  constructor
  · rintro ⟨u, v, rfl, ⟨c, rfl, member⟩, after⟩
    simp [member, after]
  · cases t with
    | nil => simp
    | cons c rest =>
      simp only [Bool.and_eq_true]
      rintro ⟨member, after⟩
      exact ⟨[c], rest, rfl, ⟨c, rfl, member⟩, after⟩

theorem Reads.seq (second : s.Reads follows next) (first : r.Reads next test) :
    (seq r s).Reads follows test := by
  intro before t
  rw [← first before t]
  constructor
  · rintro ⟨w, v, rfl, here, last⟩
    obtain ⟨u, w, rfl, here, there⟩ := matches_seq.mp here
    rw [← List.head?_append] at here
    exact ⟨u, w ++ v, List.append_assoc _ _ _, here, (second _ _).mp ⟨w, v, rfl, there, last⟩⟩
  · rintro ⟨u, v, rfl, here, rest⟩
    obtain ⟨w, v, rfl, there, last⟩ := (second (u.getLast?.or before) v).mpr rest
    rw [List.head?_append] at here
    exact ⟨u ++ w, v, (List.append_assoc _ _ _).symm, .seq here there, last⟩

theorem Reads.cons (others : (concat rs).Reads follows next) (first : r.Reads next test) :
    (concat (r :: rs)).Reads follows test := by
  intro before t
  simp only [matches_concat_cons]
  exact others.seq first before t

theorem Reads.letters {word : Text} (others : (concat rs).Reads follows next)
    (plain : isPlain word = true) :
    (concat (letters word ++ rs)).Reads follows (Text.reads word next) := by
  induction word with
  | nil => exact others
  | cons k word ih =>
    have here := mem_plainLetters plain List.mem_cons_self
    have later : isPlain word = true := (Bool.and_eq_true_iff.mp plain).2
    have first : (one (folds k)).Reads (Text.reads word next) _ := reads_one
    have step := (ih later).cons first
    intro before t
    refine (step before t).trans ?_
    cases t with
    | nil => rfl
    | cons c t =>
      show (folds k c && Text.reads word next t) = true ↔ _
      rw [folds_eq_spells here, Text.reads]

theorem Reads.blanks (others : (concat rs).Reads follows next)
    (visible : ∀ t, next t = true → Text.startsBlank t = false) :
    (concat (blanks 0 :: rs)).Reads follows fun t => next (Text.trimStart t) := by
  refine others.cons fun before t => ?_
  simp only [matches_blanks_zero]
  exact Text.exists_blanks_iff visible t

/-- A word with blanks in front. -/
theorem Reads.word (word : Text) (others : (concat rs).Reads follows next) (some : word ≠ [])
    (plain : isPlain word = true) :
    (concat (Regex.blanks 0 :: (Regex.letters word ++ rs))).Reads follows fun t =>
      Text.reads word next (Text.trimStart t) :=
  (others.letters plain).blanks fun _ => startsBlank_of_plain some plain

theorem Reads.some_blanks (others : (concat rs).Reads follows next)
    (visible : ∀ t, next t = true → Text.startsBlank t = false) :
    (concat (Regex.blanks 1 :: rs)).Reads follows fun t =>
      Text.startsBlank t && next (Text.trimStart t) := by
  refine others.cons fun before t => ?_
  simp only [matches_blanks_one]
  exact Text.exists_some_blanks_iff visible t

/-- Blanks that the test does not mind may stand in front or be read. -/
theorem reads_any_blanks
    (minds : ∀ u v, (∀ c ∈ u, isBlank c = true) → follows (u ++ v) = follows v) :
    (concat [Regex.blanks 0]).Reads follows follows := by
  intro before t
  simp only [concat, matches_blanks_zero]
  constructor
  · rintro ⟨u, v, rfl, blank, rest⟩
    rwa [minds u v blank]
  · intro rest
    exact ⟨[], t, rfl, nofun, rest⟩

theorem reads_last_blanks : (concat [Regex.blanks 1]).Reads (fun _ => true) Text.startsBlank := by
  intro before t
  simp only [concat, matches_blanks_one, and_true]
  exact Text.exists_last_blanks_iff t

/-- A condition on what comes next is a test of the rest. -/
theorem reads_look (holds : Option Char → Bool) :
    (concat [look fun _ after => holds after]).Reads (fun _ => true) fun t => holds t.head? := by
  intro before t
  simp only [concat, and_true]
  constructor
  · rintro ⟨u, v, rfl, ⟨⟩⟩
    assumption
  · intro true
    exact ⟨[], t, rfl, .look true⟩

theorem matches_empty_concat :
    (concat (empty :: rs)).Matches before w after ↔ (concat rs).Matches before w after := by
  rw [matches_concat_cons, matches_seq]
  simp [matches_empty]

theorem matches_lineStart_concat {w : Text} {after : Option Char} :
    (concat (lineStart :: rs)).Matches none w after ↔ (concat rs).Matches none w after := by
  rw [matches_concat_cons, matches_seq]
  constructor
  · rintro ⟨u, v, rfl, ⟨⟩, there⟩
    exact there
  · intro here
    exact ⟨[], w, rfl, .lineStart, here⟩

/-- The search finds an expression that is pinned to the start in the lines that it reads. -/
theorem isMatch_pinned (reads : (concat rs).Reads (fun _ => true) test) (line : Text) :
    (pinned rs).isMatch line = test line := by
  rw [Bool.eq_iff_iff, pinned, isMatch_lineStart, ← reads none line]
  simp only [matches_lineStart_concat, and_true]

/-- It also finds an expression with something empty before the start, such as a switch of flags. -/
theorem isMatch_empty_lineStart (reads : (concat rs).Reads (fun _ => true) test) (line : Text) :
    (concat (empty :: lineStart :: rs)).isMatch line = test line := by
  have pinned : (concat (empty :: lineStart :: rs)).isPinned = true := by cases rs <;> rfl
  rw [Bool.eq_iff_iff, isMatch_iff, ← reads none line]
  simp only [and_true]
  constructor
  · rintro ⟨x, w, y, rfl, here⟩
    have edge := before_eq_none_of_isPinned pinned here
    obtain rfl := List.getLast?_eq_none_iff.mp edge
    exact ⟨w, y, rfl, matches_lineStart_concat.mp (matches_empty_concat.mp here)⟩
  · rintro ⟨w, y, rfl, here⟩
    exact ⟨[], w, y, rfl, matches_empty_concat.mpr (matches_lineStart_concat.mpr here)⟩

end Regex

end Pattern

end Storygraph
