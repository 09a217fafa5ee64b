import Storygraph.Proofs.Reports
import Storygraph.Proofs.Switches

/-!
# Verbosity

The switches for verbosity change what a run tells about its work, and nothing else. A command line
without some of them asks for the same command (`Tunes.ofArguments`), and its run ends alike and
prints the same (`Tunes.agrees`).
-/

namespace Storygraph.Cli

def Switch.tunes (s : Switch) : Bool := s == verbose || s == quiet

def Switch.tuningLetters : Text := ['v', 'q']

/-- The arguments give switches for verbosity in front of what the shorter ones give. -/
inductive Tunes : (shorter written : List Text) → Prop where
  | word {s : Switch} (tunes : s.tunes = true) : Tunes [] ["--".toList ++ s.word]
  | letters {letters : Text} (some : letters ≠ []) (only : letters ⊆ Switch.tuningLetters) :
      Tunes [] ['-' :: letters]
  | lettersBefore {letters more : Text} (some : letters ≠ [])
      (only : letters ⊆ Switch.tuningLetters) (visible : more ≠ []) :
      Tunes ['-' :: more] ['-' :: (letters ++ more)]

/-! ### Switches for verbosity among others -/

structure Given.Tuned (g g' : Given) : Prop where
  others : g.filter (!·.1.tunes) = g'.filter (!·.1.tunes)
  quiet : g.has .quiet = true → g'.has .quiet = true

namespace Given.Tuned

variable {g g' a : Given} {s : Switch}

theorem refl (g : Given) : Tuned g g := ⟨rfl, id⟩

theorem trans {g'' : Given} (first : Tuned g g') (second : Tuned g' g'') : Tuned g g'' :=
  ⟨first.others.trans second.others, second.quiet ∘ first.quiet⟩

theorem has_eq (tuned : Tuned g g') (other : s.tunes = false) : g.has s = g'.has s := by
  have kept : (!s.tunes) = true := by rw [other]; rfl
  rw [← has_filter (g := g) (p := (!·.tunes)) kept, ← has_filter (g := g') (p := (!·.tunes)) kept,
    tuned.others]

theorem value?_eq (tuned : Tuned g g') (other : s.tunes = false) : g.value? s = g'.value? s := by
  have kept : (!s.tunes) = true := by rw [other]; rfl
  rw [← value?_filter (g := g) (p := (!·.tunes)) kept,
    ← value?_filter (g := g') (p := (!·.tunes)) kept, tuned.others]

theorem has_of_has (tuned : Tuned g g') (once : s.repeats = false) (given : g.has s = true) :
    g'.has s = true := by
  by_cases isQuiet : s = .quiet
  · subst isQuiet
    exact tuned.quiet given
  · have other : s.tunes = false := by
      cases s <;> first | rfl | exact absurd once (by decide) | exact absurd rfl isQuiet
    exact (tuned.has_eq other).symm.trans given

theorem follows : Follows Tuned := by
  intro g g' a' s value tuned adds
  obtain ⟨wanted, fresh, rfl⟩ := add_eq_ok_iff.mp adds
  refine ⟨_, add_eq_ok_iff.mpr ⟨wanted, fun given => ?_, rfl⟩, ?_, ?_⟩
  · by_contra once
    exact once (fresh (tuned.has_of_has (Bool.eq_false_iff.mpr once) given))
  · rw [List.filter_append, List.filter_append, tuned.others]
  · intro given
    unfold has at given ⊢
    rw [List.any_append, Bool.or_eq_true] at given ⊢
    exact given.imp_left tuned.quiet

theorem of_add (tunes : s.tunes = true) {value : Text} (adds : g.add s value = .ok a) :
    Tuned g a := by
  obtain ⟨-, -, rfl⟩ := add_eq_ok_iff.mp adds
  constructor
  · rw [List.filter_append, List.filter_cons_of_neg (by simp [tunes]), List.filter_nil,
      List.append_nil]
  · intro given
    unfold has at given ⊢
    rw [List.any_append, given]
    rfl

theorem command (tuned : Tuned g g') {subcommand : Subcommand} {input : Option Text}
    {command : Command} (made : subcommand.command g' input = .ok command) :
    subcommand.command g input = .ok command := by
  have rulebook := tuned.value?_eq (s := .rulebook) rfl
  have full := tuned.has_eq (s := .full) rfl
  have pretty := tuned.has_eq (s := .pretty) rfl
  have json := tuned.has_eq (s := .json) rfl
  unfold Subcommand.command at made ⊢
  rw [rulebook, full, pretty, json]
  exact made

end Given.Tuned

/-! ### Arguments for verbosity -/

section Reading

variable {g a' : Given} {known : List Switch} {waiting : Option Switch}
variable {shorter written front back : List Text}

theorem Switch.takesValue_of_tunes {s : Switch} (tunes : s.tunes = true) :
    s.takesValue = false := by
  cases s <;> first | rfl | exact absurd tunes (by decide)

theorem Switch.tunes_of_letter {s : Switch} {c : Char} (tuning : c ∈ tuningLetters)
    (letter : s.letter? = some c) : s.tunes = true := by
  have either : c = 'v' ∨ c = 'q' := by simpa [tuningLetters] using tuning
  revert letter
  rcases either with rfl | rfl
  · cases s <;> decide
  · cases s <;> decide

theorem Switch.letter?_ne_dash (s : Switch) : s.letter? ≠ some '-' := by
  cases s <;> decide

theorem tuned_of_readWord {s : Switch} (tunes : s.tunes = true)
    (reads : readWord known g s.word = .ok (a', waiting)) : waiting = none ∧ g.Tuned a' := by
  obtain ⟨-, given⟩ := of_readWord reads
  rw [Switch.takesValue_of_tunes tunes] at given
  obtain ⟨adds, ended⟩ := given
  exact ⟨ended, .of_add tunes adds⟩

/-- Letters for verbosity are read one by one, and then the others. -/
theorem exists_of_readLetters {letters more : Text} (only : letters ⊆ Switch.tuningLetters)
    (reads : readLetters known g (letters ++ more) = .ok (a', waiting)) :
    ∃ g', g.Tuned g' ∧ readLetters known g' more = .ok (a', waiting) := by
  induction letters generalizing g with
  | nil => exact ⟨g, .refl g, reads⟩
  | cons c letters ih =>
    obtain ⟨tuning, only⟩ := List.cons_subset.mp only
    obtain ⟨s, -, letter, given⟩ := of_readLetters reads
    have tunes := Switch.tunes_of_letter tuning letter
    rw [Switch.takesValue_of_tunes tunes] at given
    obtain ⟨b, adds, reads⟩ := given
    obtain ⟨g', tuned, reads⟩ := ih only reads
    exact ⟨g', (Given.Tuned.of_add tunes adds).trans tuned, reads⟩

theorem ne_dash_of_readLetters {c : Char} {more : Text}
    (reads : readLetters known g (c :: more) = .ok (a', waiting)) : c ≠ '-' := by
  rintro rfl
  obtain ⟨s, -, letter, -⟩ := of_readLetters reads
  exact s.letter?_ne_dash letter

theorem readSwitch?_letters {c : Char} (letter : c ≠ '-') (more : Text) :
    readSwitch? known g ('-' :: c :: more) = some (readLetters known g (c :: more)) := by
  unfold readSwitch?
  split
  case h_1 same => nomatch same
  case h_2 same =>
    cases same
    exact absurd rfl letter
  case h_3 same =>
    cases same
    exact absurd rfl letter
  case h_4 same =>
    cases same
    rfl
  case h_5 none => exact absurd rfl (none _)

theorem ne_dash_of_tuning {c : Char} (tuning : c ∈ Switch.tuningLetters) : c ≠ '-' := by
  rintro rfl
  nomatch tuning

theorem readSwitch?_word (s : Switch) :
    readSwitch? known g ("--".toList ++ s.word) = some (readWord known g s.word) := by
  cases s <;> rfl

theorem readSwitch?_tuning {letters : Text} (some : letters ≠ [])
    (only : letters ⊆ Switch.tuningLetters) (more : Text) :
    readSwitch? known g ('-' :: (letters ++ more)) =
      .some (readLetters known g (letters ++ more)) := by
  obtain ⟨c, letters, rfl⟩ := List.exists_cons_of_ne_nil some
  exact readSwitch?_letters (ne_dash_of_tuning (only List.mem_cons_self)) _

theorem isValue_letters {letters : Text} (some : letters ≠ []) (more : Text) :
    isValue ('-' :: (letters ++ more)) = false := by
  obtain ⟨c, letters, rfl⟩ := List.exists_cons_of_ne_nil some
  rfl

/-- The shorter arguments can be given in place of those that tune. -/
theorem Tunes.replaces (tunes : Tunes shorter written) (known : List Switch) (back : List Text) :
    Replaces Given.Tuned known shorter written back := by
  cases tunes with
  | @word s tunes =>
    refine ⟨⟨_, _, rfl, rfl⟩, fun g a' rest reads => ?_⟩
    obtain ⟨b, waiting, here, goesOn⟩ := exists_of_readSwitches (readSwitch?_word s) reads
    obtain ⟨rfl, tuned⟩ := tuned_of_readWord tunes here
    exact Given.Tuned.follows.readSwitches tuned goesOn
  | @letters letters some only =>
    rw [← List.append_nil letters]
    refine ⟨⟨_, _, rfl, isValue_letters some []⟩, fun g a' rest reads => ?_⟩
    obtain ⟨b, waiting, here, goesOn⟩ :=
      exists_of_readSwitches (readSwitch?_tuning some only []) reads
    obtain ⟨g', tuned, last⟩ := exists_of_readLetters only here
    cases last
    exact Given.Tuned.follows.readSwitches tuned goesOn
  | @lettersBefore letters more some only visible =>
    refine ⟨⟨_, _, rfl, isValue_letters some more⟩, fun g a' rest reads => ?_⟩
    obtain ⟨b', waiting, here', -⟩ :=
      exists_of_readSwitches (readSwitch?_tuning some only more) reads
    obtain ⟨g', tuned, others⟩ := exists_of_readLetters only here'
    obtain ⟨b, here, tuned⟩ := Given.Tuned.follows.readLetters tuned others
    obtain ⟨c, more, rfl⟩ := List.exists_cons_of_ne_nil visible
    have first := (readSwitch?_letters (ne_dash_of_readLetters here) more).trans (congrArg _ here)
    have first' := (readSwitch?_tuning some only (c :: more)).trans (congrArg _ here')
    exact Given.Tuned.follows.readSwitches_cons tuned first first' reads

end Reading

/-- Without some switches for verbosity, which come before any two dashes, a command line asks for
the same command. -/
theorem Tunes.ofArguments {shorter written front back : List Text} {request' : Request}
    (tunes : Tunes shorter written) (before : endOfSwitches ∉ front)
    (reads : Request.ofArguments (front ++ (written ++ back)) = .ok request') :
    ∃ request, Request.ofArguments (front ++ (shorter ++ back)) = .ok request ∧
      request.command = request'.command := by
  obtain ⟨b, subcommand, a, input, command, names, made, rfl⟩ := ofArguments_eq_ok_iff.mp reads
  have replaces := fun known => tunes.replaces known back
  rcases Replaces.names replaces (fun _ => Given.Tuned.follows) before names with
    ⟨b, names, -⟩ | ⟨a, names, tuned⟩
  · exact ⟨_, ofArguments_eq_ok_iff.mpr ⟨_, _, _, _, _, names, made, rfl⟩, rfl⟩
  · exact ⟨_, ofArguments_eq_ok_iff.mpr ⟨_, _, _, _, _, names, tuned.command made, rfl⟩, rfl⟩

theorem Request.agrees {request request' : Request} (same : request.command = request'.command)
    (s : Surroundings) : (request.outcome s).Agrees (request'.outcome s) := by
  rw [outcome, outcome, same]
  exact (Report.Matches.refl _).agrees ..

/-- Runs with and without them end alike and print the same. -/
theorem Tunes.agrees {shorter written front back : List Text} {request : Request}
    (tunes : Tunes shorter written) (before : endOfSwitches ∉ front)
    (reads : Request.ofArguments (front ++ (written ++ back)) = .ok request) (s : Surroundings) :
    (run s (front ++ (shorter ++ back))).Agrees (run s (front ++ (written ++ back))) := by
  obtain ⟨other, reads', same⟩ := tunes.ofArguments before reads
  rw [run, run, reads, reads']
  exact Request.agrees same s

end Storygraph.Cli
