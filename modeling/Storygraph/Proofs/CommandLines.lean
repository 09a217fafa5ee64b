import Storygraph.Proofs.Reports
import Storygraph.Proofs.Switches

/-!
# Command lines without their rulebook

A rulebook that arguments of its own give can be left out of the command line. What is read of the
other arguments stays the same then (`Spells.ofArguments`).
-/

namespace Storygraph.Cli

/-- The ways to give a rulebook by arguments of its own. -/
inductive Spells (path : Text) : List Text → Prop where
  | word (value : isValue path = true) : Spells path ["--config".toList, path]
  | wordWith : Spells path ["--config=".toList ++ path]
  | letter (value : isValue path = true) : Spells path ["-c".toList, path]
  | letterWith : Spells path ["-c=".toList ++ path]
  | letterBefore (visible : path ≠ []) (plain : path.head? ≠ some '=') :
      Spells path ["-c".toList ++ path]

/-! ### Switches with a rulebook among them -/

/-- The switches of `g` are all of those in `g'` but the rulebook, which is at the path. -/
structure Given.Gains (path : Text) (g g' : Given) : Prop where
  others : g = g'.filter (·.1 ≠ .rulebook)
  named : g'.value? .rulebook = some path

namespace Given.Gains

variable {path : Text} {g g' : Given} {s : Switch}

theorem has_rulebook (gains : Gains path g g') : g'.has .rulebook = true := by
  obtain ⟨found, here, -⟩ := Option.map_eq_some_iff.mp gains.named
  have isOne := List.find?_some here
  exact List.any_eq_true.mpr ⟨found, List.mem_of_find?_eq_some here, isOne⟩

theorem has_of_ne (gains : Gains path g g') (other : s ≠ .rulebook) : g.has s = g'.has s := by
  rw [gains.others]
  exact has_filter (p := (· ≠ .rulebook)) (decide_eq_true other)

theorem count_of_ne (gains : Gains path g g') (other : s ≠ .rulebook) :
    g.count s = g'.count s := by
  rw [gains.others]
  exact count_filter (p := (· ≠ .rulebook)) (decide_eq_true other)

theorem value?_rulebook (gains : Gains path g g') : g.value? .rulebook = none := by
  rw [gains.others, value?, Option.map_eq_none_iff, List.find?_eq_none]
  intro given member
  simpa using (List.mem_filter.mp member).2

/-- A switch that is added to both is not the rulebook, which is not given again. -/
theorem follows (path : Text) : Follows (Gains path) := by
  intro g g' a' s value gains adds
  obtain ⟨wanted, fresh, rfl⟩ := add_eq_ok_iff.mp adds
  have other : s ≠ .rulebook := by
    rintro rfl
    exact absurd (fresh gains.has_rulebook) (by decide)
  refine ⟨_, add_eq_ok_iff.mpr ⟨wanted, ?_, rfl⟩, ?_, ?_⟩
  · rwa [gains.has_of_ne other]
  · rw [gains.others, List.filter_append, List.filter_cons_of_pos (by simpa using other)]
    rfl
  · obtain ⟨found, here, same⟩ := Option.map_eq_some_iff.mp gains.named
    rw [value?, List.find?_append, here]
    simpa using same

end Given.Gains

theorem Given.gains_of_add {path : Text} {g a : Given} (adds : g.add .rulebook path = .ok a) :
    Gains path g a := by
  obtain ⟨-, fresh, rfl⟩ := add_eq_ok_iff.mp adds
  have absent : ∀ given ∈ g, given.1 ≠ .rulebook := by
    rw [← has_eq_false_iff, Bool.eq_false_iff]
    exact fun given => absurd (fresh given) (by decide)
  constructor
  · rw [List.filter_append, List.filter_eq_self.mpr fun given member => by
      simpa using absent given member]
    simp
  · have none : g.find? (·.1 = .rulebook) = none := by
      rw [List.find?_eq_none]
      intro given member
      simpa using absent given member
    rw [value?, List.find?_append, none]
    rfl

/-! ### Arguments that give the rulebook -/

section Reading

variable {path : Text} {g g' a' : Given} {known : List Switch} {waiting : Option Switch}
variable {written front back rest : List Text}

theorem Spells.exists_cons (spelled : Spells path written) :
    ∃ argument after, written = argument :: after ∧ isValue argument = false := by
  cases spelled
  all_goals exact ⟨_, _, rfl, rfl⟩

theorem readWord_rulebook_value
    (reads : readWord known g (Switch.rulebook.word ++ '=' :: path) = .ok (g', waiting)) :
    .rulebook ∈ known ∧ g.add .rulebook path = .ok g' ∧ waiting = none := by
  have cut : Text.cutAt? (Switch.rulebook.word ++ '=' :: path) ['='] =
      some (Switch.rulebook.word, path) := rfl
  simp only [readWord, cut] at reads
  cases found : known.find? (·.word = Switch.rulebook.word) with
  | none =>
    rw [found] at reads
    cases reads
  | some s =>
    obtain rfl : s = .rulebook := Switch.word_injective (by simpa using List.find?_some found)
    rw [found] at reads
    obtain ⟨a, adds, reads⟩ := bind_ok reads
    cases reads
    exact ⟨List.mem_of_find?_eq_some found, adds, rfl⟩

theorem readLetters_rulebook {t : Text}
    (reads : readLetters known g ('c' :: t) = .ok (g', waiting)) :
    .rulebook ∈ known ∧ if t = [] then g' = g ∧ waiting = some .rulebook
      else g.add .rulebook ((Text.dropPrefix? ['='] t).getD t) = .ok g' ∧ waiting = none := by
  obtain ⟨s, member, letter, given⟩ := of_readLetters reads
  obtain rfl : s = .rulebook := Switch.eq_of_letter? letter rfl
  exact ⟨member, given⟩

/-- Arguments that give the rulebook are read if the rulebook is a known switch that has not been
given before. -/
theorem Spells.readSwitches (spelled : Spells path written)
    (reads : Cli.readSwitches known g (written ++ back) = .ok (a', rest)) :
    .rulebook ∈ known ∧
      ∃ g', g.add .rulebook path = .ok g' ∧ Cli.readSwitches known g' back = .ok (a', rest) := by
  cases spelled with
  | word value =>
    obtain ⟨g', waiting, given, goesOn⟩ := exists_of_readSwitches rfl reads
    obtain ⟨member, rfl, rfl⟩ := of_readWord (s := .rulebook) given
    obtain ⟨_, _, same, -, g', adds, reads⟩ := goesOn
    cases same
    exact ⟨member, g', adds, reads⟩
  | wordWith =>
    obtain ⟨g', waiting, given, goesOn⟩ := exists_of_readSwitches rfl reads
    obtain ⟨member, adds, rfl⟩ := readWord_rulebook_value given
    exact ⟨member, g', adds, goesOn⟩
  | letter value =>
    obtain ⟨g', waiting, given, goesOn⟩ := exists_of_readSwitches rfl reads
    obtain ⟨member, rfl, rfl⟩ := readLetters_rulebook given
    obtain ⟨_, _, same, -, g', adds, reads⟩ := goesOn
    cases same
    exact ⟨member, g', adds, reads⟩
  | letterWith =>
    obtain ⟨g', waiting, given, goesOn⟩ := exists_of_readSwitches rfl reads
    obtain ⟨member, adds, rfl⟩ := readLetters_rulebook given
    exact ⟨member, g', adds, goesOn⟩
  | letterBefore visible plain =>
    obtain ⟨c, tail, rfl⟩ := List.exists_cons_of_ne_nil visible
    obtain ⟨g', waiting, given, goesOn⟩ := exists_of_readSwitches rfl reads
    obtain ⟨member, adds, rfl⟩ := readLetters_rulebook (t := c :: tail) given
    have other : '=' ≠ c := fun same => plain (congrArg some same.symm)
    simp only [Text.dropPrefix?, if_neg other, Option.getD_none] at adds
    exact ⟨member, g', adds, goesOn⟩

def Given.KnownGains (path : Text) (known : List Switch) (g g' : Given) : Prop :=
  .rulebook ∈ known ∧ Gains path g g'

theorem Given.KnownGains.follows (path : Text) (known : List Switch) :
    Follows (KnownGains path known) := by
  rintro g g' a' s value ⟨member, gains⟩ adds
  obtain ⟨a, adds, gains⟩ := Gains.follows path gains adds
  exact ⟨a, adds, member, gains⟩

theorem Spells.replaces (spelled : Spells path written) (known : List Switch) (back : List Text) :
    Replaces (Given.KnownGains path known) known [] written back where
  isSwitch := spelled.exists_cons
  reads g a' rest reads := by
    obtain ⟨member, g', adds, reads⟩ := spelled.readSwitches reads
    obtain ⟨a, reads, gains⟩ :=
      (Given.Gains.follows path).readSwitches (Given.gains_of_add adds) reads
    exact ⟨a, reads, member, gains⟩

/-! ### Whole command lines -/

theorem Given.Gains.command (gains : Gains path g a') {subcommand : Subcommand}
    (takes : .rulebook ∈ subcommand.switches) {input : Option Text} {command : Command}
    (reads : subcommand.command a' input = .ok command) :
    command.rulebook = some path ∧
      subcommand.command g input = .ok (command.withRulebook none) := by
  have full := gains.has_of_ne (s := .full) (by decide)
  have pretty := gains.has_of_ne (s := .pretty) (by decide)
  have json := gains.has_of_ne (s := .json) (by decide)
  unfold Subcommand.command at reads ⊢
  rw [gains.value?_rulebook, full, pretty, json]
  rw [gains.named] at reads
  cases subcommand with
  | parse | sections =>
    cases reads
    exact ⟨rfl, rfl⟩
  | dialogues => nomatch takes
  | config =>
    cases input with
    | none =>
      cases reads
      exact ⟨rfl, rfl⟩
    | some _ => nomatch reads

end Reading

/-- Without the rulebook, which comes before any two dashes, a command line asks for the same
command without a rulebook. -/
theorem Spells.ofArguments {path : Text} {written front back : List Text} {request : Request}
    (spelled : Spells path written) (before : endOfSwitches ∉ front)
    (reads : Request.ofArguments (front ++ (written ++ back)) = .ok request) :
    request.command.rulebook = some path ∧ Request.ofArguments (front ++ back) =
      .ok { request with command := request.command.withRulebook none } := by
  obtain ⟨b, subcommand, a', input, command, names, made, rfl⟩ := ofArguments_eq_ok_iff.mp reads
  rcases Replaces.names (spelled.replaces · back) (Given.KnownGains.follows path) before names with
    ⟨_, -, member, -⟩ | ⟨a, names, member, gains⟩
  · exact absurd member (by decide)
  · obtain ⟨same, made⟩ := gains.command member made
    have verbose := gains.has_of_ne (s := .verbose) (by decide)
    have quiet := gains.has_of_ne (s := .quiet) (by decide)
    have count := gains.count_of_ne (s := .verbose) (by decide)
    refine ⟨same, ofArguments_eq_ok_iff.mpr ⟨b, subcommand, a, input, _, names, made, ?_⟩⟩
    rw [Request.ofGiven, Request.ofGiven, verbose, quiet, count]

end Storygraph.Cli
