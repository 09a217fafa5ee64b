import Storygraph.Proofs.Pattern.Anchored
import Storygraph.Proofs.Pattern.LetterCase

/-!
# Patterns at the start of a line

A pattern takes part in the classification of a line if it has a match from the very start of the
line, and a rulebook is accepted if each of its patterns is valid by itself, with room for two
levels more, and does not end in a comment (`Pattern.Fits`). The one exception is a pattern with a
parenthesis that closes no group of it (`Pattern.Unopened`): behind `^(?:` it closes the group that
the pattern is put in, so that what follows may match anywhere.
-/

namespace Storygraph

open Pattern

namespace Pattern

def Unopened (pattern : Text) : Prop :=
  ∃ error, compile pattern = .error error ∧ error.fault = .groupUnopened

def MatchesAtStart (pattern line : Text) : Prop :=
  ∃ r w y, compile pattern = .ok r ∧ line = w ++ y ∧ r.Matches none w y.head?

/-- The pattern is valid by itself, and the group that it is put in neither nests it too deeply nor
is left open by a comment. -/
structure Fits (pattern : Text) : Prop where
  valid : Valid pattern
  shallow : Shallow pattern
  ends : ¬EndsInComment pattern

def Anchors (pattern : Text) (anchored : Regex) : Prop :=
  Fits pattern ∧ ∃ r, compile pattern = .ok r ∧ anchored = .seq .lineStart r

theorem Anchors.isMatch_iff {pattern : Text} {r : Regex} (anchors : Anchors pattern r)
    (line : Text) : r.isMatch line = true ↔ MatchesAtStart pattern line := by
  obtain ⟨-, own, compiled, rfl⟩ := anchors
  rw [Regex.isMatch_lineStart]
  constructor
  · rintro ⟨w, y, cut, here⟩
    exact ⟨own, w, y, compiled, cut, here⟩
  · rintro ⟨r, w, y, compiled', cut, here⟩
    obtain rfl := Except.ok.inj (compiled.symm.trans compiled')
    exact ⟨w, y, cut, here⟩

end Pattern

/-- How a line is classified by the patterns that match at its start: any ignored pattern, or else
the first of the rules, or else the default. -/
inductive Rulebook.Classifies (book : Rulebook) (line : Text) : Option Kind → Prop
  | ignored {pattern : Text} (member : pattern ∈ book.ignored)
      (here : MatchesAtStart pattern line) : Classifies book line none
  | rule {before after : List Rule} {rule : Rule}
      (counts : ∀ pattern ∈ book.ignored, ¬MatchesAtStart pattern line)
      (order : book.rules = before ++ rule :: after)
      (earlier : ∀ other ∈ before, ¬MatchesAtStart other.pattern line)
      (here : MatchesAtStart rule.pattern line) : Classifies book line (some (.ofTag rule.name))
  | default (counts : ∀ pattern ∈ book.ignored, ¬MatchesAtStart pattern line)
      (others : ∀ rule ∈ book.rules, ¬MatchesAtStart rule.pattern line) :
      Classifies book line (some (.ofTag book.defaultTag))

/-- That is to say what the rulebook decides if its patterns match at the start of lines. -/
theorem Rulebook.classifies_iff {book : Rulebook} {line : Text} {answer : Option Kind} :
    book.Classifies line answer ↔ book.Decides (MatchesAtStart · line) answer := by
  constructor
  · intro classifies
    cases classifies with
    | ignored member here => exact .ignored member here
    | rule counts order earlier here => exact .rule counts ⟨_, _, order, here, earlier⟩
    | default counts others => exact .default counts others
  · intro decides
    cases decides with
    | ignored member here => exact .ignored member here
    | rule counts first =>
      obtain ⟨before, after, order, here, earlier⟩ := first
      exact .rule counts order earlier here
    | default counts others => exact .default counts others

namespace Classifier

variable {book : Rulebook} {c : Classifier}

structure AnchorsAll (book : Rulebook) (c : Classifier) : Prop where
  ignored : List.Forall₂ Anchors book.ignored c.ignored
  rules : List.Forall₂ (fun rule compiled => Anchors rule.pattern compiled.1 ∧
    compiled.2 = .ofTag rule.name) book.rules c.rules
  default : c.default = .ofTag book.defaultTag

theorem anchors_of_compile {pattern : Text} {r : Regex} (opened : ¬Unopened pattern)
    (compiled : compile (anchored pattern) = .ok r) : Anchors pattern r := by
  obtain ⟨own, alone, shallow, ends, same⟩ := (compile_of_anchored compiled).resolve_right opened
  exact ⟨⟨⟨own, alone⟩, shallow, ends⟩, own, alone, same⟩

theorem anchorsAll_of_ofRulebook (opened : ∀ pattern ∈ book.patterns, ¬Unopened pattern)
    (of : ofRulebook book = .ok c) : AnchorsAll book c := by
  have made := ofRulebook_eq_ok_iff.mp of
  have ignored := (List.forall₂_and_left _ _).mpr
    ⟨fun pattern member => opened pattern (List.mem_append_left _ member), made.ignored⟩
  have rules := (List.forall₂_and_left _ _).mpr
    ⟨fun rule member => opened rule.pattern (List.mem_append_right _ (List.mem_map_of_mem member)),
      made.rules⟩
  refine ⟨ignored.imp fun _ _ both => anchors_of_compile both.1 both.2, ?_, made.default⟩
  exact rules.imp fun _ _ both => ⟨anchors_of_compile both.1 both.2.1, both.2.2⟩

namespace AnchorsAll

variable (anchors : AnchorsAll book c) (line : Text)

include anchors

omit line in
theorem fits : ∀ pattern ∈ book.patterns, Fits pattern := by
  have ignored := anchors.ignored.imp fun pattern r here => And.intro here.1 here
  have rules := anchors.rules.imp fun rule q here => And.intro here.1.1 here
  intro pattern member
  rcases List.mem_append.mp member with member | member
  · exact ((List.forall₂_and_left _ _).mp ignored).1 pattern member
  · obtain ⟨rule, listed, rfl⟩ := List.mem_map.mp member
    exact ((List.forall₂_and_left _ _).mp rules).1 rule listed

theorem follows : Follows book (MatchesAtStart · line) line c where
  ignored := anchors.ignored.imp fun _ _ here => here.isMatch_iff line
  rules := anchors.rules.imp fun _ _ here => ⟨here.1.isMatch_iff line, here.2⟩
  default := anchors.default

end AnchorsAll

theorem exists_ofRulebook_iff : (∃ c, ofRulebook book = .ok c) ↔
    ∀ pattern ∈ book.patterns, ∃ r, compile (anchored pattern) = .ok r := by
  have parts : book.patterns = book.roles.map Prod.snd := by
    simp [Rulebook.patterns, Rulebook.roles, Function.comp_def]
  rw [exists_ofRulebook_iff_roles, parts, List.forall_mem_map]
  exact forall₂_congr fun part _ => not_refused_iff

theorem exists_ofRulebook (fits : ∀ pattern ∈ book.patterns, Fits pattern) :
    ∃ c, ofRulebook book = .ok c := by
  apply exists_ofRulebook_iff.mpr
  intro pattern member
  obtain ⟨⟨r, compiled⟩, shallow, ends⟩ := fits pattern member
  exact ⟨.seq .lineStart r, compile_anchored compiled shallow ends⟩

/-- Patterns mean what they mean at the start of a line, but for those with a parenthesis that
closes no group. A rulebook without such patterns is accepted if and only if each of them is valid
by itself, with room for the two levels around it, and does not end in a comment. Then every line is
classified by the patterns that match from its very start. -/
theorem classify_at_start (opened : ∀ pattern ∈ book.patterns, ¬Unopened pattern) :
    ((∃ c, ofRulebook book = .ok c) ↔ ∀ pattern ∈ book.patterns, Fits pattern) ∧
    ∀ c, ofRulebook book = .ok c →
      ∀ line answer, c.classify line = answer ↔ book.Classifies line answer := by
  refine ⟨⟨?_, exists_ofRulebook⟩, fun c of line answer => ?_⟩
  · rintro ⟨c, of⟩
    exact (anchorsAll_of_ofRulebook opened of).fits
  · rw [Rulebook.classifies_iff]
    exact ((anchorsAll_of_ofRulebook opened of).follows line).classify_eq_iff

/-- A rulebook with alternatives, a class, flags and a comment that ends before the pattern does. -/
def scenes : Rulebook where
  rules := [
    Rulebook.rule "choice" "->|[*+]" "Choice",
    Rulebook.rule "jump" "(?x) (goto | jump) # a scene\n \\b" "Jump"]
  defaultTag := "dialogue".toList
  ignored := ["#|$".toList]

theorem classify_at_start_scenes : (∀ pattern ∈ scenes.patterns, ¬Unopened pattern) ∧
    ∃ c, ofRulebook scenes = .ok c ∧
      ∀ line answer, c.classify line = answer ↔ scenes.Classifies line answer := by
  have compiles : ∀ pattern ∈ scenes.patterns, (compile pattern).toOption.isSome = true := by
    decide +kernel
  have nesting : ∀ pattern ∈ scenes.patterns,
      (parse pattern).toOption.all (fun e => (e.tooDeep? (maxDepth - 2)).isNone) = true := by
    decide +kernel
  have closed : ∀ pattern ∈ scenes.patterns,
      (compile (pattern ++ [')'])).toOption.isSome = false := by
    decide +kernel
  have valid (pattern : Text) (member : pattern ∈ scenes.patterns) : Valid pattern := by
    have here := compiles pattern member
    cases compiled : compile pattern with
    | error error =>
      rw [compiled] at here
      cases here
    | ok r => exact ⟨r, compiled⟩
  have opened (pattern : Text) (member : pattern ∈ scenes.patterns) : ¬Unopened pattern := by
    rintro ⟨error, failed, -⟩
    obtain ⟨r, compiled⟩ := valid pattern member
    cases failed.symm.trans compiled
  have shallow (pattern : Text) (member : pattern ∈ scenes.patterns) : Shallow pattern := by
    intro e read
    have here := nesting pattern member
    rw [read] at here
    exact Option.isNone_iff_eq_none.mp here
  have ends (pattern : Text) (member : pattern ∈ scenes.patterns) : ¬EndsInComment pattern := by
    rintro ⟨r, compiled⟩
    have here := closed pattern member
    rw [compiled] at here
    cases here
  obtain ⟨accepted, meant⟩ := classify_at_start opened
  obtain ⟨c, of⟩ := accepted.mpr fun pattern member =>
    ⟨valid pattern member, shallow pattern member, ends pattern member⟩
  exact ⟨opened, c, of, meant c of⟩

/-- A rulebook whose pattern closes a group that it has not opened. -/
def wild : Rulebook where
  rules := [Rulebook.rule "wild" "a)|(b" "Anything with a b"]
  defaultTag := "dialogue".toList
  ignored := []

/-- The rulebook is accepted although its pattern is not valid by itself, and its rule takes a line
whose start the pattern does not match. -/
theorem wild_accepted : ∃ c, ofRulebook wild = .ok c ∧
    ¬(∀ pattern ∈ wild.patterns, Valid pattern) ∧
    c.classify "xb".toList = some (.ofTag "wild".toList) ∧
    ¬wild.Classifies "xb".toList (some (.ofTag "wild".toList)) := by
  have classified : (ofRulebook wild).toOption.map (·.classify "xb".toList) =
      some (some (.ofTag "wild".toList)) := by
    decide +kernel
  have refused : (compile "a)|(b".toList).toOption.isNone = true := by decide +kernel
  have invalid : ¬Valid "a)|(b".toList := by
    rintro ⟨r, compiled⟩
    rw [compiled] at refused
    cases refused
  have silent (rule : Rule) (member : rule ∈ wild.rules) (line : Text) :
      ¬MatchesAtStart rule.pattern line := by
    rintro ⟨r, w, y, compiled, -⟩
    obtain rfl := List.mem_singleton.mp member
    exact invalid ⟨r, compiled⟩
  cases of : ofRulebook wild with
  | error bad =>
    rw [of] at classified
    cases classified
  | ok c =>
    rw [of] at classified
    refine ⟨c, rfl, ?_, Option.some.inj classified, ?_⟩
    · exact fun valid => invalid (valid _ (List.mem_singleton.mpr rfl))
    · intro here
      generalize answer : some (Kind.ofTag "wild".toList) = kind at here
      cases here with
      | ignored => cases answer
      | rule _ order _ here =>
        refine silent _ ?_ _ here
        rw [order]
        exact List.mem_append_right _ List.mem_cons_self
      | default => exact absurd answer (by decide)

end Classifier

end Storygraph
