import Storygraph.Classifier
import Storygraph.Proofs.Outcomes

/-!
# Compiled rulebooks

A rulebook is compiled pattern by pattern, the ignored ones first, up to the first one that is
refused (`ofRulebook_eq_error_iff`). If none is refused, the classifier has the patterns and the
kinds of the rulebook in their order (`ofRulebook_eq_ok_iff`), and decides about lines as the
rulebook does (`Follows.decides`).
-/

namespace Storygraph

open Pattern (anchored)

namespace Pattern

def Refused (pattern : Text) : Prop := ∃ error, compile (anchored pattern) = .error error

def MatchesAnchored (line pattern : Text) : Prop :=
  ∃ r, compile (anchored pattern) = .ok r ∧ r.isMatch line = true

theorem not_refused_iff {pattern : Text} :
    ¬Refused pattern ↔ ∃ r, compile (anchored pattern) = .ok r := by
  rw [Refused]
  cases compile (anchored pattern) <;> simp

instance (pattern : Text) : Decidable (Refused pattern) :=
  decidable_of_iff ((compile (anchored pattern)).toOption.isNone = true) <| by
    rw [Refused]
    cases compile (anchored pattern) <;> simp [Except.toOption]

instance (line pattern : Text) : Decidable (MatchesAnchored line pattern) :=
  decidable_of_iff ((compile (anchored pattern)).toOption.any (·.isMatch line) = true) <| by
    rw [MatchesAnchored]
    cases compile (anchored pattern) <;> simp [Except.toOption]

theorem isMatch_iff_matchesAnchored {line pattern : Text} {r : Regex}
    (compiled : compile (anchored pattern) = .ok r) :
    r.isMatch line = true ↔ MatchesAnchored line pattern := by
  simp [MatchesAnchored, compiled]

end Pattern

open Pattern (Refused MatchesAnchored)

namespace Rulebook

/-- The patterns of a rulebook with what they are for, in the order in which they are compiled. -/
def roles (book : Rulebook) : List (PatternRole × Text) :=
  book.ignored.map (.ignored, ·) ++ book.rules.map (.rule, ·.pattern)

/-- What a rulebook says about a line, given what patterns match it: the line is ignored if an
ignored pattern does, or else it has the kind of the first rule that does, or else the default. -/
inductive Decides (book : Rulebook) (matched : Text → Prop) : Option Kind → Prop
  | ignored {pattern : Text} (member : pattern ∈ book.ignored) (here : matched pattern) :
      Decides book matched none
  | rule {rule : Rule} (counts : ∀ pattern ∈ book.ignored, ¬matched pattern)
      (first : FirstWith (fun rule => matched rule.pattern) book.rules rule) :
      Decides book matched (some (.ofTag rule.name))
  | default (counts : ∀ pattern ∈ book.ignored, ¬matched pattern)
      (others : ∀ rule ∈ book.rules, ¬matched rule.pattern) :
      Decides book matched (some (.ofTag book.defaultTag))

theorem Decides.unique {book : Rulebook} {matched : Text → Prop} {answer other : Option Kind}
    (first : book.Decides matched answer) (second : book.Decides matched other) :
    answer = other := by
  cases first with
  | ignored member here =>
    cases second with
    | ignored => rfl
    | rule counts | default counts => exact absurd here (counts _ member)
  | rule counts chosen =>
    cases second with
    | ignored member here => exact absurd here (counts _ member)
    | rule _ chosen' => rw [chosen.unique chosen']
    | default _ others => exact absurd chosen.holds (others _ chosen.mem)
  | default counts others =>
    cases second with
    | ignored member here => exact absurd here (counts _ member)
    | rule _ chosen => exact absurd chosen.holds (others _ chosen.mem)
    | default => rfl

end Rulebook

namespace Classifier

variable {book : Rulebook} {c : Classifier}

/-! ### Single patterns -/

theorem compilePattern_eq_ok_iff {role : PatternRole} {pattern : Text} {r : Pattern.Regex} :
    compilePattern role pattern = .ok r ↔ Pattern.compile (anchored pattern) = .ok r := by
  rw [compilePattern]
  cases Pattern.compile (anchored pattern) <;> simp [Except.mapError]

theorem compilePattern_eq_error_iff {role : PatternRole} {pattern : Text} {bad : BadPattern} :
    compilePattern role pattern = .error bad ↔
      (role, pattern) = (bad.role, bad.pattern) ∧
        Pattern.compile (anchored bad.pattern) = .error bad.error := by
  obtain ⟨role', pattern', error'⟩ := bad
  rw [compilePattern, Prod.mk.injEq, and_assoc]
  cases ends : Pattern.compile (anchored pattern) with
  | error error =>
    simp only [Except.mapError, Except.error.injEq, BadPattern.mk.injEq]
    refine and_congr_right fun _ => and_congr_right fun same => ?_
    rw [← same, ends, Except.error.injEq]
  | ok r =>
    refine ⟨nofun, ?_⟩
    rintro ⟨-, rfl, fails⟩
    rw [ends] at fails
    nomatch fails

def compileRule (rule : Rule) : Except BadPattern (Pattern.Regex × Kind) := do
  return (← compilePattern .rule rule.pattern, Kind.ofTag rule.name)

theorem compileRule_eq_ok_iff {rule : Rule} {q : Pattern.Regex × Kind} :
    compileRule rule = .ok q ↔
      Pattern.compile (anchored rule.pattern) = .ok q.1 ∧ q.2 = .ofTag rule.name := by
  constructor
  · intro made
    obtain ⟨r, compiled, made⟩ := bind_ok made
    cases made
    exact ⟨compilePattern_eq_ok_iff.mp compiled, rfl⟩
  · rintro ⟨compiled, kind⟩
    rw [compileRule, compilePattern_eq_ok_iff.mpr compiled, ← kind]
    rfl

theorem compileRule_eq_error_iff {rule : Rule} {bad : BadPattern} :
    compileRule rule = .error bad ↔
      (.rule, rule.pattern) = (bad.role, bad.pattern) ∧
        Pattern.compile (anchored bad.pattern) = .error bad.error := by
  rw [← compilePattern_eq_error_iff, compileRule, bind_eq_error_iff]
  exact or_iff_left nofun

theorem ofRulebook_eq (book : Rulebook) :
    ofRulebook book = do
      let ignored ← book.ignored.mapM (compilePattern .ignored)
      let rules ← book.rules.mapM compileRule
      return ⟨ignored, rules, .ofTag book.defaultTag⟩ := rfl

/-! ### Whole rulebooks -/

structure CompiledFrom (book : Rulebook) (c : Classifier) : Prop where
  ignored : List.Forall₂ (fun pattern r => Pattern.compile (anchored pattern) = .ok r)
    book.ignored c.ignored
  rules : List.Forall₂ (fun rule q => Pattern.compile (anchored rule.pattern) = .ok q.1 ∧
    q.2 = .ofTag rule.name) book.rules c.rules
  default : c.default = .ofTag book.defaultTag

theorem ofRulebook_eq_ok_iff : ofRulebook book = .ok c ↔ c.CompiledFrom book := by
  constructor
  · intro of
    obtain ⟨ignored, first, of⟩ := bind_ok of
    obtain ⟨rules, second, of⟩ := bind_ok of
    cases of
    refine ⟨(mapM_eq_ok_iff.mp first).imp fun _ _ => compilePattern_eq_ok_iff.mp, ?_, rfl⟩
    exact (mapM_eq_ok_iff.mp second).imp fun _ _ => compileRule_eq_ok_iff.mp
  · intro compiled
    have ignored : book.ignored.mapM (compilePattern .ignored) = .ok c.ignored :=
      mapM_eq_ok_iff.mpr (compiled.ignored.imp fun _ _ => compilePattern_eq_ok_iff.mpr)
    have rules := mapM_eq_ok_iff.mpr (compiled.rules.imp fun _ _ => compileRule_eq_ok_iff.mpr)
    rw [ofRulebook_eq, ignored, ok_bind, rules, ok_bind, ← compiled.default]
    rfl

theorem mapM_eq_error_iff_refused {α β : Type} {f : α → Except BadPattern β}
    {part : α → PatternRole × Text}
    (fails : ∀ x bad, f x = .error bad ↔ part x = (bad.role, bad.pattern) ∧
      Pattern.compile (anchored bad.pattern) = .error bad.error)
    {xs : List α} {bad : BadPattern} :
    xs.mapM f = .error bad ↔
      FirstWith (fun part => Refused part.2) (xs.map part) (bad.role, bad.pattern) ∧
        Pattern.compile (anchored bad.pattern) = .error bad.error := by
  have refused : ∀ x, (∃ bad, f x = .error bad) ↔ Refused (part x).2 := by
    intro x
    constructor
    · rintro ⟨bad, failed⟩
      obtain ⟨same, failed⟩ := (fails x bad).mp failed
      rw [same]
      exact ⟨bad.error, failed⟩
    · rintro ⟨error, failed⟩
      exact ⟨⟨(part x).1, (part x).2, error⟩, (fails x _).mpr ⟨rfl, failed⟩⟩
  rw [mapM_eq_error_iff, firstWith_map]
  simp only [refused]
  simp only [fails, ← and_assoc, exists_and_right]

theorem exists_mapM_compilePattern_iff {role : PatternRole} {patterns : List Text} :
    (∃ rs, patterns.mapM (compilePattern role) = .ok rs) ↔
      ∀ pattern ∈ patterns, ¬Refused pattern := by
  rw [exists_mapM_iff]
  refine forall₂_congr fun pattern _ => ?_
  simp only [compilePattern_eq_ok_iff, Pattern.not_refused_iff]

theorem ofRulebook_eq_error_iff {bad : BadPattern} :
    ofRulebook book = .error bad ↔
      FirstWith (fun part => Refused part.2) book.roles (bad.role, bad.pattern) ∧
        Pattern.compile (anchored bad.pattern) = .error bad.error := by
  have ignored := @mapM_eq_error_iff_refused _ _ (compilePattern .ignored) (Prod.mk .ignored)
    (fun _ _ => compilePattern_eq_error_iff) book.ignored bad
  have rules := @mapM_eq_error_iff_refused _ _ compileRule (fun rule => (.rule, rule.pattern))
    (fun _ _ => compileRule_eq_error_iff) book.rules bad
  have last (rs : List Pattern.Regex) : (do
      let rules ← book.rules.mapM compileRule
      return ⟨rs, rules, .ofTag book.defaultTag⟩ : Except BadPattern Classifier) = .error bad ↔
        book.rules.mapM compileRule = .error bad :=
    bind_eq_error_iff.trans (or_iff_left nofun)
  rw [Rulebook.roles, firstWith_append, or_and_right, and_assoc, ← ignored, ← rules, ofRulebook_eq,
    bind_eq_error_iff]
  simp only [last, exists_and_right, exists_mapM_compilePattern_iff, List.forall_mem_map]

theorem exists_ofRulebook_iff_roles :
    (∃ c, ofRulebook book = .ok c) ↔ ∀ part ∈ book.roles, ¬Refused part.2 := by
  cases ends : ofRulebook book with
  | error bad =>
    obtain ⟨first, -⟩ := ofRulebook_eq_error_iff.mp ends
    refine ⟨?_, fun fine => absurd first.holds (fine _ first.mem)⟩
    rintro ⟨c, of⟩
    nomatch of
  | ok c =>
    refine ⟨fun _ part member refused => ?_, fun _ => ⟨c, rfl⟩⟩
    obtain ⟨⟨role, pattern⟩, first⟩ :=
      exists_firstWith (fun part : PatternRole × Text => Refused part.2) member refused
    obtain ⟨error, fails⟩ := first.holds
    have failed : ofRulebook book = .error ⟨role, pattern, error⟩ :=
      ofRulebook_eq_error_iff.mpr ⟨first, fails⟩
    nomatch ends.symm.trans failed

/-! ### Lines -/

structure Follows (book : Rulebook) (matched : Text → Prop) (line : Text) (c : Classifier) :
    Prop where
  ignored : List.Forall₂ (fun pattern r => r.isMatch line = true ↔ matched pattern)
    book.ignored c.ignored
  rules : List.Forall₂ (fun rule q => (q.1.isMatch line = true ↔ matched rule.pattern) ∧
    q.2 = .ofTag rule.name) book.rules c.rules
  default : c.default = .ofTag book.defaultTag

/-- Searching one list finds what stands beside the first in the other list. -/
theorem find?_of_forall₂ {α β : Type} {R : α → β → Prop} {p : α → Prop} {q : β → Bool}
    {xs : List α} {ys : List β} (related : List.Forall₂ R xs ys)
    (same : ∀ x y, R x y → (q y = true ↔ p x)) :
    (∃ x y, FirstWith p xs x ∧ ys.find? q = some y ∧ R x y) ∨
      (∀ x ∈ xs, ¬p x) ∧ ys.find? q = none := by
  induction related with
  | nil => exact Or.inr ⟨nofun, rfl⟩
  | @cons x y xs ys here _ ih =>
    rw [List.find?_cons]
    cases holds : q y with
    | true =>
      have first : FirstWith p (x :: xs) x :=
        firstWith_cons.mpr (Or.inl ⟨rfl, (same x y here).mp holds⟩)
      exact Or.inl ⟨x, y, first, rfl, here⟩
    | false =>
      have silent : ¬p x := by
        rw [← same x y here, holds]
        exact Bool.false_ne_true
      rcases ih with ⟨x', y', first, found, beside⟩ | ⟨others, missing⟩
      · exact Or.inl ⟨x', y', firstWith_cons.mpr (Or.inr ⟨silent, first⟩), found, beside⟩
      · exact Or.inr ⟨List.forall_mem_cons.mpr ⟨silent, others⟩, missing⟩

namespace Follows

variable {matched : Text → Prop} {line : Text}

theorem any_ignored_iff (follows : Follows book matched line c) :
    c.ignored.any (·.isMatch line) = true ↔ ∃ pattern ∈ book.ignored, matched pattern := by
  rcases find?_of_forall₂ follows.ignored fun _ _ => id with
    ⟨pattern, r, first, found, -⟩ | ⟨others, missing⟩
  · have holds := List.find?_some found
    have any : c.ignored.any (·.isMatch line) = true :=
      List.any_eq_true.mpr ⟨r, List.mem_of_find?_eq_some found, holds⟩
    exact iff_of_true any ⟨pattern, first.mem, first.holds⟩
  · refine iff_of_false ?_ ?_
    · simpa using missing
    · simpa using others

theorem decides (follows : Follows book matched line c) :
    book.Decides matched (c.classify line) := by
  rw [classify]
  split
  · rename_i ignored
    obtain ⟨pattern, member, here⟩ := follows.any_ignored_iff.mp ignored
    exact .ignored member here
  · rename_i shown
    have counts (pattern : Text) (member : pattern ∈ book.ignored) : ¬matched pattern :=
      fun here => shown (follows.any_ignored_iff.mpr ⟨pattern, member, here⟩)
    rcases find?_of_forall₂ follows.rules fun _ _ beside => beside.1 with
      ⟨rule, q, first, found, -, kind⟩ | ⟨others, missing⟩
    · rw [found, Option.map_some, Option.getD_some, kind]
      exact .rule counts first
    · rw [missing, Option.map_none, Option.getD_none, follows.default]
      exact .default counts others

theorem classify_eq_iff (follows : Follows book matched line c) {answer : Option Kind} :
    c.classify line = answer ↔ book.Decides matched answer := by
  refine ⟨?_, follows.decides.unique⟩
  rintro rfl
  exact follows.decides

end Follows

theorem CompiledFrom.follows (compiled : c.CompiledFrom book) (line : Text) :
    Follows book (MatchesAnchored line) line c where
  ignored := compiled.ignored.imp fun _ _ => Pattern.isMatch_iff_matchesAnchored
  rules := compiled.rules.imp fun _ _ made => ⟨Pattern.isMatch_iff_matchesAnchored made.1, made.2⟩
  default := compiled.default

/-- A rulebook compiles if and only if none of its patterns is refused. If one is, the failure tells
the first one, as the rulebook has it, and what it is for. If none is, the classifier has the
patterns and the kinds of the rulebook in their order, and the first rule that matches a line
counts. -/
theorem ofRulebook_outcomes (book : Rulebook) :
    ((∃ c, ofRulebook book = .ok c) ↔ ∀ part ∈ book.roles, ¬Refused part.2) ∧
    (∀ bad, ofRulebook book = .error bad ↔
      FirstWith (fun part => Refused part.2) book.roles (bad.role, bad.pattern) ∧
        Pattern.compile (anchored bad.pattern) = .error bad.error) ∧
    ∀ c, (ofRulebook book = .ok c ↔ c.CompiledFrom book) ∧
      (ofRulebook book = .ok c → ∀ line answer,
        c.classify line = answer ↔ book.Decides (MatchesAnchored line) answer) := by
  refine ⟨exists_ofRulebook_iff_roles, fun bad => ofRulebook_eq_error_iff, fun c => ?_⟩
  refine ⟨ofRulebook_eq_ok_iff, fun of line answer => ?_⟩
  exact ((ofRulebook_eq_ok_iff.mp of).follows line).classify_eq_iff

/-- Two rules match the line, and the first one counts. Of two more rules with groups that are not
closed, the first one is named. -/
theorem ofRulebook_outcomes_camera :
    let pan := Rulebook.rule "camera" "pan" ""
    let book : Rulebook := ⟨[pan, Rulebook.rule "note" "pa" ""], "line".toList, ["#".toList]⟩
    let group := Rulebook.rule "group" "(" ""
    let broken := { book with rules := [pan, group, Rulebook.rule "other" "((" ""] }
    (∃ c, ofRulebook book = .ok c ∧ c.classify "Pan left".toList = some (.ofTag pan.name)) ∧
    ∃ error, ofRulebook broken = .error ⟨.rule, group.pattern, error⟩ := by
  intro pan book group broken
  obtain ⟨accepted, -, decided⟩ := ofRulebook_outcomes book
  obtain ⟨-, rejected, -⟩ := ofRulebook_outcomes broken
  constructor
  · have fine : ∀ part ∈ book.roles, ¬Refused part.2 := by decide +kernel
    obtain ⟨c, of⟩ := accepted.mpr fine
    have counts : ∀ pattern ∈ book.ignored, ¬MatchesAnchored "Pan left".toList pattern := by
      decide +kernel
    have here : MatchesAnchored "Pan left".toList pan.pattern := by decide +kernel
    exact ⟨c, of, ((decided c).2 of _ _).mpr (.rule counts ⟨[], _, rfl, here, nofun⟩)⟩
  · have refused : Refused group.pattern := by decide +kernel
    obtain ⟨error, fails⟩ := refused
    have earlier : ∀ part ∈ broken.roles.take 2, ¬Refused part.2 := by decide +kernel
    exact ⟨error, (rejected _).mpr ⟨⟨_, _, rfl, ⟨error, fails⟩, earlier⟩, fails⟩⟩

end Classifier
end Storygraph
