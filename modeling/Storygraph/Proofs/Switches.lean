import Storygraph.Cli.Arguments
import Storygraph.Proofs.Outcomes

/-!
# Reading switches

What reading switches comes to, argument by argument. Two command lines that are the same from some
argument on are read alike from there, if what was given before is related in a way that adding a
switch preserves (`Given.Follows`). Arguments can thus be replaced by others, or left out
(`Replaces.readSwitches`, `Replaces.readArguments`).
-/

namespace Storygraph.Cli

/-! ### Switches that are given -/

namespace Given

variable {g : Given} {s : Switch} {p : Switch → Bool}

theorem has_filter (kept : p s = true) : has (g.filter (p ·.1)) s = g.has s := by
  rw [has, has, List.any_filter]
  congr 1
  funext given
  by_cases same : given.1 = s
  · simp [same, kept]
  · simp [same]

theorem count_filter (kept : p s = true) : count (g.filter (p ·.1)) s = g.count s := by
  rw [count, count, List.countP_filter]
  apply List.countP_congr
  intro given _
  by_cases same : given.1 = s
  · simp [same, kept]
  · simp [same]

theorem value?_filter (kept : p s = true) : value? (g.filter (p ·.1)) s = g.value? s := by
  rw [value?, value?, List.find?_filter]
  congr 2
  funext given
  by_cases same : given.1 = s
  · simp [same, kept]
  · simp [same]

theorem has_eq_false_iff : g.has s = false ↔ ∀ given ∈ g, given.1 ≠ s := by
  simp [has]

/-- A switch is added at the end, if it is not the version and not one too many. -/
theorem add_eq_ok_iff {a : Given} {value : Text} :
    g.add s value = .ok a ↔
      s ≠ .version ∧ (g.has s = true → s.repeats = true) ∧ a = g ++ [(s, value)] := by
  unfold add
  by_cases version : s = .version
  · simp [version]
  · rw [if_neg version, and_iff_right version]
    cases given : g.has s <;> cases again : s.repeats <;> simp [eq_comm]

end Given

/-! ### Words and letters -/

namespace Switch

theorem word_injective : Function.Injective word := by
  intro s t
  cases s <;> cases t <;> decide

theorem cutAt?_word (s : Switch) : Text.cutAt? s.word ['='] = none := by
  cases s <;> decide

theorem eq_of_letter? {s t : Switch} {c : Char} (letter : s.letter? = some c)
    (letter' : t.letter? = some c) : s = t := by
  have either : s.letter? = none ∨ s.letter? ≠ t.letter? ∨ s = t := by
    cases s <;> cases t <;> decide
  rcases either with none | apart | same
  · cases none.symm.trans letter
  · exact absurd (letter.trans letter'.symm) apart
  · exact same

end Switch

section

variable {known : List Switch} {g a : Given} {waiting : Option Switch}

/-- A word alone is that of a switch, which waits for its value if it takes one. -/
theorem of_readWord {s : Switch} (reads : readWord known g s.word = .ok (a, waiting)) :
    s ∈ known ∧ if s.takesValue then a = g ∧ waiting = some s
      else g.add s [] = .ok a ∧ waiting = none := by
  simp only [readWord, s.cutAt?_word] at reads
  cases found : known.find? (·.word = s.word) with
  | none =>
    rw [found] at reads
    cases reads
  | some other =>
    obtain rfl : other = s := Switch.word_injective (by simpa using List.find?_some found)
    refine ⟨List.mem_of_find?_eq_some found, ?_⟩
    simp only [found] at reads
    split
    case isTrue takes =>
      rw [if_pos takes] at reads
      cases reads
      exact ⟨rfl, rfl⟩
    case isFalse plain =>
      rw [if_neg plain] at reads
      obtain ⟨b, adds, reads⟩ := bind_ok reads
      cases reads
      exact ⟨adds, rfl⟩

/-- A letter is that of a switch. If the switch takes a value, this is what follows the letter, or
the next argument; if it takes none, more letters follow. -/
theorem of_readLetters {c : Char} {rest : Text}
    (reads : readLetters known g (c :: rest) = .ok (a, waiting)) :
    ∃ s ∈ known, s.letter? = some c ∧
      if s.takesValue then
        if rest = [] then a = g ∧ waiting = some s
        else g.add s ((Text.dropPrefix? ['='] rest).getD rest) = .ok a ∧ waiting = none
      else ∃ b, g.add s [] = .ok b ∧ readLetters known b rest = .ok (a, waiting) := by
  unfold readLetters at reads
  cases found : known.find? (·.letter? = some c) with
  | none =>
    rw [found] at reads
    cases reads
  | some s =>
    have letter : s.letter? = some c := by simpa using List.find?_some found
    refine ⟨s, List.mem_of_find?_eq_some found, letter, ?_⟩
    simp only [found] at reads
    split
    case isTrue takes =>
      rw [if_pos takes] at reads
      split
      case isTrue last =>
        rw [if_pos last] at reads
        cases reads
        exact ⟨rfl, rfl⟩
      case isFalse more =>
        rw [if_neg more] at reads
        obtain ⟨b, adds, reads⟩ := bind_ok reads
        cases reads
        exact ⟨adds, rfl⟩
    case isFalse plain =>
      rw [if_neg plain] at reads
      exact bind_ok reads

end

/-! ### Reading with related switches -/

/-- What can be added to the second switches can be added to the first, and leaves them related. -/
def Given.Follows (R : Given → Given → Prop) : Prop :=
  ∀ ⦃g g' a' : Given⦄ ⦃s : Switch⦄ ⦃value : Text⦄, R g g' → g'.add s value = .ok a' →
    ∃ a, g.add s value = .ok a ∧ R a a'

section Reading

variable {R : Given → Given → Prop} {g g' a' : Given} {known : List Switch}
variable {waiting : Option Switch}

/-- A switch that is added ends its argument. -/
theorem Given.Follows.added (follows : Follows R) (related : R g g') {s : Switch} {value : Text}
    (reads : (do return (← g'.add s value, none) : Except Halt (Given × Option Switch)) =
      .ok (a', waiting)) :
    ∃ a, (do return (← g.add s value, none) : Except Halt (Given × Option Switch)) =
      .ok (a, waiting) ∧ R a a' := by
  obtain ⟨b', adds, reads⟩ := bind_ok reads
  cases reads
  obtain ⟨b, adds, related⟩ := follows related adds
  rw [adds]
  exact ⟨b, rfl, related⟩

theorem Given.Follows.readLetters (follows : Follows R) (related : R g g') {t : Text}
    (reads : readLetters known g' t = .ok (a', waiting)) :
    ∃ a, Cli.readLetters known g t = .ok (a, waiting) ∧ R a a' := by
  induction t generalizing g g' with
  | nil =>
    cases reads
    exact ⟨g, rfl, related⟩
  | cons c rest ih =>
    unfold Cli.readLetters at reads ⊢
    cases found : known.find? (·.letter? = some c) with
    | none =>
      rw [found] at reads
      nomatch reads
    | some s =>
      simp only [found] at reads ⊢
      split at reads
      · rename_i takes
        rw [if_pos takes]
        split at reads
        · rename_i last
          rw [if_pos last]
          cases reads
          exact ⟨g, rfl, related⟩
        · rename_i more
          rw [if_neg more]
          exact follows.added related reads
      · rename_i plain
        rw [if_neg plain]
        obtain ⟨b', adds, reads⟩ := bind_ok reads
        obtain ⟨b, adds, related⟩ := follows related adds
        rw [adds]
        exact ih related reads

theorem Given.Follows.readWord (follows : Follows R) (related : R g g') {t : Text}
    (reads : readWord known g' t = .ok (a', waiting)) :
    ∃ a, Cli.readWord known g t = .ok (a, waiting) ∧ R a a' := by
  unfold Cli.readWord at reads ⊢
  simp only at reads ⊢
  split at reads
  · nomatch reads
  · split at reads
    · rename_i takes
      rw [if_pos takes]
      exact follows.added related reads
    · nomatch reads
  · split at reads
    · rename_i takes
      rw [if_pos takes]
      cases reads
      exact ⟨g, rfl, related⟩
    · rename_i plain
      rw [if_neg plain]
      exact follows.added related reads

theorem Given.Follows.readSwitch? (follows : Follows R) (related : R g g') {argument : Text}
    (reads : readSwitch? known g' argument = some (.ok (a', waiting))) :
    ∃ a, Cli.readSwitch? known g argument = some (.ok (a, waiting)) ∧ R a a' := by
  unfold Cli.readSwitch? at reads ⊢
  split at reads
  · nomatch reads
  · nomatch reads
  · obtain ⟨a, reads, related⟩ := follows.readWord related (Option.some.inj reads)
    exact ⟨a, congrArg some reads, related⟩
  · obtain ⟨a, reads, related⟩ := follows.readLetters related (Option.some.inj reads)
    exact ⟨a, congrArg some reads, related⟩
  · nomatch reads

/-- Whether an argument is a switch does not depend on the switches before it. -/
theorem readSwitch?_eq_none {argument : Text} (none : readSwitch? known g argument = none) :
    readSwitch? known g' argument = .none := by
  unfold readSwitch? at none ⊢
  split at none
  all_goals first | rfl | nomatch none

variable {argument value : Text} {rest : List Text}

theorem readSwitches_of_none (stops : readSwitch? known g argument = none) :
    readSwitches known g (argument :: rest) = .ok (g, argument :: rest) := by
  rw [readSwitches.eq_def]
  simp only [stops]

theorem readSwitches_of_error {halt : Halt}
    (halts : readSwitch? known g argument = some (.error halt)) :
    readSwitches known g (argument :: rest) = .error halt := by
  rw [readSwitches.eq_def]
  simp only [halts]

theorem readSwitches_of_ok (reads : readSwitch? known g argument = some (.ok (g', none))) :
    readSwitches known g (argument :: rest) = readSwitches known g' rest := by
  rw [readSwitches.eq_def]
  simp only [reads]

theorem readSwitches_of_waiting {s : Switch}
    (waits : readSwitch? known g argument = some (.ok (g', some s))) :
    readSwitches known g (argument :: value :: rest) =
      if isValue value then do readSwitches known (← g'.add s value) rest
      else .error (.misuse (.missingValue s)) := by
  rw [readSwitches.eq_def]
  simp only [waits]

theorem Given.Follows.readSwitches (follows : Follows R) (related : R g g') {arguments : List Text}
    (reads : readSwitches known g' arguments = .ok (a', rest)) :
    ∃ a, Cli.readSwitches known g arguments = .ok (a, rest) ∧ R a a' := by
  fun_induction Cli.readSwitches known g' arguments generalizing g with
  | case1 =>
    cases reads
    exact ⟨g, rfl, related⟩
  | case2 _ _ _ stops =>
    cases reads
    exact ⟨g, readSwitches_of_none (readSwitch?_eq_none stops), related⟩
  | case4 _ _ _ _ passes ih =>
    obtain ⟨b, passes, related⟩ := follows.readSwitch? related passes
    rw [readSwitches_of_ok passes]
    exact ih related reads
  | case6 _ _ _ _ waits _ _ fits ih =>
    obtain ⟨b, waits, related⟩ := follows.readSwitch? related waits
    obtain ⟨added', adds, reads⟩ := bind_ok reads
    obtain ⟨added, adds, related⟩ := follows related adds
    rw [readSwitches_of_waiting waits, if_pos fits, adds]
    exact ih added' related reads
  | case3 | case5 | case7 => nomatch reads

/-- Where a switch is read the arguments after it are read too, with a value for it if it waits. -/
theorem exists_of_readSwitches {read : Except Halt (Given × Option Switch)}
    (isSwitch : readSwitch? known g argument = some read)
    (reads : readSwitches known g (argument :: back) = .ok (a', rest)) :
    ∃ g' waiting, read = .ok (g', waiting) ∧
      match waiting with
      | none => readSwitches known g' back = .ok (a', rest)
      | some s => ∃ value later, back = value :: later ∧ isValue value ∧
          ∃ a, g'.add s value = .ok a ∧ readSwitches known a later = .ok (a', rest) := by
  cases read with
  | error halt =>
    rw [readSwitches_of_error isSwitch] at reads
    nomatch reads
  | ok read =>
    obtain ⟨g', waiting⟩ := read
    refine ⟨g', waiting, rfl, ?_⟩
    cases waiting with
    | none =>
      rw [readSwitches_of_ok isSwitch] at reads
      exact reads
    | some s =>
      cases back with
      | nil =>
        rw [readSwitches.eq_def] at reads
        simp only [isSwitch] at reads
        nomatch reads
      | cons value later =>
        rw [readSwitches_of_waiting isSwitch] at reads
        split at reads
        · rename_i fits
          obtain ⟨a, adds, reads⟩ := bind_ok reads
          exact ⟨value, later, rfl, fits, a, adds, reads⟩
        · nomatch reads

/-- After switches that leave what is given related, the same arguments are read. -/
theorem Given.Follows.readSwitches_cons (follows : Follows R) {argument' : Text} {b b' : Given}
    {back : List Text} (related : R b b')
    (here : Cli.readSwitch? known g argument = some (.ok (b, waiting)))
    (here' : Cli.readSwitch? known g' argument' = some (.ok (b', waiting)))
    (reads : Cli.readSwitches known g' (argument' :: back) = .ok (a', rest)) :
    ∃ a, Cli.readSwitches known g (argument :: back) = .ok (a, rest) ∧ R a a' := by
  obtain ⟨_, _, same, goesOn⟩ := exists_of_readSwitches here' reads
  cases same
  cases waiting with
  | none =>
    rw [readSwitches_of_ok here]
    exact follows.readSwitches related goesOn
  | some s =>
    obtain ⟨value, later, rfl, fits, added', adds, goesOn⟩ := goesOn
    obtain ⟨added, adds, related⟩ := follows related adds
    rw [readSwitches_of_waiting here, if_pos fits, adds]
    exact follows.readSwitches related goesOn

/-! ### Arguments in place of others -/

variable {written shorter front back : List Text}

/-- In front of the arguments at the back, `shorter` is read where `written` is, and what is given
then is related. -/
structure Replaces (R : Given → Given → Prop) (known : List Switch)
    (shorter written back : List Text) : Prop where
  /-- No switch before them has the first of them as its value. -/
  isSwitch : ∃ argument after, written = argument :: after ∧ isValue argument = false
  reads : ∀ ⦃g a' : Given⦄ ⦃rest : List Text⦄,
    readSwitches known g (written ++ back) = .ok (a', rest) →
      ∃ a, readSwitches known g (shorter ++ back) = .ok (a, rest) ∧ R a a'

namespace Replaces

/-- Reading switches up to an argument before those that are replaced leaves these unread, and
reading them all takes these in. -/
theorem readSwitches (replaces : Replaces R known shorter written back)
    (reads : Cli.readSwitches known g (front ++ (written ++ back)) = .ok (a', rest)) :
    (∃ a, Cli.readSwitches known g (front ++ (shorter ++ back)) = .ok (a, rest) ∧ R a a') ∨
    ∃ first later, first :: later <:+ front ∧ rest = first :: (later ++ (written ++ back)) ∧
      Cli.readSwitches known g (front ++ (shorter ++ back)) =
        .ok (a', first :: (later ++ (shorter ++ back))) := by
  fun_induction Cli.readSwitches known g front with
  | case1 g => exact Or.inl (replaces.reads reads)
  | case2 g argument later stops =>
    rw [List.cons_append, readSwitches_of_none stops] at reads
    cases reads
    exact Or.inr ⟨argument, later, List.suffix_rfl, rfl, readSwitches_of_none stops⟩
  | case3 g argument later halt halts =>
    rw [List.cons_append, readSwitches_of_error halts] at reads
    nomatch reads
  | case4 g argument later given passes ih =>
    rw [List.cons_append, readSwitches_of_ok passes] at reads ⊢
    rcases ih reads with inside | ⟨first, after, suffix, same, reads⟩
    · exact Or.inl inside
    · exact Or.inr ⟨first, after, suffix.trans (List.suffix_cons _ _), same, reads⟩
  | case5 g argument given s waits =>
    obtain ⟨next, after, rfl, unfit⟩ := replaces.isSwitch
    rw [List.singleton_append, List.cons_append, readSwitches_of_waiting waits,
      if_neg (by simp [unfit])] at reads
    nomatch reads
  | case6 g argument given s waits value later fits ih =>
    rw [List.cons_append, List.cons_append, readSwitches_of_waiting waits, if_pos fits] at reads ⊢
    obtain ⟨added, adds, reads⟩ := bind_ok reads
    rw [adds]
    rcases ih added reads with inside | ⟨first, after, suffix, same, reads⟩
    · exact Or.inl inside
    · have longer := (suffix.trans (List.suffix_cons value _)).trans (List.suffix_cons argument _)
      exact Or.inr ⟨first, after, longer, same, reads⟩
  | case7 g argument given s waits value later unfit =>
    rw [List.cons_append, List.cons_append, readSwitches_of_waiting waits, if_neg unfit] at reads
    nomatch reads

end Replaces

/-! ### Arguments of subcommands -/

/-- The input whose name is read, if the arguments left after it are none or two dashes. -/
def lastInput (first : Text) : List Text → Except Halt (Option Text)
  | [] => .ok (some first)
  | next :: rest => readInput? (first :: if next = endOfSwitches then rest else next :: rest)

/-- The arguments of a subcommand are switches only, or switches and an input after two dashes, or
an input with switches before and after it. -/
inductive Arranged (known : List Switch) (arguments : List Text) :
    (given : Given) → (input : Option Text) → Prop where
  | bare {g : Given} (reads : readSwitches known [] arguments = .ok (g, [])) :
      Arranged known arguments g none
  | marked {g : Given} {last : List Text} {input : Option Text}
      (reads : readSwitches known [] arguments = .ok (g, endOfSwitches :: last))
      (ends : readInput? last = .ok input) : Arranged known arguments g input
  | named {g a : Given} {first : Text} {later last : List Text} {input : Option Text}
      (reads : readSwitches known [] arguments = .ok (g, first :: later))
      (plain : first ≠ endOfSwitches) (again : readSwitches known g later = .ok (a, last))
      (ends : lastInput first last = .ok input) : Arranged known arguments a input

theorem readArguments_eq_ok_iff {arguments : List Text} {a : Given} {input : Option Text} :
    readArguments known arguments = .ok (a, input) ↔ Arranged known arguments a input := by
  unfold readArguments
  constructor
  · intro reads
    obtain ⟨⟨g, rest⟩, start, reads⟩ := bind_ok reads
    cases rest with
    | nil =>
      cases reads
      exact .bare start
    | cons first later =>
      by_cases ended : first = endOfSwitches
      · simp only [if_pos ended] at reads
        obtain ⟨found, ends, reads⟩ := bind_ok reads
        cases reads
        exact .marked (ended ▸ start) ends
      · simp only [if_neg ended] at reads
        obtain ⟨⟨g', last⟩, again, reads⟩ := bind_ok reads
        cases last with
        | nil =>
          cases reads
          exact .named start ended again rfl
        | cons next last =>
          obtain ⟨found, ends, reads⟩ := bind_ok reads
          cases reads
          exact .named start ended again ends
  · intro arranged
    cases arranged with
    | bare reads =>
      rw [reads]
      rfl
    | marked reads ends =>
      rw [reads, ok_bind]
      simp only [if_true, ends]
      rfl
    | @named _ _ first _ last _ reads plain again ends =>
      rw [reads, ok_bind]
      simp only [if_neg plain, again, ok_bind]
      cases last with
      | nil =>
        cases ends
        rfl
      | cons next last =>
        unfold lastInput at ends
        simp only [ends]
        rfl

/-- Where arguments before any two dashes are replaced, a subcommand has the same input. -/
theorem Replaces.readArguments (replaces : Replaces R known shorter written back)
    (follows : Given.Follows R) (before : endOfSwitches ∉ front) {input : Option Text}
    (reads : readArguments known (front ++ (written ++ back)) = .ok (a', input)) :
    ∃ a, Cli.readArguments known (front ++ (shorter ++ back)) = .ok (a, input) ∧ R a a' := by
  simp only [readArguments_eq_ok_iff] at reads ⊢
  have unmarked : ∀ {first later}, first :: later <:+ front → first ≠ endOfSwitches := by
    intro first later suffix same
    exact before (same ▸ suffix.subset List.mem_cons_self)
  cases reads with
  | bare reads =>
    rcases replaces.readSwitches reads with ⟨a, reads, related⟩ | ⟨_, _, _, same, -⟩
    · exact ⟨a, .bare reads, related⟩
    · nomatch same
  | marked reads ends =>
    rcases replaces.readSwitches reads with ⟨a, reads, related⟩ | ⟨_, _, suffix, same, -⟩
    · exact ⟨a, .marked reads ends, related⟩
    · cases same
      exact absurd rfl (unmarked suffix)
  | named reads plain again ends =>
    rcases replaces.readSwitches reads with ⟨g, reads, related⟩ | ⟨_, later, suffix, same, shorter⟩
    · obtain ⟨a, again, related⟩ := follows.readSwitches related again
      exact ⟨a, .named reads plain again ends, related⟩
    · cases same
      rcases replaces.readSwitches again with ⟨a, again, related⟩ | ⟨_, _, inner, rfl, -⟩
      · exact ⟨a, .named shorter plain again ends, related⟩
      -- Two names stand before what is replaced, and one of them is too many.
      · have second := unmarked (inner.trans ((List.suffix_cons _ _).trans suffix))
        simp only [lastInput, if_neg second] at ends
        nomatch ends

/-! ### Whole command lines -/

def mainSwitches : List Switch := .version :: Subcommand.shared

/-- The arguments name a subcommand, with switches before it and arguments of its own after it. -/
inductive Names (arguments : List Text) : (before : Given) → (subcommand : Subcommand) →
    (after : Given) → (input : Option Text) → Prop where
  | subcommand {before after : Given} {name : Text} {later : List Text} {subcommand : Subcommand}
      {input : Option Text}
      (start : readSwitches mainSwitches [] arguments = .ok (before, name :: later))
      (named : Subcommand.named? name = some subcommand)
      (own : readArguments subcommand.switches later = .ok (after, input)) :
      Names arguments before subcommand after input

def Request.ofGiven (before after : Given) (command : Command) : Request where
  command := command
  verbosity := if after.has .verbose then after.count .verbose else before.count .verbose
  quiet := before.has .quiet || after.has .quiet

theorem ofArguments_eq_ok_iff {arguments : List Text} {request : Request} :
    Request.ofArguments arguments = .ok request ↔
      ∃ before subcommand after input command, Names arguments before subcommand after input ∧
        subcommand.command after input = .ok command ∧
        request = .ofGiven before after command := by
  unfold Request.ofArguments
  constructor
  · intro reads
    obtain ⟨⟨before, rest⟩, start, reads⟩ := bind_ok reads
    cases rest with
    | nil => nomatch reads
    | cons name later =>
      simp only at reads
      split at reads
      · nomatch reads
      · rename_i subcommand named
        obtain ⟨⟨after, input⟩, own, reads⟩ := bind_ok reads
        obtain ⟨command, made, reads⟩ := bind_ok reads
        cases reads
        exact ⟨before, subcommand, after, input, command, ⟨start, named, own⟩, made, rfl⟩
  · rintro ⟨before, subcommand, after, input, command, ⟨start, named, own⟩, made, rfl⟩
    rw [mainSwitches] at start
    rw [start, ok_bind]
    simp only [named, own, ok_bind, made]
    rfl

/-- Where arguments before any two dashes are replaced, the same subcommand has the same input, and
the switches before it or after it are related. -/
theorem Replaces.names {R : List Switch → Given → Given → Prop}
    (replaces : ∀ known, Replaces (R known) known shorter written back)
    (follows : ∀ known, Given.Follows (R known)) (before : endOfSwitches ∉ front)
    {b' a' : Given} {subcommand : Subcommand} {input : Option Text}
    (names : Names (front ++ (written ++ back)) b' subcommand a' input) :
    (∃ b, Names (front ++ (shorter ++ back)) b subcommand a' input ∧ R mainSwitches b b') ∨
    ∃ a, Names (front ++ (shorter ++ back)) b' subcommand a input ∧ R subcommand.switches a a' := by
  obtain ⟨start, named, own⟩ := names
  rcases (replaces mainSwitches).readSwitches start with
    ⟨b, start, related⟩ | ⟨_, later, suffix, same, begun⟩
  · exact Or.inl ⟨b, ⟨start, named, own⟩, related⟩
  · cases same
    have inside : endOfSwitches ∉ later := fun member =>
      before (suffix.subset (List.mem_cons_of_mem _ member))
    obtain ⟨a, own, related⟩ := (replaces _).readArguments (follows _) inside own
    exact Or.inr ⟨a, ⟨begun, named, own⟩, related⟩

end Reading

end Storygraph.Cli
