import Storygraph.Cli.Run
import Storygraph.Proofs.Outcomes

/-!
# Reports of runs

What the report of some steps says follows from the reports of each. A report can differ from
another in its notices only (`Report.Matches`), and then the two runs end alike and print the same.
-/

namespace Storygraph.Cli

namespace Report

variable {α β : Type} {r r' : Report α} {next next' : α → Report β}

theorem bind_of_ok {a : α} (answers : r.result = .ok a) :
    r >>= next =
      ⟨r.notices ++ (next a).notices, r.printed ++ (next a).printed, (next a).result⟩ := by
  change r.followedBy next = _
  rw [followedBy, answers]

theorem bind_of_error {failure : Failure} (fails : r.result = .error failure) :
    r >>= next = ⟨r.notices, r.printed, .error failure⟩ := by
  change r.followedBy next = _
  rw [followedBy, fails]

theorem attempt_ok_bind (a : α) (next : α → Report β) : attempt (.ok a) >>= next = next a := rfl

theorem print_bind (t : Text) (next : Unit → Report β) :
    print t >>= next = ⟨(next ()).notices, t ++ (next ()).printed, (next ()).result⟩ := rfl

theorem result_bind (r : Report α) (next : α → Report β) :
    (r >>= next).result = r.result >>= fun a => (next a).result := by
  cases ran : r.result with
  | ok a =>
    rw [bind_of_ok ran]
    rfl
  | error failure =>
    rw [bind_of_error ran]
    rfl

/-- Steps that cannot fail leave it to those before them whether the whole succeeds. -/
theorem succeeds_bind_iff {first : Report α} {next : α → Report Unit}
    (rest : ∀ a, first.result = .ok a → (next a).result = .ok ()) :
    (first >>= next).result = .ok () ↔ ∃ a, first.result = .ok a := by
  rw [result_bind]
  constructor
  · intro ended
    obtain ⟨a, answers, -⟩ := bind_ok ended
    exact ⟨a, answers⟩
  · rintro ⟨a, answers⟩
    rw [answers, ok_bind]
    exact rest a answers

/-! ### Reports with the same results -/

structure Matches (r r' : Report α) : Prop where
  printed : r'.printed = r.printed
  result : r'.result = r.result

theorem Matches.refl (r : Report α) : r.Matches r := ⟨rfl, rfl⟩

theorem Matches.bind (first : r.Matches r') (second : ∀ a, (next a).Matches (next' a)) :
    (r >>= next).Matches (r' >>= next') := by
  cases ran : r.result with
  | ok a =>
    rw [bind_of_ok ran, bind_of_ok (first.result.trans ran)]
    constructor
    · simp only [first.printed, (second a).printed]
    · exact (second a).result
  | error failure =>
    rw [bind_of_error ran, bind_of_error (first.result.trans ran)]
    exact ⟨first.printed, rfl⟩

/-! ### Reports that print nothing -/

def Clean (r : Report α) : Prop := ∀ failure, r.result = .error failure → r.printed = []

theorem clean_of_ok {a : α} (answers : r.result = .ok a) : r.Clean := by
  intro failure fails
  rw [answers] at fails
  cases fails

theorem printed_bind (silent : r.printed = []) (later : ∀ a, (next a).printed = []) :
    (r >>= next).printed = [] := by
  cases ran : r.result with
  | ok a =>
    rw [bind_of_ok ran]
    simp only [silent, later a, List.append_nil]
  | error failure =>
    rw [bind_of_error ran]
    exact silent

/-- Steps that print nothing may fail, and those after them print if they do not. -/
theorem clean_bind (silent : r.printed = []) (later : ∀ a, (next a).Clean) :
    (r >>= next).Clean := by
  intro failure fails
  cases ran : r.result with
  | ok a =>
    rw [bind_of_ok ran] at fails ⊢
    rw [silent, List.nil_append]
    exact later a failure fails
  | error _ =>
    rw [bind_of_error ran]
    exact silent

end Report

/-! ### What is seen of a report -/

structure Outcome.Agrees (o o' : Outcome) : Prop where
  exit : o'.exit = o.exit
  stdout : o'.stdout = o.stdout

theorem Report.stdout_outcome (r : Report Unit) (v : Nat) (q : Bool) :
    (r.outcome v q).stdout = r.printed := by
  rw [outcome]
  cases r.result <;> rfl

theorem Report.exit_of_ok {r : Report Unit} (answers : r.result = .ok ()) (v : Nat) (q : Bool) :
    (r.outcome v q).exit = 0 := by
  rw [outcome, answers]

theorem Report.exit_of_error {r : Report Unit} {failure : Failure}
    (fails : r.result = .error failure) (v : Nat) (q : Bool) : (r.outcome v q).exit = 1 := by
  rw [outcome, fails]

theorem Report.Matches.agrees {r r' : Report Unit} (same : r.Matches r') (v v' : Nat)
    (q q' : Bool) : (r.outcome v q).Agrees (r'.outcome v' q') := by
  refine ⟨?_, by rw [stdout_outcome, stdout_outcome, same.printed]⟩
  rw [outcome, outcome, same.result]
  cases r.result <;> rfl

/-! ### Commands -/

namespace Command

def rulebook : Command → Option Text
  | parse _ rulebook _ _ | sections _ rulebook _ | config rulebook => rulebook
  | dialogues _ _ => none

def input? : Command → Option Text
  | parse input _ _ _ | sections input _ _ | dialogues input _ => some input
  | config _ => none

def withRulebook (rulebook : Option Text) : Command → Command
  | parse input _ full pretty => parse input rulebook full pretty
  | sections input _ json => sections input rulebook json
  | dialogues input json => dialogues input json
  | config _ => config rulebook

theorem withRulebook_rulebook (command : Command) :
    command.withRulebook command.rulebook = command := by
  cases command <;> rfl

end Command

variable {s s' : Surroundings} {rulebook rulebook' : Option Text}

theorem matches_readRulebook (book : (s'.rulebook rulebook').1 = (s.rulebook rulebook).1) :
    (readRulebook s rulebook).Matches (readRulebook s' rulebook') :=
  ⟨rfl, congrArg Except.ok book⟩

/-- What compiling a document comes to depends on the document and the rulebook alone. -/
theorem matches_compile {input : Text}
    (book : (s'.rulebook rulebook').1 = (s.rulebook rulebook).1)
    (document : s'.document input = s.document input) :
    (compile s input rulebook).Matches (compile s' input rulebook') := by
  rw [compile, compile, document]
  exact (Report.Matches.refl _).bind fun _ => (matches_readRulebook book).bind fun _ => .refl _

/-- What a command prints depends on its document and its rulebook alone. -/
theorem Command.matches_withRulebook (command : Command)
    (book : (s'.rulebook rulebook').1 = (s.rulebook rulebook).1)
    (document : ∀ input ∈ command.input?, s'.document input = s.document input) :
    ((command.withRulebook rulebook).report s).Matches
      ((command.withRulebook rulebook').report s') := by
  cases command with
  | parse input _ full pretty =>
    exact (matches_compile book (document input rfl)).bind fun _ => .refl _
  | sections input _ json =>
    exact (matches_compile book (document input rfl)).bind fun _ => .refl _
  | dialogues input json =>
    change (printDeclarations s input json).Matches (printDeclarations s' input json)
    rw [printDeclarations, printDeclarations, document input rfl]
    exact .refl _
  | config _ =>
    change (showRulebook s rulebook).Matches (showRulebook s' rulebook')
    exact (matches_readRulebook book).bind fun _ => .refl _

theorem result_readRulebook (s : Surroundings) (rulebook : Option Text) :
    (readRulebook s rulebook).result = .ok (s.rulebook rulebook).1 := rfl

theorem result_compile (s : Surroundings) (input : Text) (rulebook : Option Text) :
    (compile s input rulebook).result = do
      let document ← s.document input
      let c ← classifierOf (s.rulebook rulebook).1
      return Compilation.ofDocument c document := by
  rw [compile, Report.result_bind]
  refine congrArg (s.document input >>= ·) (funext fun document => ?_)
  rw [Report.result_bind, result_readRulebook]
  change ((Report.attempt _) >>= _ : Report _).result = _
  rw [Report.result_bind]
  refine congrArg (classifierOf (s.rulebook rulebook).1 >>= ·) (funext fun c => ?_)
  rfl

/-- What is compiled is compiled from the document, with the rulebook. -/
theorem exists_of_compile {input : Text} {r : Compilation}
    (compiled : (compile s input rulebook).result = .ok r) :
    ∃ document c, s.document input = .ok document ∧
      classifierOf (s.rulebook rulebook).1 = .ok c ∧ r = Compilation.ofDocument c document := by
  rw [result_compile] at compiled
  obtain ⟨document, given, compiled⟩ := bind_ok compiled
  obtain ⟨c, compiles, compiled⟩ := bind_ok compiled
  cases compiled
  exact ⟨document, c, given, compiles, rfl⟩

theorem printed_compile (s : Surroundings) (input : Text) (rulebook : Option Text) :
    (compile s input rulebook).printed = [] :=
  Report.printed_bind rfl fun _ => Report.printed_bind rfl fun _ => Report.printed_bind rfl
    fun _ => rfl

end Storygraph.Cli
