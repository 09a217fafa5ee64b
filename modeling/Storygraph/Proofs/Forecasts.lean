import Storygraph.Proofs.Failures
import Storygraph.Proofs.Fallback

/-!
# Rulebooks tried beforehand

Commands with one rulebook, whose inputs can be read, fail for the rulebook alone, and report the
same about it (`Command.report_of_refused`). The command `config` thus tells whether `parse` and
`sections` will work with a rulebook, and they do with what it prints: `config_forecasts`.
-/

namespace Storygraph.Cli

variable {s : Surroundings}

/-- The input of a command, if it has one, can be read. As for `parse_layout`, it has no more lines
than there are numbers to count them. -/
def Surroundings.Serves (s : Surroundings) (command : Command) : Prop :=
  ∀ input ∈ command.input?, ¬s.Unreadable input ∧
    ∀ document, s.document input = .ok document → (Text.lines document).length ≤ maxNatural

theorem Surroundings.serves_config (s : Surroundings) (rulebook : Option Text) :
    s.Serves (.config rulebook) := nofun

theorem Surroundings.serves_of_document {command : Command} {input document : Text}
    (named : command.input? = some input) (given : s.document input = .ok document)
    (short : (Text.lines document).length ≤ maxNatural) : s.Serves command := by
  intro other named'
  obtain rfl := Option.some.inj (named.symm.trans named')
  refine ⟨exists_document_iff.mp ⟨document, given⟩, fun found given' => ?_⟩
  obtain rfl := Except.ok.inj (given.symm.trans given')
  exact short

theorem Surroundings.Serves.exists_document {command : Command} (serves : s.Serves command)
    {input : Text} (named : input ∈ command.input?) : ∃ document, s.document input = .ok document :=
  Surroundings.exists_document (serves input named).1

theorem Command.exit_eq_one_iff {command : Command} (takes : command.takesRulebook = true)
    (serves : s.Serves command) (v : Nat) (q : Bool) :
    (Request.outcome s ⟨command, v, q⟩).exit = 1 ↔ ¬(s.rulebook command.rulebook).1.Compiles := by
  have readable : ∀ input ∈ command.input?, ¬s.Unreadable input :=
    fun input named => (serves input named).1
  have ends := (command.report s).exit_eq_zero_iff v q
  rw [command.succeeds_iff fun input named => (serves input named).2, and_iff_right readable,
    forall_prop_of_true takes] at ends
  rw [← ends]
  have either := (command.report s).exit_eq_zero_or_one v q
  change ((command.report s).outcome v q).exit = 1 ↔ _
  omega

theorem exists_refused {book : Rulebook} (broken : ¬book.Compiles) :
    ∃ failure, classifierOf book = .error failure := by
  cases compiles : classifierOf book with
  | error failure => exact ⟨failure, rfl⟩
  | ok c => exact absurd (exists_classifierOf_iff.mp ⟨c, compiles⟩) broken

theorem notices_readRulebook (s : Surroundings) (rulebook : Option Text) :
    (readRulebook s rulebook).notices = (s.rulebook rulebook).2 := List.append_nil _

theorem compile_of_refused {input document : Text} {rulebook : Option Text} {failure : Failure}
    (given : s.document input = .ok document)
    (refused : classifierOf (s.rulebook rulebook).1 = .error failure) :
    compile s input rulebook = ⟨(s.rulebook rulebook).2, [], .error failure⟩ := by
  rw [compile, given, Report.attempt_ok_bind, Report.bind_of_ok (result_readRulebook s rulebook),
    refused, Report.bind_of_error rfl, notices_readRulebook]
  exact congrArg (Report.mk · [] _) (List.append_nil _)

/-- A command whose rulebook does not compile tells about reading it, and why it fails. -/
theorem Command.report_of_refused {command : Command} {failure : Failure}
    (takes : command.takesRulebook = true) (serves : s.Serves command)
    (refused : classifierOf (s.rulebook command.rulebook).1 = .error failure) :
    command.report s = ⟨(s.rulebook command.rulebook).2, [], .error failure⟩ := by
  cases command with
  | parse input rulebook full pretty =>
    obtain ⟨document, given⟩ := serves.exists_document rfl
    have fails : compile s input rulebook = _ := compile_of_refused given refused
    rw [report, printCompilation, fails]
    rfl
  | sections input rulebook json =>
    obtain ⟨document, given⟩ := serves.exists_document rfl
    have fails : compile s input rulebook = _ := compile_of_refused given refused
    rw [report, printSections, fails]
    rfl
  | dialogues input json => cases takes
  | config rulebook =>
    have fails : classifierOf (s.rulebook rulebook).1 = _ := refused
    rw [report, showRulebook, Report.bind_of_ok (result_readRulebook s rulebook), fails,
      Report.bind_of_error rfl, notices_readRulebook]
    exact congrArg (Report.mk · [] _) (List.append_nil _)

/-- Whether `config` fails tells whether commands with the same rulebook do, among them `parse` and
`sections`, if their inputs can be read, and the report of the failure is the same. If it succeeds,
such commands succeed with what it prints as their rulebook. -/
theorem config_forecasts (s : Surroundings) (rulebook : Option Text) (v : Nat) (q : Bool) :
    let shown := Request.outcome s ⟨.config rulebook, v, q⟩
    (∀ command : Command, command.takesRulebook = true → command.rulebook = rulebook →
      s.Serves command →
        let other := Request.outcome s ⟨command, v, q⟩
        (shown.exit = 1 ↔ other.exit = 1) ∧ (shown.exit = 1 → other.stderr = shown.stderr)) ∧
    (shown.exit = 0 → ∀ (s' : Surroundings) (path : Text),
      s'.bytesAt path = .ok (String.ofList shown.stdout).toUTF8 →
        ¬s'.Unusable path ∧ ∀ (command : Command) (v' : Nat) (q' : Bool),
          command.takesRulebook = true → command.rulebook = some path → s'.Serves command →
            (Request.outcome s' ⟨command, v', q'⟩).exit = 0) := by
  intro shown
  have failing : shown.exit = 1 ↔ ¬(s.rulebook rulebook).1.Compiles :=
    Command.exit_eq_one_iff rfl (s.serves_config rulebook) v q
  constructor
  · rintro command takes rfl serves other
    refine ⟨failing.trans (Command.exit_eq_one_iff takes serves v q).symm, fun failed => ?_⟩
    obtain ⟨failure, refused⟩ := exists_refused (failing.mp failed)
    have alike : command.report s = (Command.config command.rulebook).report s := by
      rw [Command.report_of_refused takes serves refused,
        Command.report_of_refused rfl (s.serves_config command.rulebook) refused]
      rfl
    exact congrArg (fun r : Report Unit => (r.outcome v q).stderr) alike
  · intro ended s' path holds
    have compiles : (s.rulebook rulebook).1.Compiles := by
      by_contra broken
      have failed := failing.mpr broken
      omega
    rw [(outcome_config s rulebook v q).2 ended] at holds
    have book := Surroundings.rulebook_of_shown holds
    constructor
    · intro unusable
      have readable : s'.textAt path = .ok (jsonLine true (s.rulebook rulebook).1.toJson) := by
        rw [Surroundings.textAt_of_ok holds, decode_toUTF8]
      exact Surroundings.unusable_iff.mp unusable _ _ readable (ofText_jsonLine _)
    · intro command v' q' takes given serves
      have either := (command.report s').exit_eq_zero_or_one v' q'
      have fails := Command.exit_eq_one_iff takes serves v' q'
      rw [given, book] at fails
      exact either.resolve_right fun failed => fails.mp failed compiles

/-- One rulebook has a group that is not closed, and nothing is wrong with the other, which leaves
everything out. -/
theorem config_forecasts_group :
    let files (text path : Text) : Except ReadFault ByteArray :=
      if path = ['f'] then .ok (String.ofList text).toUTF8 else .error .missing
    let s (text : Text) : Surroundings := ⟨.empty, files text⟩
    let shown (text : Text) := Request.outcome (s text) ⟨.config (some ['f']), 0, false⟩
    let group := "\x7b\"ignore_patterns\": [\"(\"]\x7d".toList
    let parsed := Request.outcome (s group)
      ⟨.parse "Hello".toList (some ['f']) false true, 0, false⟩
    let plain := "\x7b\x7d".toList
    let s' := s (shown plain).stdout
    let listing : Command := .sections "Hello".toList (some ['f']) true
    (shown group).exit = 1 ∧ parsed.exit = 1 ∧ parsed.stderr = (shown group).stderr ∧
      (shown plain).exit = 0 ∧ (Request.outcome s' ⟨listing, 2, false⟩).exit = 0 := by
  intro files s shown group parsed plain s' listing
  have holds (text : Text) : (s text).bytesAt ['f'] = .ok (String.ofList text).toUTF8 := rfl
  have serves (text : Text) (command : Command) (named : command.input? = some "Hello".toList) :
      (s text).Serves command := by
    have given : (s text).document "Hello".toList = .ok "Hello".toList := rfl
    exact Surroundings.serves_of_document named given (by decide)
  have failing (text : Text) :=
    Command.exit_eq_one_iff rfl ((s text).serves_config (some ['f'])) 0 false
  have failed : (shown group).exit = 1 := by
    let book : Rulebook := { Rulebook.builtin with ignored := [['(']] }
    have used : ((s group).rulebook (some ['f'])).1 = book :=
      Surroundings.rulebook_of_read (decode_toUTF8 group) (by decide +kernel)
    refine (failing group).mpr ?_
    rw [Command.rulebook, used]
    decide +kernel
  have ended : (shown plain).exit = 0 := by
    have used : ((s plain).rulebook (some ['f'])).1 = .builtin :=
      Surroundings.rulebook_of_read (decode_toUTF8 plain) (by decide +kernel)
    have compiles : ((s plain).rulebook (some ['f'])).1.Compiles := by
      rw [used]
      decide +kernel
    exact (Report.exit_eq_zero_or_one _ 0 false).resolve_right fun failed =>
      (failing plain).mp failed compiles
  obtain ⟨fails, reports⟩ := (config_forecasts (s group) (some ['f']) 0 false).1
    (.parse "Hello".toList (some ['f']) false true) rfl rfl (serves group _ rfl)
  obtain ⟨-, works⟩ := (config_forecasts (s plain) (some ['f']) 0 false).2 ended s' ['f']
    (holds (shown plain).stdout)
  have succeeds := works listing 2 false rfl rfl (serves (shown plain).stdout listing rfl)
  exact ⟨failed, fails.mp failed, reports failed, ended, succeeds⟩

end Storygraph.Cli
