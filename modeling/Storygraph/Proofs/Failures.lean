import Storygraph.Proofs.Anchoring
import Storygraph.Proofs.Layout
import Storygraph.Proofs.Rulebooks

/-!
# Runs that fail

A run that fails prints nothing (`Command.clean_report`). A command fails for its input or for its
rulebook and for nothing else (`Command.succeeds_iff`): `run_failures` says so of exit codes.
-/

namespace Storygraph

def Rulebook.Compiles (book : Rulebook) : Prop :=
  ∀ pattern ∈ book.patterns, ∃ r, Pattern.compile (Pattern.anchored pattern) = .ok r

instance (book : Rulebook) : Decidable book.Compiles :=
  decidable_of_iff (∀ pattern ∈ book.patterns, ¬Pattern.Refused pattern) <|
    forall₂_congr fun _ _ => Pattern.not_refused_iff

namespace Cli

/-! ### Inputs and rulebooks -/

/-- The input stands for bytes that are no text, or for something that cannot be read. -/
inductive Surroundings.Unreadable (s : Surroundings) : (input : Text) → Prop where
  | standardInput (invalid : String.fromUTF8? s.standardInput = none) : Unreadable s ['-']
  | unreadable {path : Text} {fault : ReadFault} (named : path ≠ ['-'])
      (fails : s.bytesAt path = .error fault) (leads : fault.leadsNowhere = false) :
      Unreadable s path
  | notText {path : Text} {bytes : ByteArray} (named : path ≠ ['-'])
      (holds : s.bytesAt path = .ok bytes) (invalid : String.fromUTF8? bytes = none) :
      Unreadable s path

variable {s : Surroundings} {input : Text} {rulebook : Option Text}

namespace Surroundings

theorem document_standardInput (s : Surroundings) :
    s.document ['-'] = (decode s.standardInput).mapError .standardInput := if_pos rfl

theorem document_of_ne (s : Surroundings) (named : input ≠ ['-']) :
    s.document input = match s.textAt input with
      | .ok t => .ok t
      | .error fault => if fault.leadsNowhere then .ok input else .error (.file input fault) :=
  if_neg named

theorem Unreadable.document (unreadable : s.Unreadable input) :
    ∃ failure, s.document input = .error failure := by
  cases unreadable with
  | standardInput invalid =>
    rw [document_standardInput, decode_of_none invalid]
    exact ⟨_, rfl⟩
  | unreadable named fails leads =>
    rw [document_of_ne s named, textAt_of_error fails]
    simp [leads]
  | notText named holds invalid =>
    rw [document_of_ne s named, textAt_of_ok holds, decode_of_none invalid]
    exact ⟨_, rfl⟩

theorem exists_document (readable : ¬s.Unreadable input) :
    ∃ document, s.document input = .ok document := by
  by_cases named : input = ['-']
  · subst named
    cases decodes : String.fromUTF8? s.standardInput with
    | none => exact absurd (.standardInput decodes) readable
    | some string =>
      rw [document_standardInput, decode_of_some decodes]
      exact ⟨_, rfl⟩
  · rw [document_of_ne s named]
    cases holds : s.bytesAt input with
    | error fault =>
      rw [textAt_of_error holds]
      cases leads : fault.leadsNowhere with
      | true => exact ⟨input, if_pos leads⟩
      | false => exact absurd (.unreadable named holds leads) readable
    | ok bytes =>
      rw [textAt_of_ok holds]
      cases decodes : String.fromUTF8? bytes with
      | none => exact absurd (.notText named holds decodes) readable
      | some string =>
        rw [decode_of_some decodes]
        exact ⟨_, rfl⟩

theorem exists_document_iff :
    (∃ document, s.document input = .ok document) ↔ ¬s.Unreadable input := by
  refine ⟨?_, exists_document⟩
  rintro ⟨document, given⟩ unreadable
  obtain ⟨failure, fails⟩ := unreadable.document
  rw [fails] at given
  nomatch given

end Surroundings

theorem exists_classifierOf_iff {book : Rulebook} :
    (∃ c, classifierOf book = .ok c) ↔ book.Compiles := by
  rw [Rulebook.Compiles, ← Classifier.exists_ofRulebook_iff, classifierOf]
  cases Classifier.ofRulebook book <;> simp [Except.mapError]

theorem exists_compile_iff : (∃ r, (compile s input rulebook).result = .ok r) ↔
    ¬s.Unreadable input ∧ (s.rulebook rulebook).1.Compiles := by
  rw [← Surroundings.exists_document_iff, ← exists_classifierOf_iff]
  constructor
  · rintro ⟨r, compiled⟩
    obtain ⟨document, c, given, compiles, -⟩ := exists_of_compile compiled
    exact ⟨⟨document, given⟩, ⟨c, compiles⟩⟩
  · rintro ⟨⟨document, given⟩, ⟨c, compiles⟩⟩
    refine ⟨Compilation.ofDocument c document, ?_⟩
    rw [result_compile, given, compiles]
    rfl

/-! ### Commands -/

theorem result_printListing {α : Type} (json : Bool) (encode : α → Json) (row : α → Text)
    (none : Text) (rows : List α) : (printListing json encode row none rows).result = .ok () := by
  unfold printListing
  split
  · rfl
  · split <;> rfl

namespace Command

def takesRulebook : Command → Bool
  | parse _ _ _ _ | sections _ _ _ | config _ => true
  | dialogues _ _ => false

/-- No command prints anything before the last of its steps that can fail. -/
theorem clean_report (s : Surroundings) (command : Command) : (command.report s).Clean := by
  cases command with
  | parse input rulebook full pretty =>
    refine Report.clean_bind (printed_compile s input rulebook) fun r => ?_
    exact Report.clean_bind rfl fun text => Report.clean_of_ok rfl
  | sections input rulebook json =>
    refine Report.clean_bind (printed_compile s input rulebook) fun r => ?_
    apply Report.clean_of_ok (a := ())
    rw [Report.result_bind, result_printListing]
    rfl
  | dialogues input json =>
    exact Report.clean_bind rfl fun document => Report.clean_of_ok (result_printListing ..)
  | config rulebook =>
    refine Report.clean_bind rfl fun book => ?_
    exact Report.clean_bind rfl fun c => Report.clean_of_ok rfl

/-- A command succeeds if its input can be read and the patterns of its rulebook compile. -/
theorem succeeds_iff (command : Command)
    (short : ∀ input ∈ command.input?, ∀ document, s.document input = .ok document →
      (Text.lines document).length ≤ maxNatural) :
    (command.report s).result = .ok () ↔ (∀ input ∈ command.input?, ¬s.Unreadable input) ∧
      (command.takesRulebook → (s.rulebook command.rulebook).1.Compiles) := by
  cases command with
  | parse input rulebook full pretty =>
    have compiles : (printCompilation s input rulebook full pretty).result = .ok () ↔
        ∃ r, (compile s input rulebook).result = .ok r := by
      apply Report.succeeds_bind_iff
      intro r compiled
      rw [compilationText_eq (sized_of_compile (short input rfl) compiled)]
      rfl
    simpa [report, input?, takesRulebook, Command.rulebook, exists_compile_iff] using compiles
  | sections input rulebook json =>
    have compiles : (printSections s input rulebook json).result = .ok () ↔
        ∃ r, (compile s input rulebook).result = .ok r := by
      apply Report.succeeds_bind_iff
      intro r _
      rw [Report.result_bind, result_printListing]
      rfl
    simpa [report, input?, takesRulebook, Command.rulebook, exists_compile_iff] using compiles
  | dialogues input json =>
    have reads : (printDeclarations s input json).result = .ok () ↔
        ∃ document, s.document input = .ok document :=
      Report.succeeds_bind_iff fun _ _ => result_printListing ..
    simpa [report, input?, takesRulebook, Surroundings.exists_document_iff] using reads
  | config rulebook =>
    have compiles : (showRulebook s rulebook).result = .ok () ↔
        ∃ c, classifierOf (s.rulebook rulebook).1 = .ok c := by
      rw [showRulebook, Report.result_bind, result_readRulebook, ok_bind]
      exact Report.succeeds_bind_iff fun _ _ => rfl
    simpa [report, input?, takesRulebook, Command.rulebook, exists_classifierOf_iff] using compiles

end Command

/-! ### Exit codes -/

theorem Report.exit_eq_zero_iff (r : Report Unit) (v : Nat) (q : Bool) :
    (r.outcome v q).exit = 0 ↔ r.result = .ok () := by
  cases ran : r.result with
  | ok u => simp [exit_of_ok ran]
  | error failure => simp [exit_of_error ran]

theorem Report.exit_eq_zero_or_one (r : Report Unit) (v : Nat) (q : Bool) :
    (r.outcome v q).exit = 0 ∨ (r.outcome v q).exit = 1 := by
  cases ran : r.result with
  | ok u => exact Or.inl (exit_of_ok ran v q)
  | error failure => exact Or.inr (exit_of_error ran v q)

theorem Report.Clean.stdout {r : Report Unit} (clean : r.Clean) {v : Nat} {q : Bool}
    (failed : (r.outcome v q).exit ≠ 0) : (r.outcome v q).stdout = [] := by
  rw [stdout_outcome]
  cases ran : r.result with
  | ok u => exact absurd (exit_of_ok ran v q) failed
  | error failure => exact clean failure ran

/-- A run that fails prints nothing. With a command line that is no misuse it fails if the input of
its command cannot be read or its command has a rulebook with a pattern that does not compile, and
succeeds if neither is so. The bound on lines, as for `parse_layout`, holds of every document that is
held in memory. -/
theorem run_failures (s : Surroundings) (arguments : List Text) :
    ((run s arguments).exit ≠ 0 → (run s arguments).stdout = []) ∧
      ∀ request, Request.ofArguments arguments = .ok request →
        (∀ input ∈ request.command.input?, ∀ document, s.document input = .ok document →
          (Text.lines document).length ≤ maxNatural) →
        ((run s arguments).exit = 1 ↔
          (∃ input ∈ request.command.input?, s.Unreadable input) ∨
            (request.command.takesRulebook = true ∧
              ¬(s.rulebook request.command.rulebook).1.Compiles)) ∧
        ((run s arguments).exit = 0 ∨ (run s arguments).exit = 1) := by
  constructor
  · intro failed
    unfold run at failed ⊢
    split at failed
    · rename_i request reads
      exact (request.command.clean_report s).stdout failed
    · rename_i halt reads
      cases halt with
      | version => exact absurd rfl failed
      | misuse m => rfl
  · intro request reads short
    obtain ⟨command, v, q⟩ := request
    have runs : run s arguments = (command.report s).outcome v q := by
      simp only [run, reads]
      rfl
    have either := (command.report s).exit_eq_zero_or_one v q
    have ends := (command.report s).exit_eq_zero_iff v q
    rw [command.succeeds_iff short] at ends
    rw [runs]
    refine ⟨?_, either⟩
    have fails : ((command.report s).outcome v q).exit = 1 ↔
        ¬((command.report s).outcome v q).exit = 0 := by omega
    rw [fails, ends, not_and_or]
    simp only [not_forall, not_not, exists_prop]

/-- The one pattern of the rulebook opens a group that it does not close. -/
theorem run_failures_open_group :
    let text := "\x7b\"node_types\": [\x7b\"name\": \"note\", \"pattern\": \"(\"\x7d]\x7d".toList
    let files (path : Text) : Except ReadFault ByteArray :=
      if path = ['f'] then .ok (String.ofList text).toUTF8 else .error .missing
    let s : Surroundings := ⟨.empty, files⟩
    let arguments := ["sections".toList, "Hello".toList, "-c".toList, ['f']]
    ¬s.Unreadable "Hello".toList ∧ ¬(s.rulebook (some ['f'])).1.Compiles ∧
      (run s arguments).exit = 1 ∧ (run s arguments).stdout = [] := by
  intro text files s arguments
  let book : Rulebook := { Rulebook.builtin with rules := [Rulebook.rule "note" "(" ""] }
  have given : s.document "Hello".toList = .ok "Hello".toList := rfl
  have readable := Surroundings.exists_document_iff.mp ⟨_, given⟩
  have used : (s.rulebook (some ['f'])).1 = book :=
    Surroundings.rulebook_of_read (decode_toUTF8 text) (by decide +kernel)
  have refused : (Pattern.compile (Pattern.anchored ['('])).toOption.isNone = true := by
    decide +kernel
  have broken : ¬(s.rulebook (some ['f'])).1.Compiles := by
    intro compiles
    rw [used] at compiles
    obtain ⟨r, compiled⟩ := compiles ['('] (by decide)
    rw [compiled] at refused
    nomatch refused
  have reads : Request.ofArguments arguments =
      .ok ⟨.sections "Hello".toList (some ['f']) false, 0, false⟩ := by decide +kernel
  obtain ⟨silent, exits⟩ := run_failures s arguments
  have failed : (run s arguments).exit = 1 := by
    refine (exits _ reads ?_).1.mpr (Or.inr ⟨rfl, broken⟩)
    intro input named document found
    cases named
    cases given.symm.trans found
    decide
  exact ⟨readable, broken, failed, silent (by rw [failed]; decide)⟩

end Cli

end Storygraph
