import Storygraph.Proofs.Codec
import Storygraph.Proofs.Reports

/-!
# Rulebooks in files

A rulebook is read from every text of its JSON form. What `config` prints of a rulebook can thus
take its place: `Cli.config_roundTrip` says that a run which reads the rulebook from there prints
the same.
-/

namespace Storygraph

open Json.Reader

theorem Rule.accepts (r : Rule) : Accepts (record shape) r.toJson r :=
  accepts_record ⟨some r.name, some r.pattern, some r.description⟩
    (.member rfl rfl (accepts_field (accepts_text r.name))
      (.member rfl rfl (accepts_field (accepts_text r.pattern))
        (.member rfl rfl (accepts_field (accepts_text r.description)) (.nothing _)))) rfl

namespace Rulebook

variable (book : Rulebook)

theorem accepts : Accepts (record shape) book.toJson book := by
  have rules := accepts_list_map fun r (_ : r ∈ book.rules) => Rule.accepts r
  have ignored := accepts_list_map fun t (_ : t ∈ book.ignored) => accepts_text t
  exact accepts_record ⟨some book.rules, some book.defaultTag, some book.ignored⟩
    (.member rfl rfl (accepts_field rules)
      (.member rfl rfl (accepts_field (accepts_text book.defaultTag))
        (.member rfl rfl (accepts_field ignored) (.nothing _)))) rfl

/-- Reading any text of a rulebook gives the rulebook, with the built-in one in no part. -/
theorem ofText_of_written {t blanks : Text} (written : Json.Written book.toJson t)
    (blank : Json.Blank blanks) : ofText (t ++ blanks) = .ok book :=
  run_of_accepts_append book.accepts written blank

theorem ofText_indented : ofText book.toJson.indented = .ok book := by
  simpa using book.ofText_of_written (Json.written_indented _) Json.blank_nil

end Rulebook

namespace Cli

variable {s s' : Surroundings} {path : Text} {book : Rulebook}

theorem decode_of_none {bytes : ByteArray} (invalid : String.fromUTF8? bytes = none) :
    decode bytes = .error .notText := by
  rw [decode, invalid]

theorem decode_of_some {bytes : ByteArray} {string : String}
    (valid : String.fromUTF8? bytes = some string) : decode bytes = .ok string.toList := by
  rw [decode, valid]

theorem decode_toUTF8 (t : Text) : decode (String.ofList t).toUTF8 = .ok t := by
  have valid : String.fromUTF8? (String.ofList t).toUTF8 = some (String.ofList t) :=
    dif_pos (String.ofList t).isValidUTF8
  rw [decode_of_some valid, String.toList_ofList]

theorem ofText_jsonLine (book : Rulebook) :
    Rulebook.ofText (jsonLine true book.toJson) = .ok book :=
  book.ofText_of_written (Json.written_indented _) (Json.blank_newline 0)

namespace Surroundings

theorem textAt_of_error {fault : ReadFault} (fails : s.bytesAt path = .error fault) :
    s.textAt path = .error fault := by
  rw [textAt, fails]
  rfl

theorem textAt_of_ok {bytes : ByteArray} (holds : s.bytesAt path = .ok bytes) :
    s.textAt path = decode bytes := by
  rw [textAt, holds, ok_bind]

theorem rulebook_of_read {text : Text} (readable : s.textAt path = .ok text)
    (decodes : Rulebook.ofText text = .ok book) : (s.rulebook (some path)).1 = book := by
  rw [rulebook, rulebookAt, readable]
  simp only [decodes]

theorem rulebook_of_shown
    (holds : s.bytesAt path = .ok (String.ofList (jsonLine true book.toJson)).toUTF8) :
    (s.rulebook (some path)).1 = book := by
  have readable : s.textAt path = .ok (jsonLine true book.toJson) := by
    rw [textAt_of_ok holds, decode_toUTF8]
  exact rulebook_of_read readable (ofText_jsonLine book)

end Surroundings

/-! ### Commands with another rulebook -/

namespace Command

def reading (path : Text) : Command → Command
  | parse input _ full pretty => parse input (some path) full pretty
  | sections input _ json => sections input (some path) json
  | dialogues input json => dialogues input json
  | config _ => config (some path)

theorem reading_eq (command : Command) (path : Text) :
    command.reading path = command.withRulebook (some path) := by
  cases command <;> rfl

theorem matches_reading {command : Command}
    (book : (s'.rulebook (some path)).1 = (s.rulebook command.rulebook).1)
    (document : ∀ input ∈ command.input?, s'.document input = s.document input) :
    (command.report s).Matches ((command.reading path).report s') := by
  have same := command.matches_withRulebook book document
  rwa [withRulebook_rulebook, ← reading_eq] at same

end Command

theorem showRulebook_of_ok {rulebook : Option Text} {c : Classifier}
    (compiles : Classifier.ofRulebook (s.rulebook rulebook).1 = .ok c) :
    (showRulebook s rulebook).result = .ok () ∧
      (showRulebook s rulebook).printed = jsonLine true (s.rulebook rulebook).1.toJson := by
  rw [showRulebook, Report.bind_of_ok (result_readRulebook s rulebook), classifierOf, compiles]
  exact ⟨rfl, rfl⟩

theorem showRulebook_of_error {rulebook : Option Text} {bad : BadPattern}
    (fails : Classifier.ofRulebook (s.rulebook rulebook).1 = .error bad) :
    (showRulebook s rulebook).result = .error (.rulebook bad) := by
  rw [showRulebook, Report.bind_of_ok (result_readRulebook s rulebook), classifierOf, fails]
  rfl

theorem outcome_config (s : Surroundings) (rulebook : Option Text) (v : Nat) (q : Bool) :
    let book := (s.rulebook rulebook).1
    let o := Request.outcome s ⟨.config rulebook, v, q⟩
    (o.exit = 0 ↔ ∃ c, Classifier.ofRulebook book = .ok c) ∧
      (o.exit = 0 → o.stdout = jsonLine true book.toJson) := by
  intro book o
  cases compiles : Classifier.ofRulebook book with
  | error bad =>
    have fails : o.exit = 1 := Report.exit_of_error (showRulebook_of_error compiles) v q
    have failed : o.exit ≠ 0 := by
      rw [fails]
      decide
    exact ⟨⟨fun ended => absurd ended failed, nofun⟩, fun ended => absurd ended failed⟩
  | ok c =>
    obtain ⟨answers, prints⟩ := showRulebook_of_ok compiles
    have ended : o.exit = 0 := Report.exit_of_ok answers v q
    exact ⟨⟨fun _ => ⟨c, rfl⟩, fun _ => ended⟩, fun _ => (Report.stdout_outcome _ v q).trans prints⟩

/-- A rulebook is read from its JSON form. Where the rulebook of a command compiles, `config` prints
this form, and a command that reads its rulebook from there has the same rulebook and result. -/
theorem config_roundTrip :
    (∀ book : Rulebook, Rulebook.ofText book.toJson.indented = .ok book) ∧
    ∀ (s : Surroundings) (command : Command) (v : Nat) (q : Bool),
      let shown := Request.outcome s ⟨.config command.rulebook, v, q⟩
      (∀ path text book c, command.rulebook = some path → s.textAt path = .ok text →
        Rulebook.ofText text = .ok book → Classifier.ofRulebook book = .ok c →
        shown.exit = 0 ∧ shown.stdout = jsonLine true book.toJson) ∧
      (shown.exit = 0 → ∀ (s' : Surroundings) (path' : Text),
        s'.bytesAt path' = .ok (String.ofList shown.stdout).toUTF8 →
        (s'.rulebook (some path')).1 = (s.rulebook command.rulebook).1 ∧
          ((∀ input ∈ command.input?, s'.document input = s.document input) →
            ∀ v v' q q', (Request.outcome s ⟨command, v, q⟩).Agrees
              (Request.outcome s' ⟨command.reading path', v', q'⟩))) := by
  refine ⟨Rulebook.ofText_indented, fun s command v q => ?_⟩
  intro shown
  obtain ⟨succeeds, prints⟩ := outcome_config s command.rulebook v q
  constructor
  · intro path text book c given readable decodes compiles
    have same : (s.rulebook command.rulebook).1 = book := by
      rw [given, Surroundings.rulebook_of_read readable decodes]
    have ended := succeeds.mpr ⟨c, same ▸ compiles⟩
    exact ⟨ended, same ▸ prints ended⟩
  · intro ended s' path' holds
    rw [prints ended] at holds
    have same := Surroundings.rulebook_of_shown holds
    exact ⟨same, fun document => (Command.matches_reading same document).agrees⟩

/-- What this file leaves out of its rulebook is in what is printed of it. -/
theorem config_roundTrip_camera :
    let text :=
      "\x7b\"node_types\": [\x7b\"name\": \"camera\", \"pattern\": \"pan\\\\s\"\x7d]\x7d".toList
    let rule : Rule := ⟨"camera".toList, "pan\\s".toList, []⟩
    let book : Rulebook := { Rulebook.builtin with rules := [rule] }
    let files (name text path : Text) : Except ReadFault ByteArray :=
      if path = name then .ok (String.ofList text).toUTF8 else .error .missing
    let s : Surroundings := ⟨.empty, files ['f'] text⟩
    let s' : Surroundings := ⟨.empty, files ['g'] (jsonLine true book.toJson)⟩
    let command : Command := .parse "Hello".toList (some ['f']) true false
    (Request.outcome s ⟨.config (some ['f']), 0, false⟩).stdout = jsonLine true book.toJson ∧
      (Request.outcome s ⟨command, 0, false⟩).Agrees
        (Request.outcome s' ⟨command.reading ['g'], 0, false⟩) := by
  intro text rule book files s s' command
  have readable : s.textAt ['f'] = .ok text := decode_toUTF8 text
  have decodes : Rulebook.ofText text = .ok book := by decide +kernel
  have fine : (Classifier.ofRulebook book).toOption.isSome := by decide +kernel
  obtain ⟨c, compiles⟩ : ∃ c, Classifier.ofRulebook book = .ok c := by
    cases compiles : Classifier.ofRulebook book with
    | error e =>
      rw [compiles] at fine
      nomatch fine
    | ok c => exact ⟨c, rfl⟩
  obtain ⟨printed, again⟩ := config_roundTrip.2 s command 0 false
  obtain ⟨ended, prints⟩ := printed ['f'] text book c rfl readable decodes compiles
  refine ⟨prints, ?_⟩
  refine (again ended s' ['g'] ?_).2 ?_ 0 0 false false
  · rw [prints]
    rfl
  · intro input given
    cases given
    rfl

end Cli

end Storygraph
