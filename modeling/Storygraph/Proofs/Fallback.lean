import Storygraph.Proofs.CommandLines
import Storygraph.Proofs.Rulebooks

/-!
# Rulebooks that cannot be used

A run that is pointed at a rulebook which cannot be used goes on with the built-in one, and nothing
of what is at the path shows in its result (`unusable_agrees`).
-/

namespace Storygraph.Cli

/-- There is no rulebook at the path: nothing can be read there, or bytes that are no text, or a text
that is no rulebook. -/
inductive Surroundings.Unusable (s : Surroundings) (path : Text) : Prop where
  | unreadable {fault : ReadFault} (fails : s.bytesAt path = .error fault)
  | notText {bytes : ByteArray} (holds : s.bytesAt path = .ok bytes)
      (invalid : String.fromUTF8? bytes = none)
  | rejected {t : Text} {e : Json.Error} (holds : s.textAt path = .ok t)
      (refused : Rulebook.ofText t = .error e)

variable {s : Surroundings} {path : Text}

theorem Surroundings.rulebook_of_error {fault : ReadFault} (fails : s.textAt path = .error fault) :
    (s.rulebook (some path)).1 = .builtin := by
  simp only [rulebook, rulebookAt, fails]
  cases fault <;> rfl

theorem Surroundings.Unusable.rulebook (unusable : s.Unusable path) :
    (s.rulebook (some path)).1 = .builtin := by
  cases unusable with
  | unreadable fails => exact rulebook_of_error (textAt_of_error fails)
  | notText holds invalid =>
    apply rulebook_of_error
    rw [textAt_of_ok holds, decode_of_none invalid]
  | rejected holds refused =>
    simp only [Surroundings.rulebook, rulebookAt, holds, refused]

theorem Surroundings.unusable_iff :
    s.Unusable path ↔ ∀ t book, s.textAt path = .ok t → Rulebook.ofText t ≠ .ok book := by
  constructor
  · intro unusable t book holds
    cases unusable with
    | unreadable fails =>
      rw [textAt_of_error fails] at holds
      cases holds
    | notText bytes invalid =>
      rw [textAt_of_ok bytes, decode_of_none invalid] at holds
      cases holds
    | rejected held refused =>
      obtain rfl := Except.ok.inj (held.symm.trans holds)
      simp [refused]
  · intro none
    cases holds : s.bytesAt path with
    | error fault => exact .unreadable holds
    | ok bytes =>
      cases decodes : String.fromUTF8? bytes with
      | none => exact .notText holds decodes
      | some string =>
        have text : s.textAt path = .ok string.toList := by
          rw [textAt_of_ok holds, decode_of_some decodes]
        cases read : Rulebook.ofText string.toList with
        | error e => exact .rejected text read
        | ok book => exact absurd read (none _ book text)

/-- A run with a rulebook that cannot be used ends as the one without it, and prints the same. The
rulebook is left out of the command, or out of the arguments that ask for it. -/
theorem unusable_agrees (unusable : s.Unusable path) :
    (∀ (command : Command) (v v' : Nat) (q q' : Bool), command.rulebook = some path →
      (Request.outcome s ⟨command.withRulebook none, v, q⟩).Agrees
        (Request.outcome s ⟨command, v', q'⟩)) ∧
    ∀ (front written back : List Text) (request : Request), Spells path written →
      endOfSwitches ∉ front →
      Request.ofArguments (front ++ (written ++ back)) = .ok request →
      (run s (front ++ back)).Agrees (run s (front ++ (written ++ back))) := by
  have leftOut : ∀ (command : Command) (v v' : Nat) (q q' : Bool), command.rulebook = some path →
      (Request.outcome s ⟨command.withRulebook none, v, q⟩).Agrees
        (Request.outcome s ⟨command, v', q'⟩) := by
    intro command v v' q q' given
    have book : (s.rulebook command.rulebook).1 = (s.rulebook none).1 := by
      rw [given]
      exact unusable.rulebook
    have same := command.matches_withRulebook book fun input _ => rfl
    rw [Command.withRulebook_rulebook] at same
    exact same.agrees v v' q q'
  refine ⟨leftOut, ?_⟩
  intro front written back request spelled before reads
  obtain ⟨given, shorter⟩ := spelled.ofArguments before reads
  simp only [run, reads, shorter]
  exact leftOut request.command _ _ _ _ given

/-- A file that ends too early, after a pattern that would ignore every line. -/
theorem unusable_agrees_cut :
    let text := "\x7b\"ignore_patterns\": [\"\"], ".toList
    let files (path : Text) : Except ReadFault ByteArray :=
      if path = ['f'] then .ok (String.ofList text).toUTF8 else .error .missing
    let s : Surroundings := ⟨.empty, files⟩
    let arguments (rulebook : List Text) : List Text :=
      ["parse".toList, "Hello".toList] ++ (rulebook ++ ["--full".toList])
    s.Unusable ['f'] ∧
      (run s (arguments [])).Agrees (run s (arguments ["--config".toList, ['f']])) := by
  intro text files s arguments
  have readable : s.textAt ['f'] = .ok text := decode_toUTF8 text
  have refused : (Rulebook.ofText text).toOption = none := by decide +kernel
  have unusable : s.Unusable ['f'] := by
    apply Surroundings.unusable_iff.mpr
    intro t book holds answers
    obtain rfl := Except.ok.inj (readable.symm.trans holds)
    rw [answers] at refused
    nomatch refused
  have reads : Request.ofArguments (arguments ["--config".toList, ['f']]) =
      .ok ⟨.parse "Hello".toList (some ['f']) true false, 0, false⟩ := by decide +kernel
  exact ⟨unusable,
    (unusable_agrees unusable).2 _ _ _ _ (.word (by decide)) (by decide) reads⟩

end Storygraph.Cli
