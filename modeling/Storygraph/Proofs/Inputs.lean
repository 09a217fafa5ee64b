import Storygraph.Proofs.Failures
import Storygraph.Proofs.Verbosity

/-!
# Where scripts come from

A script can be an argument, the content of a file, or standard input. Runs that are the same but
for that have the same outcome, and how much a run tells changes neither its exit nor what it
prints: `sources_agree`.
-/

namespace Storygraph.Cli

/-! ### Inputs among arguments -/

section Reading

variable {g a : Given} {known : List Switch} {front back rest last : List Text} {t : Text}
variable {input : Option Text}

theorem ne_endOfSwitches_of_isValue (value : isValue t = true) : t ≠ endOfSwitches := by
  rintro rfl
  nomatch value

theorem readSwitches_of_isValue (value : isValue t = true) (back : List Text) :
    readSwitches known g (t :: back) = .ok (g, t :: back) := by
  refine readSwitches_of_none ?_
  rcases t with _ | ⟨c, t⟩
  · rfl
  · by_cases dash : c = '-'
    · subst dash
      cases t with
      | nil => rfl
      | cons => nomatch value
    · unfold readSwitch?
      split
      case h_5 => rfl
      all_goals
        rename_i same
        cases same
        exact absurd rfl dash

theorem readSwitches_append (reads : readSwitches known g front = .ok (a, rest))
    (more : List Text) : readSwitches known g (front ++ more) =
      if rest = [] then readSwitches known a more else .ok (a, rest ++ more) := by
  fun_induction readSwitches known g front with
  | case1 g =>
    cases reads
    rfl
  | case2 g argument later stops =>
    cases reads
    exact readSwitches_of_none stops
  | case4 g argument later given passes ih =>
    rw [List.cons_append, readSwitches_of_ok passes]
    exact ih reads
  | case6 g argument given s waits value later fits ih =>
    obtain ⟨added, adds, reads⟩ := bind_ok reads
    rw [List.cons_append, List.cons_append, readSwitches_of_waiting waits, if_pos fits, adds]
    exact ih added reads
  | case3 | case5 | case7 => cases reads

/-- Two dashes are neither a switch nor the value of one. -/
theorem endOfSwitches_mem_rest (reads : readSwitches known g front = .ok (a, rest))
    (marked : endOfSwitches ∈ front) : endOfSwitches ∈ rest := by
  fun_induction readSwitches known g front with
  | case1 => cases marked
  | case2 =>
    cases reads
    exact marked
  | case4 g argument later given passes ih =>
    refine ih reads ((List.mem_cons.mp marked).resolve_left ?_)
    rintro rfl
    cases passes
  | case6 g argument given s waits value later fits ih =>
    obtain ⟨added, adds, reads⟩ := bind_ok reads
    refine ih added reads ?_
    rcases List.mem_cons.mp marked with rfl | marked
    · cases waits
    · exact (List.mem_cons.mp marked).resolve_left (ne_endOfSwitches_of_isValue fits).symm
  | case3 | case5 | case7 => cases reads

/-- After the arguments in front, an argument is not taken for a switch: no dash begins it, unless
it is a dash alone, or two dashes come before it. -/
def Plain (front : List Text) (argument : Text) : Prop :=
  isValue argument = true ∨ endOfSwitches ∈ front

theorem Plain.isValue (plain : Plain front t)
    (complete : readSwitches known g front = .ok (a, [])) : isValue t = true :=
  plain.resolve_right fun marked => nomatch endOfSwitches_mem_rest complete marked

theorem Plain.after {first : Text} {later : List Text} (plain : Plain front t)
    (start : readSwitches known g front = .ok (a, first :: later))
    (unmarked : first ≠ endOfSwitches) : Plain later t :=
  plain.imp_right fun marked =>
    (List.mem_cons.mp (endOfSwitches_mem_rest start marked)).resolve_left (Ne.symm unmarked)

theorem lastInput_eq_ok (ends : lastInput t last = .ok input) :
    input = some t ∧ (last = [] ∨ last = [endOfSwitches]) := by
  cases last with
  | nil =>
    cases ends
    exact ⟨rfl, Or.inl rfl⟩
  | cons next last =>
    by_cases marked : next = endOfSwitches
    · simp only [lastInput, if_pos marked] at ends
      cases last with
      | nil =>
        cases ends
        exact ⟨rfl, Or.inr (marked ▸ rfl)⟩
      | cons => cases ends
    · simp only [lastInput, if_neg marked] at ends
      cases ends

theorem readInput?_append_cons {rest : List Text}
    (ends : readInput? (rest ++ t :: back) = .ok input) :
    rest = [] ∧ back = [] ∧ input = some t := by
  cases rest with
  | nil =>
    cases back with
    | nil =>
      cases ends
      exact ⟨rfl, rfl, rfl⟩
    | cons => nomatch ends
  | cons first rest =>
    cases rest with
    | nil => nomatch ends
    | cons => nomatch ends

/-- Between the arguments of a subcommand there is room for an input: after switches that are
complete, or after two dashes. -/
inductive Room (known : List Switch) (front : List Text) : (back : List Text) → Given → Prop where
  | among {g a : Given} {back last : List Text} (start : readSwitches known [] front = .ok (g, []))
      (goesOn : readSwitches known g back = .ok (a, last))
      (ends : last = [] ∨ last = [endOfSwitches]) : Room known front back a
  | marked {a : Given} (start : readSwitches known [] front = .ok (a, [endOfSwitches])) :
      Room known front [] a

namespace Room

theorem filled (room : Room known front back a) (plain : Plain front t) :
    readArguments known (front ++ t :: back) = .ok (a, some t) := by
  rw [readArguments_eq_ok_iff]
  cases room with
  | among start goesOn ends =>
    have value := plain.isValue start
    have reads := readSwitches_append start (t :: back)
    rw [if_pos rfl, readSwitches_of_isValue value] at reads
    refine .named reads (ne_endOfSwitches_of_isValue value) goesOn ?_
    rcases ends with rfl | rfl <;> rfl
  | marked start =>
    have reads := readSwitches_append start [t]
    exact .marked reads rfl

theorem unfilled (room : Room known front back a) :
    readArguments known (front ++ back) = .ok (a, none) := by
  rw [readArguments_eq_ok_iff]
  cases room with
  | among start goesOn ends =>
    have reads := readSwitches_append start back
    rw [if_pos rfl, goesOn] at reads
    rcases ends with rfl | rfl
    · exact .bare reads
    · exact .marked reads rfl
  | marked start =>
    rw [List.append_nil]
    exact .marked start rfl

end Room

theorem not_lastInput_of_named {g₀ : Given} {later last₀ : List Text} {first : Text}
    {input₀ : Option Text} (complete : readSwitches known g later = .ok (g₀, last₀))
    (ends : lastInput first last₀ = .ok input₀) (plain : Plain later t)
    (reads : readSwitches known g (later ++ t :: back) = .ok (a, last)) :
    lastInput first last ≠ .ok input := by
  intro ends'
  have here := readSwitches_append complete (t :: back)
  obtain ⟨-, rfl | rfl⟩ := lastInput_eq_ok ends
  · have value := plain.isValue complete
    rw [if_pos rfl, readSwitches_of_isValue value] at here
    cases here.symm.trans reads
    obtain ⟨-, none | single⟩ := lastInput_eq_ok ends'
    · nomatch none
    · cases single
      nomatch value
  · rw [if_neg (List.cons_ne_nil _ _)] at here
    cases here.symm.trans reads
    obtain ⟨-, none | single⟩ := lastInput_eq_ok ends'
    · nomatch none
    · nomatch single

/-- An argument that goes on after complete ones, and is no switch, is the input. -/
theorem room_of_readArguments {g₀ : Given} {input₀ : Option Text}
    (complete : readArguments known front = .ok (g₀, input₀)) (plain : Plain front t)
    (reads : readArguments known (front ++ t :: back) = .ok (a, input)) :
    input = some t ∧ Room known front back a := by
  rw [readArguments_eq_ok_iff] at complete reads
  cases complete with
  | bare start =>
    have value := plain.isValue start
    have here := readSwitches_append start (t :: back)
    rw [if_pos rfl, readSwitches_of_isValue value] at here
    cases reads with
    | bare reads => nomatch here.symm.trans reads
    | marked reads =>
      cases here.symm.trans reads
      nomatch value
    | named reads _ again ends =>
      cases here.symm.trans reads
      obtain ⟨rfl, none⟩ := lastInput_eq_ok ends
      exact ⟨rfl, .among start again none⟩
  | marked start _ =>
    have here := readSwitches_append start (t :: back)
    rw [if_neg (List.cons_ne_nil _ _)] at here
    cases reads with
    | bare reads => nomatch here.symm.trans reads
    | marked reads ends =>
      cases here.symm.trans reads
      obtain ⟨rfl, rfl, rfl⟩ := readInput?_append_cons ends
      exact ⟨rfl, .marked start⟩
    | named reads unmarked _ _ =>
      cases here.symm.trans reads
      exact absurd rfl unmarked
  | @named _ _ first later _ _ start unmarked again ends =>
    have here := readSwitches_append start (t :: back)
    rw [if_neg (List.cons_ne_nil _ _)] at here
    cases reads with
    | bare reads => nomatch here.symm.trans reads
    | marked reads _ =>
      cases here.symm.trans reads
      exact absurd rfl unmarked
    | named reads _ again' ends' =>
      cases here.symm.trans reads
      exact absurd ends' (not_lastInput_of_named again ends (plain.after start unmarked) again')

end Reading

/-! ### Inputs of command lines -/

def Command.withInput (input : Text) : Command → Command
  | parse _ rulebook full pretty => parse input rulebook full pretty
  | sections _ rulebook json => sections input rulebook json
  | dialogues _ json => dialogues input json
  | config rulebook => config rulebook

/-- A subcommand that is given an input takes any other, or else has standard input for it. -/
theorem Subcommand.command_of_input {subcommand : Subcommand} {given : Given} {t : Text}
    {command : Command} (made : subcommand.command given (some t) = .ok command)
    (input : Option Text) :
    subcommand.command given input = .ok (command.withInput (input.getD defaultInput)) := by
  cases subcommand with
  | config => nomatch made
  | parse | sections | dialogues =>
    cases made
    rfl

structure TakesInput (front back : List Text) (input : Text) (request : Request) : Prop where
  complete : ∃ bare, Request.ofArguments front = .ok bare
  plain : Plain front input
  reads : Request.ofArguments (front ++ input :: back) = .ok request

section

variable {front back : List Text} {input : Text} {request : Request}

theorem Subcommand.ne_endOfSwitches {name : Text} {subcommand : Subcommand}
    (named : named? name = some subcommand) : name ≠ endOfSwitches := by
  rintro rfl
  nomatch named

/-- Where a command line takes an input, it can have any other or none. -/
theorem TakesInput.ofArguments (takes : TakesInput front back input request) {other : Option Text}
    (plain : ∀ t ∈ other, Plain front t) :
    Request.ofArguments (front ++ (other.toList ++ back)) = .ok
      { request with
        command := request.command.withInput (other.getD Subcommand.defaultInput) } := by
  obtain ⟨bare, complete⟩ := takes.complete
  obtain ⟨b, subcommand, _, _, _, ⟨start, named, own⟩, -⟩ := ofArguments_eq_ok_iff.mp complete
  obtain ⟨_, _, a, _, command, ⟨start', named', own'⟩, made, rfl⟩ :=
    ofArguments_eq_ok_iff.mp takes.reads
  have begins := readSwitches_append start
  simp only [if_neg (List.cons_ne_nil _ _)] at begins
  cases (begins (input :: back)).symm.trans start'
  cases named.symm.trans named'
  have unmarked := Subcommand.ne_endOfSwitches named
  obtain ⟨rfl, room⟩ := room_of_readArguments own (takes.plain.after start unmarked) own'
  have made := Subcommand.command_of_input made other
  refine ofArguments_eq_ok_iff.mpr ⟨_, _, a, other, _, ⟨begins _, named, ?_⟩, made, rfl⟩
  cases other with
  | none => exact room.unfilled
  | some t => exact room.filled ((plain t rfl).after start unmarked)

end

/-! ### Inputs of runs -/

section

variable {s s' : Surroundings} {t input input' : Text}

/-- The input, or standard input where there is none, stands for the text. -/
inductive Surroundings.Supplies (s : Surroundings) (t : Text) : (input : Option Text) → Prop where
  | inline {fault : ReadFault} (named : t ≠ ['-']) (fails : s.bytesAt t = .error fault)
      (leads : fault.leadsNowhere = true) : s.Supplies t (some t)
  | standardInput (given : s.standardInput = (String.ofList t).toUTF8) : s.Supplies t none
  | dash (given : s.standardInput = (String.ofList t).toUTF8) : s.Supplies t (some ['-'])
  | file {path : Text} (named : path ≠ ['-'])
      (holds : s.bytesAt path = .ok (String.ofList t).toUTF8) : s.Supplies t (some path)

theorem Surroundings.Supplies.document {input : Option Text} (supplies : s.Supplies t input) :
    s.document (input.getD Subcommand.defaultInput) = .ok t := by
  have fromDash (given : s.standardInput = (String.ofList t).toUTF8) :
      s.document ['-'] = .ok t := by
    rw [document_standardInput, given, decode_toUTF8]
    rfl
  cases supplies with
  | inline named fails leads =>
    rw [Option.getD_some, document_of_ne s named, textAt_of_error fails]
    exact if_pos leads
  | standardInput given => exact fromDash given
  | dash given => exact fromDash given
  | file named holds =>
    rw [Option.getD_some, document_of_ne s named, textAt_of_ok holds, decode_toUTF8]

theorem Surroundings.rulebook_congr {rulebook : Option Text}
    (book : ∀ path ∈ rulebook, s'.bytesAt path = s.bytesAt path) :
    s'.rulebook rulebook = s.rulebook rulebook := by
  cases rulebook with
  | none => rfl
  | some path =>
    have text : s'.textAt path = s.textAt path := congrArg (· >>= decode) (book path rfl)
    simp only [Surroundings.rulebook, rulebookAt, text]

theorem readRulebook_congr {rulebook : Option Text}
    (book : s'.rulebook rulebook = s.rulebook rulebook) :
    readRulebook s' rulebook = readRulebook s rulebook := by
  rw [readRulebook, readRulebook, book]

theorem compile_congr {rulebook : Option Text} (document : s'.document input' = s.document input)
    (book : s'.rulebook rulebook = s.rulebook rulebook) :
    compile s' input' rulebook = compile s input rulebook := by
  rw [compile, compile, document, readRulebook_congr book]

/-- All that a command tells depends on its document and its rulebook alone. -/
theorem Command.report_withInput {command : Command}
    (document : s'.document input' = s.document input)
    (book : ∀ path ∈ command.rulebook, s'.bytesAt path = s.bytesAt path) :
    (command.withInput input').report s' = (command.withInput input).report s := by
  have used : s'.rulebook command.rulebook = _ := Surroundings.rulebook_congr book
  cases command with
  | parse _ rulebook full pretty =>
    have compiled : compile s' input' rulebook = _ := compile_congr document used
    change printCompilation s' input' rulebook full pretty = printCompilation s input _ full pretty
    rw [printCompilation, printCompilation, compiled]
  | sections _ rulebook json =>
    have compiled : compile s' input' rulebook = _ := compile_congr document used
    change printSections s' input' rulebook json = printSections s input rulebook json
    rw [printSections, printSections, compiled]
  | dialogues _ json =>
    change printDeclarations s' input' json = printDeclarations s input json
    rw [printDeclarations, printDeclarations, document]
  | config rulebook =>
    have read : readRulebook s' rulebook = _ := readRulebook_congr used
    change showRulebook s' rulebook = showRulebook s rulebook
    rw [showRulebook, showRulebook, read]

end

/-- Two runs of a command line that takes an input, with the same text as the input itself, from a
file or from standard input, are seen alike if the rulebook is the same. Without some switches for
verbosity a run ends alike and prints the same. -/
theorem sources_agree :
    (∀ (front back : List Text) (named : Text) (request : Request),
      TakesInput front back named request →
      ∀ (s s' : Surroundings) (t : Text) (input input' : Option Text),
        s.Supplies t input → s'.Supplies t input' →
        (∀ x ∈ input, Plain front x) → (∀ x ∈ input', Plain front x) →
        (∀ path ∈ request.command.rulebook, s'.bytesAt path = s.bytesAt path) →
          run s' (front ++ (input'.toList ++ back)) = run s (front ++ (input.toList ++ back))) ∧
    (∀ (front back shorter written : List Text) (request : Request),
      Tunes shorter written → endOfSwitches ∉ front →
      Request.ofArguments (front ++ (written ++ back)) = .ok request →
      ∀ s : Surroundings,
        (run s (front ++ (shorter ++ back))).Agrees (run s (front ++ (written ++ back)))) := by
  constructor
  · intro front back named request takes s s' t input input' supplies supplies' plain plain' book
    have document := supplies'.document.trans supplies.document.symm
    rw [run, run, takes.ofArguments plain, takes.ofArguments plain']
    exact congrArg (Report.outcome _ _) (Command.report_withInput document book)
  · intro front back shorter written request tunes before reads s
    exact tunes.agrees before reads s

/-- The script has several lines and ends with an empty one. -/
theorem sources_agree_lines :
    let t := "name: Inn\nif open\nendif\n".toList
    let bytes := (String.ofList t).toUTF8
    let inline : Surroundings := ⟨.empty, fun _ => .error .missing⟩
    let piped : Surroundings := ⟨bytes, fun _ => .error .missing⟩
    let filed : Surroundings := ⟨.empty, fun _ => .ok bytes⟩
    let front := ["sections".toList]
    let back := ["--json".toList, "-v".toList]
    run piped (front ++ back) = run inline (front ++ t :: back) ∧
      run filed (front ++ "inn.txt".toList :: back) = run inline (front ++ t :: back) ∧
      (run inline (front ++ [t, "--json".toList])).Agrees (run inline (front ++ t :: back)) := by
  intro t bytes inline piped filed front back
  have takes : TakesInput front back t ⟨.sections t none true, 1, false⟩ := by
    refine ⟨⟨⟨.sections ['-'] none false, 0, false⟩, ?_⟩, .inl rfl, ?_⟩
    · decide +kernel
    · decide +kernel
  have supplied : inline.Supplies t (some t) := .inline (by decide) rfl rfl
  have here : ∀ x ∈ some t, Plain front x := fun x same => Option.some.inj same ▸ .inl rfl
  have there : ∀ x ∈ some "inn.txt".toList, Plain front x :=
    fun x same => Option.some.inj same ▸ .inl rfl
  refine ⟨?_, ?_, ?_⟩
  · exact sources_agree.1 front back t _ takes inline piped t (some t) none supplied
      (.standardInput rfl) here nofun nofun
  · exact sources_agree.1 front back t _ takes inline filed t (some t) (some "inn.txt".toList)
      supplied (.file (by decide) rfl) here there nofun
  · exact sources_agree.2 (front ++ [t, "--json".toList]) [] [] ["-v".toList] _
      (.letters (by decide) (by decide)) (by decide) takes.reads inline

end Storygraph.Cli
