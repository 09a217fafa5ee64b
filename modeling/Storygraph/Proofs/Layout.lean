import Storygraph.Proofs.Json.Squeezed
import Storygraph.Proofs.Json.Values
import Storygraph.Proofs.Reports
import Storygraph.Proofs.Sizes

/-!
# Layout of compilations

Asked for a layout on several lines, `parse` prints the same JSON value as without. The summary is
read back for that, and reading it back gives the same value again (`indentedSummary_eq`).
`parse_layout` compares whole runs.
-/

namespace Storygraph

open Json (Fits)

namespace Compilation

variable {r : Compilation}

/-- The numbers of a summary can be read back, and its members are in order. -/
theorem fits_summary (sized : r.Sized maxNatural) : Fits Json.maxDepth r.summary := by
  have row : ∀ g ∈ r.sections, Fits 125 (.object [("edge_count", .natural g.edges.length),
      ("name", .text g.name), ("node_count", .natural g.nodes.length)]) := by
    intro g member
    obtain ⟨nodes, edges⟩ := sized.each g member
    apply Json.fits_object
    · simp only [List.map_cons, List.map_nil]
      decide
    · simp only [List.forall_mem_cons]
      exact ⟨.natural edges, .text g.name, .natural nodes, nofun⟩
  unfold summary
  apply Json.fits_object
  · simp only [List.map_cons, List.map_nil]
    decide
  · simp only [List.forall_mem_cons]
    refine ⟨.natural sized.edges, .natural sized.nodes, .natural sized.sections, ?_,
      .natural sized.warnings, ?_, nofun⟩
    · exact .list (List.forall_mem_map.mpr row)
    · exact .list (List.forall_mem_map.mpr fun w _ => .text w.toText)

end Compilation

namespace Cli

variable {r : Compilation}

/-- Reading a summary back changes nothing about it. -/
theorem indentedSummary_eq (sized : r.Sized maxNatural) :
    indentedSummary r = .ok r.summary.indented := by
  rw [indentedSummary, Json.ofText_of_written (Compilation.fits_summary sized)
    (Json.written_compact _)]
  exact congrArg Except.ok (Json.indented_value _)

def shownJson (full : Bool) (r : Compilation) : Json := if full then r.sectionsJson else r.summary

theorem compilationText_eq (sized : r.Sized maxNatural) (full pretty : Bool) :
    compilationText full pretty r =
      .ok (if pretty then (shownJson full r).indented else (shownJson full r).compact) := by
  cases full with
  | true => rfl
  | false =>
    cases pretty with
    | true => exact indentedSummary_eq sized
    | false => rfl

variable {s : Surroundings} {input : Text} {rulebook : Option Text}

theorem printCompilation_of_error {failure : Failure}
    (fails : (compile s input rulebook).result = .error failure) (full pretty : Bool) :
    printCompilation s input rulebook full pretty =
      ⟨(compile s input rulebook).notices, [], .error failure⟩ := by
  rw [printCompilation, Report.bind_of_error fails, printed_compile]

theorem printCompilation_of_ok (compiled : (compile s input rulebook).result = .ok r)
    (sized : r.Sized maxNatural) (full pretty : Bool) :
    printCompilation s input rulebook full pretty =
      ⟨(compile s input rulebook).notices ++ r.warnings.map warningNotice,
        jsonLine pretty (shownJson full r), .ok ()⟩ := by
  have shown := compilationText_eq sized full pretty
  rw [printCompilation, Report.bind_of_ok compiled, printed_compile, shown,
    Report.attempt_ok_bind, Report.print_bind, List.nil_append]
  simp only [warn, Report.notify, List.append_nil]
  rfl

/-- What a run of `parse` compiles comes from its document, and is of a size that can be told. -/
theorem sized_of_compile
    (short : ∀ document, s.document input = .ok document →
      (Text.lines document).length ≤ maxNatural)
    (compiled : (compile s input rulebook).result = .ok r) : r.Sized maxNatural := by
  obtain ⟨document, c, given, -, rfl⟩ := exists_of_compile compiled
  exact (Compilation.sized_ofDocument c document).mono (short document given)

/-- With a layout on several lines `parse` ends as without it, and what it prints is the same but for
blanks outside strings. For that it reads its own text back, which never fails: no document that is
held in memory has more lines than can be read back as a number. -/
theorem parse_layout {s : Surroundings} {input : Text}
    (short : ∀ document, s.document input = .ok document →
      (Text.lines document).length ≤ maxNatural)
    (rulebook : Option Text) (full : Bool) (v : Nat) (q : Bool) :
    let plain := Request.outcome s ⟨.parse input rulebook full false, v, q⟩
    let pretty := Request.outcome s ⟨.parse input rulebook full true, v, q⟩
    pretty.exit = plain.exit ∧ pretty.stderr = plain.stderr ∧
      (plain.exit = 0 → line (Json.squeeze pretty.stdout) = plain.stdout) ∧
      (plain.exit ≠ 0 → pretty.stdout = [] ∧ plain.stdout = []) ∧
      ∀ (c : Classifier) (document : Text), s.document input = .ok document →
        ∃ value, Json.Value.ofText (Compilation.ofDocument c document).summary.compact = .ok value ∧
          value.indented = (Compilation.ofDocument c document).summary.indented := by
  intro plain pretty
  have reread : ∀ (c : Classifier) (document : Text), s.document input = .ok document →
      ∃ value, Json.Value.ofText (Compilation.ofDocument c document).summary.compact = .ok value ∧
        value.indented = (Compilation.ofDocument c document).summary.indented := by
    intro c document given
    have sized := (Compilation.sized_ofDocument c document).mono (short document given)
    exact ⟨_, Json.ofText_of_written (Compilation.fits_summary sized) (Json.written_compact _),
      Json.indented_value _⟩
  have shown : ∀ layout, Request.outcome s ⟨.parse input rulebook full layout, v, q⟩ =
      (printCompilation s input rulebook full layout).outcome v q := fun _ => rfl
  cases compiled : (compile s input rulebook).result with
  | error failure =>
    have same : pretty = plain := by
      simp only [pretty, plain, shown, printCompilation_of_error compiled]
    have failed : plain.exit = 1 ∧ plain.stdout = [] := by
      simp only [plain, shown, printCompilation_of_error compiled]
      exact ⟨rfl, rfl⟩
    rw [same, failed.1, failed.2]
    exact ⟨rfl, rfl, nofun, fun _ => ⟨rfl, rfl⟩, reread⟩
  | ok r =>
    have sized := sized_of_compile short compiled
    have runs : ∀ layout, printCompilation s input rulebook full layout = _ :=
      printCompilation_of_ok compiled sized full
    simp only [pretty, plain, shown, runs]
    refine ⟨rfl, rfl, fun _ => ?_, fun failed => absurd rfl failed, reread⟩
    have squeezed := Json.squeeze_indented (shownJson full r) ['\n']
    rw [show Json.squeeze ['\n'] = [] from rfl, List.append_nil] at squeezed
    exact congrArg line squeezed

/-- The name of the section has blanks and quotation marks in it. Both stay. -/
theorem parse_layout_quoted :
    let input := "name: the \"old\"  inn\nendif".toList
    let s : Surroundings := ⟨.empty, fun _ => .error .missing⟩
    let plain := Request.outcome s ⟨.parse input none false false, 0, false⟩
    let pretty := Request.outcome s ⟨.parse input none false true, 0, false⟩
    (∀ document, s.document input = .ok document → (Text.lines document).length ≤ maxNatural) ∧
      pretty.exit = 0 ∧ pretty.stdout ≠ plain.stdout ∧
      line (Json.squeeze pretty.stdout) = plain.stdout := by
  intro input s plain pretty
  have short : ∀ document, s.document input = .ok document →
      (Text.lines document).length ≤ maxNatural := by
    intro document given
    cases given
    decide
  have ended : plain.exit = 0 := by decide +kernel
  have longer : pretty.stdout ≠ plain.stdout := by decide +kernel
  obtain ⟨exit, -, same, -⟩ := parse_layout short none false 0 false
  exact ⟨short, exit.trans ended, longer, same ended⟩

end Cli

end Storygraph
