import Storygraph.Proofs.Json.Skipping
import Storygraph.Proofs.Layout

/-!
# Summaries read by others

A program that reads the summary of a compilation finds in it what the graphs and warnings have
(`Compilation.read_summary`). It finds the same rows in the listing of `sections`, and the graphs
that `parse` prints in full are of these sizes: `summaries_agree`.
-/

namespace Storygraph

open Json (Blank IsValue Nests Value Written member?_asRead_object nests_object)

namespace Json.Value

variable {α β : Type}

def listOf? (each : Value → Option α) (value : Value) : Option (List α) :=
  value.items? >>= List.mapM each

theorem listOf?_asRead {each : Value → Option α} {toJson : β → Json} {make : β → α} {items : List β}
    (reads : ∀ b ∈ items, each (toJson b).asRead = some (make b)) :
    (Json.list (items.map toJson)).asRead.listOf? each = some (items.map make) := by
  rw [asRead, asReadItems_eq, listOf?, items?, Option.bind_eq_bind, Option.bind_some]
  induction items with
  | nil => rfl
  | cons b items ih =>
    obtain ⟨first, others⟩ := List.forall_mem_cons.mp reads
    rw [List.map_cons, List.map_cons, List.mapM_cons, first, ih others]
    rfl

/-- What is made of the text of a value is made of the value as it is read. -/
theorem ofText?_of_written {make : Value → Option α} {j : Json} (nests : Nests maxDepth j)
    {t blanks : Text} (written : Written j t) (blank : Blank blanks) :
    ofText? make (t ++ blanks) = make j.asRead := by
  rw [ofText?, ofText_of_nests nests written blank]
  rfl

end Json.Value

/-! ### Rows -/

structure Extent where
  name : Text
  nodes : Nat
  edges : Nat
deriving DecidableEq, Repr

namespace Extent

def ofGraph (g : Graph) : Extent := ⟨g.name, g.nodes.length, g.edges.length⟩

def ofRow? (row : Value) : Option Extent := do
  let name ← (← row.member? "name").text?
  let nodes ← (← row.member? "node_count").natural?
  let edges ← (← row.member? "edge_count").natural?
  return ⟨name, nodes, edges⟩

def ofGraph? (graph : Value) : Option Extent := do
  let name ← (← graph.member? "name").text?
  let nodes ← (← graph.member? "nodes").items?
  let edges ← (← graph.member? "edges").items?
  return ⟨name, nodes.length, edges.length⟩

variable {g : Graph} {members : List (String × Json)}

/-- A row tells the size that its members have, whatever their order and what else it has. -/
theorem ofRow?_object (apart : (members.map fun m => m.1.toList).Nodup)
    (name : ("name", .text g.name) ∈ members)
    (nodes : ("node_count", .natural g.nodes.length) ∈ members)
    (edges : ("edge_count", .natural g.edges.length) ∈ members) :
    ofRow? (Json.object members).asRead = some (ofGraph g) := by
  rw [ofRow?, member?_asRead_object apart name, member?_asRead_object apart nodes,
    member?_asRead_object apart edges, Json.asRead, Json.asRead, Json.asRead]
  rfl

theorem ofGraph?_object (apart : (members.map fun m => m.1.toList).Nodup)
    (name : ("name", .text g.name) ∈ members)
    (nodes : ("nodes", .list (g.nodes.map Node.toJson)) ∈ members)
    (edges : ("edges", .list (g.edges.map Edge.toJson)) ∈ members) :
    ofGraph? (Json.object members).asRead = some (ofGraph g) := by
  rw [ofGraph?, member?_asRead_object apart name, member?_asRead_object apart nodes,
    member?_asRead_object apart edges, Json.asRead, Json.asRead, Json.asRead, Json.asReadItems_eq,
    Json.asReadItems_eq]
  simp [Value.text?, Value.items?, ofGraph]

end Extent

/-! ### Summaries -/

structure Summary where
  sections : Nat
  nodes : Nat
  edges : Nat
  warnings : Nat
  rows : List Extent
  remarks : List Text
deriving DecidableEq, Repr

namespace Summary

def ofValue? (summary : Value) : Option Summary := do
  let sections ← (← summary.member? "section_count").natural?
  let nodes ← (← summary.member? "node_count").natural?
  let edges ← (← summary.member? "edge_count").natural?
  let warnings ← (← summary.member? "warning_count").natural?
  let rows ← (← summary.member? "sections").listOf? Extent.ofRow?
  let remarks ← (← summary.member? "warnings").listOf? Value.text?
  return ⟨sections, nodes, edges, warnings, rows, remarks⟩

/-- The summary adds up, its rows are the sizes of the graphs, and its remarks are the warnings. -/
structure Tells (m : Summary) (r : Compilation) : Prop where
  sections : m.sections = m.rows.length
  nodes : m.nodes = m.rows.foldr (fun row n => row.nodes + n) 0
  edges : m.edges = m.rows.foldr (fun row n => row.edges + n) 0
  warnings : m.warnings = m.remarks.length
  rows : m.rows = r.sections.map Extent.ofGraph
  remarks : m.remarks = r.warnings.map Warning.toText

end Summary

namespace Compilation

variable {r : Compilation}

def read (r : Compilation) : Summary where
  sections := r.sections.length
  nodes := r.nodeCount
  edges := r.edgeCount
  warnings := r.warnings.length
  rows := r.sections.map Extent.ofGraph
  remarks := r.warnings.map Warning.toText

theorem read_tells (r : Compilation) : r.read.Tells r where
  sections := (List.length_map _).symm
  nodes := by
    change r.nodeCount = (r.sections.map Extent.ofGraph).foldr _ 0
    rw [List.foldr_map]
    rfl
  edges := by
    change r.edgeCount = (r.sections.map Extent.ofGraph).foldr _ 0
    rw [List.foldr_map]
    rfl
  warnings := (List.length_map _).symm
  rows := rfl
  remarks := rfl

/-- A summary tells what its members have, whatever their order. -/
theorem ofValue?_object {members : List (String × Json)} {row : Graph → Json}
    (apart : (members.map fun m => m.1.toList).Nodup)
    (sections : ("section_count", .natural r.sections.length) ∈ members)
    (nodes : ("node_count", .natural r.nodeCount) ∈ members)
    (edges : ("edge_count", .natural r.edgeCount) ∈ members)
    (warnings : ("warning_count", .natural r.warnings.length) ∈ members)
    (rows : ("sections", .list (r.sections.map row)) ∈ members)
    (remarks : ("warnings", .list (r.warnings.map fun w => .text w.toText)) ∈ members)
    (tells : ∀ g ∈ r.sections, Extent.ofRow? (row g).asRead = some (.ofGraph g)) :
    Summary.ofValue? (Json.object members).asRead = some r.read := by
  have texts : ∀ w ∈ r.warnings, Value.text? (Json.text w.toText).asRead = some w.toText := by
    intro w _
    rw [Json.asRead, Value.text?]
  rw [Summary.ofValue?, member?_asRead_object apart sections, member?_asRead_object apart nodes,
    member?_asRead_object apart edges, member?_asRead_object apart warnings,
    member?_asRead_object apart rows, member?_asRead_object apart remarks]
  simp only [Option.bind_eq_bind, Option.bind_some, Value.listOf?_asRead tells,
    Value.listOf?_asRead texts]
  simp only [Json.asRead]
  rfl

theorem ofValue?_summary (r : Compilation) : Summary.ofValue? r.summary.asRead = some r.read := by
  unfold summary
  refine ofValue?_object ?_ (by simp) (by simp) (by simp) (by simp)
    (.tail _ (.tail _ (.tail _ (.head _)))) (by simp) fun g _ => ?_
  · simp only [List.map_cons, List.map_nil]
    decide
  · refine Extent.ofRow?_object ?_ (by simp) (by simp) (by simp)
    simp only [List.map_cons, List.map_nil]
    decide

/-- A reader finds the same in every text of the summary. -/
theorem read_summary (sized : r.Sized maxNatural) {t blanks : Text} (written : Written r.summary t)
    (blank : Blank blanks) : Value.ofText? Summary.ofValue? (t ++ blanks) = some r.read := by
  rw [Value.ofText?_of_written (fits_summary sized).nests written blank, ofValue?_summary]

end Compilation

/-! ### Listings -/

namespace Cli

variable {r : Compilation}

theorem nests_sizesJson {g : Graph} {depth : Nat} (nodes : g.nodes.length ≤ maxNatural)
    (edges : g.edges.length ≤ maxNatural) : Nests (depth + 1) (sizesJson g) := by
  have conditions : g.conditions.length ≤ maxNatural := (List.length_filter_le _ _).trans nodes
  refine nests_object ?_
  simp only [List.forall_mem_cons]
  exact ⟨.text g.name, .natural nodes, .natural edges, .natural conditions, nofun⟩

theorem ofRow?_sizesJson (g : Graph) : Extent.ofRow? (sizesJson g).asRead = some (.ofGraph g) := by
  refine Extent.ofRow?_object ?_ (by simp) (by simp) (by simp)
  simp only [List.map_cons, List.map_nil]
  decide

theorem read_sizes (sized : r.Sized maxNatural) {t blanks : Text}
    (written : Written (.list (r.sections.map sizesJson)) t) (blank : Blank blanks) :
    Value.ofText? (Value.listOf? Extent.ofRow?) (t ++ blanks) = some r.read.rows := by
  have nests : Nests Json.maxDepth (.list (r.sections.map sizesJson)) := by
    refine .list (List.forall_mem_map.mpr fun g member => ?_)
    obtain ⟨nodes, edges⟩ := sized.each g member
    exact nests_sizesJson nodes edges
  rw [Value.ofText?_of_written nests written blank]
  exact Value.listOf?_asRead fun g _ => ofRow?_sizesJson g

end Cli

/-! ### Graphs in full -/

theorem Node.nests_toJson (n : Node) (depth : Nat) : Nests (depth + 1) n.toJson := by
  refine nests_object ?_
  simp only [List.forall_mem_cons]
  exact ⟨.text _, .text _, .text _, nofun⟩

theorem Edge.nests_toJson (e : Edge) (depth : Nat) : Nests (depth + 1) e.toJson := by
  refine nests_object ?_
  simp only [List.forall_mem_cons]
  exact ⟨.text _, .text _, nofun⟩

theorem Graph.nests_toJson (g : Graph) (depth : Nat) : Nests (depth + 3) g.toJson := by
  refine nests_object ?_
  simp only [List.forall_mem_cons]
  refine ⟨.text g.name, .list ?_, .list ?_, nofun⟩
  · exact List.forall_mem_map.mpr fun n _ => n.nests_toJson depth
  · exact List.forall_mem_map.mpr fun e _ => e.nests_toJson depth

theorem Graph.ofGraph?_toJson (g : Graph) :
    Extent.ofGraph? g.toJson.asRead = some (.ofGraph g) := by
  refine Extent.ofGraph?_object ?_ (by simp) (by simp) (by simp)
  simp only [List.map_cons, List.map_nil]
  decide

theorem Compilation.read_sectionsJson (r : Compilation) {t blanks : Text}
    (written : Written r.sectionsJson t) (blank : Blank blanks) :
    Value.ofText? (Value.listOf? Extent.ofGraph?) (t ++ blanks) = some r.read.rows := by
  have nests : Nests Json.maxDepth r.sectionsJson :=
    .list (List.forall_mem_map.mpr fun g _ => g.nests_toJson 123)
  rw [Value.ofText?_of_written nests written blank]
  exact Value.listOf?_asRead fun g _ => g.ofGraph?_toJson

/-! ### Runs -/

namespace Cli

variable {s : Surroundings} {input : Text} {rulebook : Option Text} {r : Compilation}

theorem written_jsonLine (pretty : Bool) (j : Json) :
    ∃ t, Written j t ∧ jsonLine pretty j = t ++ ['\n'] := by
  cases pretty with
  | true => exact ⟨j.indented, Json.written_indented j, rfl⟩
  | false => exact ⟨j.compact, Json.written_compact j, rfl⟩

theorem printSections_of_error {failure : Failure}
    (fails : (compile s input rulebook).result = .error failure) (json : Bool) :
    printSections s input rulebook json =
      ⟨(compile s input rulebook).notices, [], .error failure⟩ := by
  rw [printSections, Report.bind_of_error fails, printed_compile]

theorem printSections_of_ok (compiled : (compile s input rulebook).result = .ok r) :
    printSections s input rulebook true =
      ⟨(compile s input rulebook).notices ++ r.warnings.map warningNotice,
        jsonLine true (.list (r.sections.map sizesJson)), .ok ()⟩ := by
  rw [printSections, Report.bind_of_ok compiled, printed_compile, printListing, if_pos rfl,
    Report.print_bind, List.nil_append]
  simp only [warn, Report.notify, List.append_nil]

/-- The summary of a compilation is JSON, and a reader finds in it what there is of its graphs and
warnings. As for `parse_layout`, nothing that is held in memory has more parts than can be read back
as a number. The rows of a run of `sections` are those of a run of `parse` with the same input and
rulebook, and so are the sizes of the graphs that `parse` prints in full. -/
theorem summaries_agree {s : Surroundings} {input : Text}
    (short : ∀ document, s.document input = .ok document →
      (Text.lines document).length ≤ maxNatural)
    (rulebook : Option Text) (pretty pretty' : Bool) (v v' v'' : Nat) (q q' q'' : Bool) :
    (∀ r : Compilation, IsValue r.summary.compact ∧ (r.Sized maxNatural →
      ∃ m, Value.ofText? Summary.ofValue? r.summary.compact = some m ∧ m.Tells r)) ∧
    let told := Request.outcome s ⟨.parse input rulebook false pretty, v, q⟩
    let listed := Request.outcome s ⟨.sections input rulebook true, v', q'⟩
    let full := Request.outcome s ⟨.parse input rulebook true pretty', v'', q''⟩
    listed.exit = told.exit ∧ full.exit = told.exit ∧ (told.exit = 0 →
      ∃ c document m, s.document input = .ok document ∧
        classifierOf (s.rulebook rulebook).1 = .ok c ∧
        m.Tells (Compilation.ofDocument c document) ∧
        Value.ofText? Summary.ofValue? told.stdout = some m ∧
        Value.ofText? (Value.listOf? Extent.ofRow?) listed.stdout = some m.rows ∧
        Value.ofText? (Value.listOf? Extent.ofGraph?) full.stdout = some m.rows) := by
  constructor
  · intro r
    have written := Json.written_compact r.summary
    refine ⟨Json.isValue_of_written written, fun sized => ⟨r.read, ?_, r.read_tells⟩⟩
    have found := Compilation.read_summary sized written Json.blank_nil
    rwa [List.append_nil] at found
  intro told listed full
  have parses : ∀ full pretty v q, Request.outcome s ⟨.parse input rulebook full pretty, v, q⟩ =
      (printCompilation s input rulebook full pretty).outcome v q := fun _ _ _ _ => rfl
  have lists : listed = (printSections s input rulebook true).outcome v' q' := rfl
  cases compiled : (compile s input rulebook).result with
  | error failure =>
    simp only [told, full, lists, parses, printCompilation_of_error compiled,
      printSections_of_error compiled]
    exact ⟨rfl, rfl, nofun⟩
  | ok r =>
    have sized := sized_of_compile short compiled
    obtain ⟨document, c, given, compiles, rfl⟩ := exists_of_compile compiled
    simp only [told, full, lists, parses, printCompilation_of_ok compiled sized,
      printSections_of_ok compiled, Report.stdout_outcome]
    refine ⟨rfl, rfl, fun _ => ⟨c, document, _, given, compiles, Compilation.read_tells _, ?_⟩⟩
    have blank := Json.blank_newline 0
    obtain ⟨t, written, shown⟩ := written_jsonLine pretty
      (shownJson false (Compilation.ofDocument c document))
    obtain ⟨t', written', shown'⟩ := written_jsonLine true
      (.list ((Compilation.ofDocument c document).sections.map sizesJson))
    obtain ⟨t'', written'', shown''⟩ := written_jsonLine pretty'
      (shownJson true (Compilation.ofDocument c document))
    rw [shown, shown', shown'']
    exact ⟨Compilation.read_summary sized written blank, read_sizes sized written' blank,
      Compilation.read_sectionsJson _ written'' blank⟩

/-- The name of the first section has quotation marks in it, and the second section has no name. -/
theorem summaries_agree_quoted :
    let input := "name: the \"old\"  inn\nendif\n---\nStart".toList
    let s : Surroundings := ⟨.empty, fun _ => .error .missing⟩
    let told := Request.outcome s ⟨.parse input none false true, 0, false⟩
    let listed := Request.outcome s ⟨.sections input none true, 1, false⟩
    (∀ document, s.document input = .ok document → (Text.lines document).length ≤ maxNatural) ∧
      told.exit = 0 ∧ ∃ m, Value.ofText? Summary.ofValue? told.stdout = some m ∧
        Value.ofText? (Value.listOf? Extent.ofRow?) listed.stdout = some m.rows ∧
        m.rows.map Extent.name = ["the \"old\"  inn".toList, "Section 2".toList] := by
  intro input s told listed
  have short : ∀ document, s.document input = .ok document →
      (Text.lines document).length ≤ maxNatural := by
    intro document given
    cases given
    decide
  have ended : told.exit = 0 := by decide +kernel
  obtain ⟨-, -, -, reads⟩ := summaries_agree short none true false 0 1 0 false false false
  obtain ⟨c, document, m, given, -, tells, summary, rows, -⟩ := reads ended
  refine ⟨short, ended, m, summary, rows, ?_⟩
  cases given
  have names : (Compilation.ofDocument c input).sections.map Graph.name =
      (Section.split input).map Section.name := by
    rw [Compilation.ofDocument, List.map_map]
    rfl
  rw [tells.rows, List.map_map]
  exact names.trans (by decide +kernel)

end Cli

end Storygraph
