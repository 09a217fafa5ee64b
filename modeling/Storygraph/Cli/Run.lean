import Storygraph.Codec.Decode
import Storygraph.Codec.Encode
import Storygraph.Json.Value
import Storygraph.Cli.Arguments
import Storygraph.Cli.Failure
import Storygraph.Cli.Notice

/-!
# Runs

What a run of the program prints, and how it ends. A run is made of steps. What they have told and
printed stays when a later one fails.
-/

namespace Storygraph.Cli

/-- What some steps of a run come to: the notices on the way, what they print, and their answer. -/
structure Report (α : Type) where
  notices : List Notice
  printed : Text
  result : Except Failure α

namespace Report

variable {α β : Type}

/-- Steps and the steps after them, which are not taken after a failure. -/
def followedBy (first : Report α) (next : α → Report β) : Report β :=
  match first.result with
  | .error failure => ⟨first.notices, first.printed, .error failure⟩
  | .ok a =>
    let later := next a
    ⟨first.notices ++ later.notices, first.printed ++ later.printed, later.result⟩

instance : Monad Report where
  pure a := ⟨[], [], .ok a⟩
  bind := followedBy

/-- A step that can fail, and tells and prints nothing. -/
def attempt (result : Except Failure α) : Report α := ⟨[], [], result⟩

def notify (notices : List Notice) : Report Unit := ⟨notices, [], .ok ()⟩

def print (t : Text) : Report Unit := ⟨[], t, .ok ()⟩

end Report

/-- How a run ends and what is seen of it. -/
structure Outcome where
  exit : Nat
  stdout : Text
  stderr : Text
deriving DecidableEq, Repr

/-! ### Reading -/

/-- The document that an input stands for: standard input, a file, or the input itself where it
is not the path of anything. -/
def Surroundings.document (s : Surroundings) (input : Text) : Except Failure Text :=
  if input = ['-'] then (decode s.standardInput).mapError .standardInput
  else
    match s.textAt input with
    | .ok t => .ok t
    | .error fault => if fault.leadsNowhere then .ok input else .error (.file input fault)

/-- What follows the cause in a notice about a rulebook that cannot be used. -/
def fallback : Text := "; using built-in node types".toList

/-- The rulebook at a path. Where none can be read there, the built-in one is used. -/
def Surroundings.rulebookAt (s : Surroundings) (path : Text) : Rulebook × Notice :=
  match s.textAt path with
  | .error .missing =>
    (.builtin, ⟨.detail, .commands,
      "Node type config not found at ".toList ++ path ++ fallback, []⟩)
  | .error fault =>
    (.builtin, ⟨.warning, .commands, "Failed to read node type config ".toList ++ path ++
      ": ".toList ++ fault.message ++ fallback, []⟩)
  | .ok t =>
    match Rulebook.ofText t with
    | .ok book =>
      (book, ⟨.information, .commands, "Loaded ".toList ++ Text.ofNat book.rules.length ++
        " node types from: ".toList ++ path, []⟩)
    | .error e =>
      (.builtin, ⟨.warning, .commands,
        Rulebook.refusal e ++ " in ".toList ++ path ++ fallback, []⟩)

def Surroundings.rulebook (s : Surroundings) : Option Text → Rulebook × List Notice
  | none => (.builtin, [])
  | some path => let (book, notice) := s.rulebookAt path; (book, [notice])

def classifierOf (book : Rulebook) : Except Failure Classifier :=
  (Classifier.ofRulebook book).mapError .rulebook

/-! ### Notices -/

def numberField (key : String) (n : Nat) : String × Text := (key, Text.ofNat n)

def classifierNotice (c : Classifier) : Notice :=
  ⟨.detail, .commands, "Compiled ".toList ++ Text.ofNat c.rules.length ++
    " node type rules (default: ".toList ++ c.default.tag ++ ")".toList, []⟩

def graphNotice (c : Classifier) (s : Section) : Notice :=
  let g := s.graph c
  ⟨.detail, .graphs, "built section graph".toList,
    [("section", g.name), numberField "nodes" g.nodes.length,
      numberField "edges" g.edges.length, numberField "warnings" s.warnings.length]⟩

def compilationNotice (r : Compilation) : Notice :=
  ⟨.detail, .compiler, "parsed document".toList,
    [numberField "sections" r.sections.length, numberField "nodes" r.nodeCount,
      numberField "edges" r.edgeCount, numberField "warnings" r.warnings.length]⟩

def warningNotice (w : Warning) : Notice :=
  ⟨.warning, .commands, "Parse warning: ".toList ++ w.toText, []⟩

/-! ### Printing -/

def line (t : Text) : Text := t ++ ['\n']

def jsonLine (pretty : Bool) (j : Json) : Text := line (if pretty then j.indented else j.compact)

/-- Prints a listing: JSON, or a line for each row, or what is said where there are no rows. -/
def printListing {α : Type} (json : Bool) (encode : α → Json) (row : α → Text) (none : Text)
    (rows : List α) : Report Unit :=
  if json then .print (jsonLine true (.list (rows.map encode)))
  else if rows.isEmpty then .print (line none)
  else .print (rows.flatMap fun r => line (row r))

def sizesJson (g : Graph) : Json :=
  .object [("name", .text g.name), ("node_count", .natural g.nodes.length),
    ("edge_count", .natural g.edges.length), ("condition_count", .natural g.conditions.length)]

def sizesText (g : Graph) : Text :=
  g.name ++ ": ".toList ++ Text.ofNat g.nodes.length ++ " nodes, ".toList ++
    Text.ofNat g.edges.length ++ " edges, ".toList ++ Text.ofNat g.conditions.length ++
    " conditions".toList

def declarationText (d : Declaration) : Text :=
  Text.padLeft 5 (Text.ofNat d.line) ++ "  ".toList ++ d.name

/-- The summary with its parts on lines of their own. Its compact form is read back for that. -/
def indentedSummary (r : Compilation) : Except Failure Text :=
  ((Json.Value.ofText r.summary.compact).mapError .reread).map (·.indented)

def compilationText (full pretty : Bool) (r : Compilation) : Except Failure Text :=
  if full then .ok (if pretty then r.sectionsJson.indented else r.sectionsJson.compact)
  else if pretty then indentedSummary r
  else .ok r.summary.compact

/-! ### Commands -/

def readRulebook (s : Surroundings) (rulebook : Option Text) : Report Rulebook := do
  let (book, notices) := s.rulebook rulebook
  .notify notices
  return book

def compile (s : Surroundings) (input : Text) (rulebook : Option Text) : Report Compilation := do
  let document ← .attempt (s.document input)
  let book ← readRulebook s rulebook
  let c ← .attempt (classifierOf book)
  .notify [classifierNotice c]
  .notify ((Section.split document).map (graphNotice c))
  let r := Compilation.ofDocument c document
  .notify [compilationNotice r]
  return r

def warn (r : Compilation) : Report Unit := .notify (r.warnings.map warningNotice)

def printCompilation (s : Surroundings) (input : Text) (rulebook : Option Text)
    (full pretty : Bool) : Report Unit := do
  let r ← compile s input rulebook
  let text ← .attempt (compilationText full pretty r)
  .print (line text)
  warn r

def printSections (s : Surroundings) (input : Text) (rulebook : Option Text) (json : Bool) :
    Report Unit := do
  let r ← compile s input rulebook
  printListing json sizesJson sizesText "No sections found".toList r.sections
  warn r

def printDeclarations (s : Surroundings) (input : Text) (json : Bool) : Report Unit := do
  let document ← .attempt (s.document input)
  printListing json Declaration.toJson declarationText "No dialogues found".toList
    (Declaration.all document)

/-- Prints the rulebook that is in effect, if it compiles. -/
def showRulebook (s : Surroundings) (rulebook : Option Text) : Report Unit := do
  let book ← readRulebook s rulebook
  let _ ← .attempt (classifierOf book)
  .print (jsonLine true book.toJson)

def Command.report (s : Surroundings) : Command → Report Unit
  | parse input rulebook full pretty => printCompilation s input rulebook full pretty
  | sections input rulebook json => printSections s input rulebook json
  | dialogues input json => printDeclarations s input json
  | config rulebook => showRulebook s rulebook

/-! ### Outcomes -/

def versionText : Text := "snil-graph 0.1.0".toList

/-- What is seen of a run whose command line asks for the version, or is misused. -/
def Halt.outcome : Halt → Outcome
  | version => ⟨0, line versionText, []⟩
  | misuse m => ⟨2, [], line ("error: ".toList ++ m.message)⟩

def Report.outcome (verbosity : Nat) (quiet : Bool) (r : Report Unit) : Outcome :=
  let log := (r.notices.filter (·.isShown verbosity quiet)).flatMap Notice.toLine
  match r.result with
  | .ok () => ⟨0, r.printed, log⟩
  | .error failure => ⟨1, r.printed, log ++ failure.report⟩

def Request.outcome (s : Surroundings) (r : Request) : Outcome :=
  (r.command.report s).outcome r.verbosity r.quiet

def run (s : Surroundings) (arguments : List Text) : Outcome :=
  match Request.ofArguments arguments with
  | .ok request => request.outcome s
  | .error halt => halt.outcome

end Storygraph.Cli
