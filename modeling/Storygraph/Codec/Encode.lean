import Storygraph.Compilation
import Storygraph.Declaration
import Storygraph.Json.Basic

/-!
# Files as JSON

The JSON forms of graphs, warnings, compilations, rulebooks and declarations, and the summary of
a compilation.
-/

namespace Storygraph

def NodeId.toJson (id : NodeId) : Json := .text id.toText

def Node.toJson (n : Node) : Json :=
  .object [("id", n.id.toJson), ("type", .text n.kind.tag), ("content", .text n.content)]

def Edge.toJson (e : Edge) : Json :=
  .object [("from_id", e.source.toJson), ("to_id", e.target.toJson)]

def Graph.toJson (g : Graph) : Json :=
  .object [("name", .text g.name), ("nodes", .list (g.nodes.map Node.toJson)),
    ("edges", .list (g.edges.map Edge.toJson))]

def Warning.toJson (w : Warning) : Json :=
  .object [("code", .text w.code.name.toList), ("message", .text w.message),
    ("line", .natural w.line)]

def Rule.toJson (r : Rule) : Json :=
  .object [("name", .text r.name), ("pattern", .text r.pattern),
    ("description", .text r.description)]

def Rulebook.toJson (b : Rulebook) : Json :=
  .object [("node_types", .list (b.rules.map Rule.toJson)),
    ("default_node_type", .text b.defaultTag),
    ("ignore_patterns", .list (b.ignored.map Json.text))]

def Declaration.toJson (d : Declaration) : Json :=
  .object [("line", .natural d.line), ("name", .text d.name)]

namespace Compilation

def sectionsJson (r : Compilation) : Json := .list (r.sections.map Graph.toJson)

def toJson (r : Compilation) : Json :=
  .object [("sections", r.sectionsJson), ("warnings", .list (r.warnings.map Warning.toJson))]

/-- Sizes of the graphs and texts of the warnings, with the members of each record in
alphabetical order. -/
def summary (r : Compilation) : Json :=
  let row (g : Graph) : Json :=
    .object [("edge_count", .natural g.edges.length), ("name", .text g.name),
      ("node_count", .natural g.nodes.length)]
  .object [
    ("edge_count", .natural r.edgeCount),
    ("node_count", .natural r.nodeCount),
    ("section_count", .natural r.sections.length),
    ("sections", .list (r.sections.map row)),
    ("warning_count", .natural r.warnings.length),
    ("warnings", .list (r.warnings.map fun w => .text w.toText))]

end Compilation

end Storygraph
