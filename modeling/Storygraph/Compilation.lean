import Storygraph.Build

/-!
# Compilations

The graphs of a document's sections, with the warnings about all of them.
-/

namespace Storygraph

structure Compilation where
  sections : List Graph
  warnings : List Warning
deriving DecidableEq, Repr

namespace Compilation

def ofDocument (c : Classifier) (document : Text) : Compilation :=
  let sections := Section.split document
  ⟨sections.map (·.graph c), sections.flatMap (·.warnings)⟩

def nodeCount (r : Compilation) : Nat := r.sections.foldr (fun g n => g.nodes.length + n) 0

def edgeCount (r : Compilation) : Nat := r.sections.foldr (fun g n => g.edges.length + n) 0

def section? (r : Compilation) (name : Text) : Option Graph := r.sections.find? (·.name = name)

end Compilation

end Storygraph
