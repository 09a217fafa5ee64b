import Storygraph.Classifier
import Storygraph.Item

/-!
# Building a section's graph

Each line that is not ignored becomes a node, linked from the ends of what came before it. The
branches of a conditional both begin at its node; a branch without nodes has no end.
-/

namespace Storygraph

structure Draft where
  nodes : Array Node
  edges : Array Edge
  /-- The index of the next node. -/
  next : Nat
  /-- The nodes that the next one is linked from. -/
  ends : List NodeId

namespace Draft

def empty : Draft := ⟨#[], #[], 0, []⟩

/-- Adds a node and links it. -/
def add (d : Draft) (kind : Kind) (content : Text) : Draft :=
  let id : NodeId := ⟨d.next⟩
  let links : List Edge := d.ends.map fun source => ⟨source, id⟩
  ⟨d.nodes.push ⟨id, kind, content⟩, d.edges ++ links, d.next + 1, [id]⟩

/-- Adds the node of a line, unless the line is ignored. -/
def addLine (c : Classifier) (d : Draft) (line : Line) : Draft :=
  match c.classify line.text with
  | none => d
  | some kind => d.add kind line.text

/-- Adds the lines of a branch after the node of a conditional. A branch that adds no node leaves
no end. -/
def addBranch (c : Classifier) (origin : NodeId) (d : Draft) (lines : List Line) : Draft :=
  let after := lines.foldl (addLine c) { d with ends := [origin] }
  if after.ends = [origin] then { after with ends := [] } else after

def addItem (c : Classifier) (d : Draft) : Item → Draft
  | .line line => d.addLine c line
  | .conditional block =>
    let origin : NodeId := ⟨d.next⟩
    let opened := d.add .condition block.content
    let afterTrue := opened.addBranch c origin block.whenTrue
    let endsOfTrue := afterTrue.ends
    let afterFalse := afterTrue.addBranch c origin block.whenFalse
    { afterFalse with ends := endsOfTrue ++ afterFalse.ends }

end Draft

namespace Section

def graph (s : Section) (c : Classifier) : Graph :=
  let d := (items s.lines).foldl (Draft.addItem c) .empty
  ⟨s.name, d.nodes.toList, d.edges.toList⟩

def warnings (s : Section) : List Warning := itemWarnings s.lines

end Section

end Storygraph
