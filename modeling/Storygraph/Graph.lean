import Storygraph.Text.Decimal

/-!
# Section graphs

The graph of one section of a script: its statements as nodes, in order, and the edges along
which the story can go on.
-/

namespace Storygraph

/-- What a statement does. Tags without a meaning of their own are kept as they are. -/
inductive Kind where
  | start | finish | dialogue | function | jump | wait | show | condition
  | other (tag : Text)
deriving DecidableEq, Repr

namespace Kind

def conditionTag : String := "condition"

/-- The second tag of function statements. -/
def callTag : String := "function_call"

def ofTag (tag : Text) : Kind :=
  match String.ofList tag with
  | "start" => start
  | "end" => finish
  | "dialogue" => dialogue
  | "function" | "function_call" => function
  | "jump" => jump
  | "wait" => wait
  | "show" => .show
  | "condition" => condition
  | _ => other tag

def tag : Kind → Text
  | start => "start".toList
  | finish => "end".toList
  | dialogue => "dialogue".toList
  | function => "function".toList
  | jump => "jump".toList
  | wait => "wait".toList
  | .show => "show".toList
  | condition => conditionTag.toList
  | other tag => tag

def isCondition (k : Kind) : Bool := k == condition

end Kind

/-- The largest index, line number or count that a file may hold. -/
def maxNatural : Nat := 18446744073709551615

/-- A node of one graph, by its position. -/
structure NodeId where
  index : Nat
deriving DecidableEq, Repr

namespace NodeId

/-- The text of a node's name. -/
def toText (id : NodeId) : Text := "n_".toList ++ Text.ofNat id.index

/-- Reads a node's name: `n_` and a numeral, which may have a sign and leading zeros. -/
def ofText? (t : Text) : Option NodeId := do
  let digits ← Text.dropPrefix? "n_".toList t
  let n ← Text.toNat? ((Text.dropPrefix? ['+'] digits).getD digits)
  if n ≤ maxNatural then some ⟨n⟩ else none

/-- What is wrong with a text that is no node's name. -/
def refusal (t : Text) : Text :=
  "invalid node id '".toList ++ t ++ "' (expected 'n_<index>')".toList

end NodeId

/-- A statement of a script. A conditional's content is its header and the lines that describe
its options. -/
structure Node where
  id : NodeId
  kind : Kind
  content : Text
deriving DecidableEq, Repr

structure Edge where
  source : NodeId
  target : NodeId
deriving DecidableEq, Repr

structure Graph where
  name : Text
  nodes : List Node
  edges : List Edge
deriving DecidableEq, Repr

namespace Graph

def empty (name : Text) : Graph := ⟨name, [], []⟩

def successors (g : Graph) (id : NodeId) : List NodeId :=
  (g.edges.filter (·.source = id)).map (·.target)

def predecessors (g : Graph) (id : NodeId) : List NodeId :=
  (g.edges.filter (·.target = id)).map (·.source)

def conditions (g : Graph) : List Node := g.nodes.filter (·.kind.isCondition)

def isForwardOnly (g : Graph) : Bool := g.edges.all fun e => e.source.index < e.target.index

end Graph

end Storygraph
