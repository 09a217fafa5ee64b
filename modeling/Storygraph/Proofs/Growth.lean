import Mathlib.Data.List.Induction
import Storygraph.Build

/-!
# What an item adds to a graph

An item adds a stretch of nodes, the edges to and among them, and leaves new ends. `addItem_eq`
says so of one item, and `foldl_addItem_induction` carries what one item keeps over many.
-/

namespace Storygraph

def Classifier.statements (c : Classifier) (lines : List Line) : List (Kind × Text) :=
  lines.filterMap fun l => (c.classify l.text).map fun kind => (kind, l.text)

def NodeId.range (first count : Nat) : List NodeId := (List.range' first count).map NodeId.mk

def Node.number (first : Nat) (statements : List (Kind × Text)) : List Node :=
  (statements.zipIdx first).map fun (statement, index) => ⟨⟨index⟩, statement.1, statement.2⟩

def Edge.chain (origin : NodeId) : List NodeId → List Edge
  | [] => []
  | id :: ids => ⟨origin, id⟩ :: chain id ids

namespace Item

def statements (c : Classifier) : Item → List (Kind × Text)
  | .line l => c.statements [l]
  | .conditional block =>
    (.condition, block.content) :: (c.statements block.whenTrue ++ c.statements block.whenFalse)

/-- The nodes of an item's branches, where the item's first node has the given index. -/
def branches (c : Classifier) (first : Nat) : Item → List (List NodeId)
  | .line _ => []
  | .conditional block =>
    let count := (c.statements block.whenTrue).length
    [NodeId.range (first + 1) count,
      NodeId.range (first + 1 + count) (c.statements block.whenFalse).length]

def inner (c : Classifier) (first : Nat) (item : Item) : List Edge :=
  (item.branches c first).flatMap (Edge.chain ⟨first⟩)

/-- The nodes from which the story leaves an item, whose first node has the given index: the node
of a line, or the last nodes of a conditional's branches. -/
def exits (c : Classifier) (first : Nat) : Item → List NodeId
  | .line _ => [⟨first⟩]
  | .conditional block =>
    (branches c first (.conditional block)).flatMap fun ids => ids.getLast?.toList

end Item

def Classifier.count (c : Classifier) (items : List Item) : Nat :=
  (items.flatMap (Item.statements c)).length

/-! ### Ids and chains -/

namespace NodeId

theorem range_zero (first : Nat) : range first 0 = [] := rfl

theorem range_succ (first count : Nat) :
    range first (count + 1) = ⟨first⟩ :: range (first + 1) count := by
  simp [range, List.range'_succ]

theorem length_range (first count : Nat) : (range first count).length = count := by
  simp [range]

theorem mem_range {first count : Nat} {id : NodeId} :
    id ∈ range first count ↔ first ≤ id.index ∧ id.index < first + count := by
  obtain ⟨index⟩ := id
  simp [range, List.mem_range'_1]

end NodeId

namespace Node

theorem number_cons (first : Nat) (statement : Kind × Text) (statements : List (Kind × Text)) :
    number first (statement :: statements) =
      ⟨⟨first⟩, statement.1, statement.2⟩ :: number (first + 1) statements := rfl

theorem number_append (first : Nat) (xs ys : List (Kind × Text)) :
    number first (xs ++ ys) = number first xs ++ number (first + xs.length) ys := by
  simp [number, List.zipIdx_append]

end Node

theorem concat_eq_append_cons {α : Type} {done before after : List α} {item x : α}
    (split : done ++ [item] = before ++ x :: after) :
    (before = done ∧ x = item ∧ after = []) ∨
      ∃ rest, after = rest ++ [item] ∧ done = before ++ x :: rest := by
  rcases List.eq_nil_or_concat after with rfl | ⟨rest, last, rfl⟩
  · obtain ⟨same, last⟩ := List.append_inj' split rfl
    exact Or.inl ⟨same.symm, (List.singleton_inj.mp last).symm, rfl⟩
  · have moved : done ++ [item] = (before ++ x :: rest) ++ [last] := by simpa using split
    obtain ⟨same, last⟩ := List.append_inj' moved rfl
    obtain rfl := List.singleton_inj.mp last
    exact Or.inr ⟨rest, List.concat_eq_append, same⟩

/-! ### Growing a draft -/

namespace Draft

def grow (d : Draft) (statements : List (Kind × Text)) (edges : List Edge) (ends : List NodeId) :
    Draft where
  nodes := d.nodes ++ Node.number d.next statements
  edges := d.edges ++ edges
  next := d.next + statements.length
  ends := ends

def links (d : Draft) : List Edge := d.ends.map fun source => ⟨source, ⟨d.next⟩⟩

theorem grow_nil (d : Draft) : d.grow [] [] d.ends = d := by
  simp [grow, Node.number]

theorem grow_grow (d : Draft) (xs ys : List (Kind × Text)) (es fs : List Edge)
    (ends last : List NodeId) :
    (d.grow xs es ends).grow ys fs last = d.grow (xs ++ ys) (es ++ fs) last := by
  obtain ⟨⟨nodes⟩, ⟨edges⟩, next, before⟩ := d
  simp [grow, Node.number_append, Nat.add_assoc]

theorem add_eq (d : Draft) (kind : Kind) (content : Text) :
    d.add kind content = d.grow [(kind, content)] d.links [⟨d.next⟩] := by
  obtain ⟨⟨nodes⟩, ⟨edges⟩, next, ends⟩ := d
  simp [add, grow, links, Node.number]

theorem addLine_eq (c : Classifier) (d : Draft) (line : Line) :
    d.addLine c line =
      if c.statements [line] = [] then d
      else d.grow (c.statements [line]) d.links [⟨d.next⟩] := by
  unfold addLine
  cases h : c.classify line.text with
  | none => simp [Classifier.statements, h]
  | some kind => simp [Classifier.statements, h, add_eq]

/-- Lines that follow a single node become a chain after it. -/
theorem foldl_addLine (c : Classifier) (d : Draft) (origin : NodeId) (lines : List Line)
    (after : d.ends = [origin]) :
    lines.foldl (addLine c) d =
      let ids := NodeId.range d.next (c.statements lines).length
      d.grow (c.statements lines) (Edge.chain origin ids) [ids.getLast?.getD origin] := by
  induction lines generalizing d origin with
  | nil => simp [Classifier.statements, NodeId.range_zero, Edge.chain, ← after, grow_nil]
  | cons line lines ih =>
    rw [List.foldl_cons, addLine]
    cases h : c.classify line.text with
    | none =>
      simp only
      rw [ih d origin after]
      simp [Classifier.statements, h]
    | some kind =>
      have next : (d.add kind line.text).next = d.next + 1 := rfl
      simp only
      rw [ih (d.add kind line.text) ⟨d.next⟩ rfl, next, add_eq, links, after]
      simp [grow_grow, Classifier.statements, h, NodeId.range_succ, Edge.chain,
        List.getLast?_cons]

/-- A branch becomes a chain after its conditional; its end is its last node. -/
theorem addBranch_eq (c : Classifier) (d : Draft) (origin : NodeId) (lines : List Line)
    (below : origin.index < d.next) :
    d.addBranch c origin lines =
      let ids := NodeId.range d.next (c.statements lines).length
      d.grow (c.statements lines) (Edge.chain origin ids) ids.getLast?.toList := by
  unfold addBranch
  rw [foldl_addLine c _ origin lines rfl]
  simp only
  cases last : (NodeId.range d.next (c.statements lines).length).getLast? with
  | none => simp [grow]
  | some id =>
    have member := NodeId.mem_range.mp (List.mem_of_getLast? last)
    have other : id ≠ origin := by
      rintro rfl
      omega
    simp [grow, other]

/-- An item without statements changes nothing. Any other is entered from all ends. -/
theorem addItem_eq (c : Classifier) (d : Draft) (item : Item) :
    d.addItem c item =
      if item.statements c = [] then d
      else d.grow (item.statements c) (d.links ++ item.inner c d.next) (item.exits c d.next) := by
  cases item with
  | line line =>
    simpa [addItem, Item.statements, Item.inner, Item.branches, Item.exits] using addLine_eq c d line
  | conditional block =>
    rw [if_neg (by simp [Item.statements])]
    unfold addItem
    simp only [add_eq]
    rw [addBranch_eq c _ ⟨d.next⟩ block.whenTrue (by simp [grow])]
    simp only [grow_grow]
    rw [addBranch_eq c _ ⟨d.next⟩ block.whenFalse (by simp [grow])]
    simp only [grow_grow]
    simp [grow, Item.statements, Item.inner, Item.branches, Item.exits, Nat.add_assoc,
      Nat.add_comm]

theorem next_addItem (c : Classifier) (d : Draft) (item : Item) :
    (d.addItem c item).next = d.next + (item.statements c).length := by
  rw [addItem_eq]
  split
  · rename_i silent
    rw [silent, List.length_nil, Nat.add_zero]
  · rfl

theorem nodes_addItem (c : Classifier) (d : Draft) (item : Item) :
    (d.addItem c item).nodes.toList = d.nodes.toList ++ Node.number d.next (item.statements c) := by
  rw [addItem_eq]
  split
  · rename_i silent
    rw [silent, Node.number, List.zipIdx_nil, List.map_nil, List.append_nil]
  · simp [grow]

theorem next_foldl_addItem (c : Classifier) (items : List Item) :
    (items.foldl (addItem c) empty).next = c.count items := by
  induction items using List.reverseRecOn with
  | nil => rfl
  | append_singleton items item ih =>
    rw [List.foldl_append, List.foldl_cons, List.foldl_nil, next_addItem, ih]
    simp [Classifier.count]

theorem foldl_addItem_induction {c : Classifier} {motive : List Item → Draft → Prop}
    (start : motive [] empty)
    (step : ∀ done d item, d.next = c.count done → motive done d →
      motive (done ++ [item]) (d.addItem c item))
    (items : List Item) : motive items (items.foldl (addItem c) empty) := by
  induction items using List.reverseRecOn with
  | nil => exact start
  | append_singleton items item ih =>
    rw [List.foldl_append, List.foldl_cons, List.foldl_nil]
    exact step items _ item (next_foldl_addItem c items) ih

theorem nodes_foldl_addItem (c : Classifier) (items : List Item) :
    (items.foldl (addItem c) empty).nodes.toList =
      Node.number 0 (items.flatMap (Item.statements c)) := by
  refine foldl_addItem_induction (c := c)
    (motive := fun done d => d.nodes.toList = Node.number 0 (done.flatMap (Item.statements c)))
    rfl ?_ items
  intro done d item next nodes
  rw [nodes_addItem, next, nodes]
  simp [Classifier.count, Node.number_append]

end Draft

end Storygraph
