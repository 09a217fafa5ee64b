import Storygraph.Proofs.Growth

/-!
# The flow of a story

`Flow` says between which statements of some items the story goes on, without building a graph:
inside a conditional, and from one item to the next that makes a node. `graph_eq_flow` shows that
the graph of a section has the statements as its nodes and the flow as its edges.
-/

namespace Storygraph

/-- The story goes on inside an item, whose first node has the given index: from the node of a
conditional to the first of a branch, and along a branch. -/
inductive Item.Within (c : Classifier) (first : Nat) (item : Item) : NodeId → NodeId → Prop where
  | enter {branch : List NodeId} {target : NodeId} (of : branch ∈ item.branches c first)
      (head : branch.head? = some target) : Within c first item ⟨first⟩ target
  | next {branch : List NodeId} {source target : NodeId} (of : branch ∈ item.branches c first)
      (adjacent : [source, target] <:+: branch) : Within c first item source target

/-- The story goes on from one statement of some items to another: inside an item, or from an exit
of an item to the first node of the next item that makes one. -/
inductive Flow (c : Classifier) (items : List Item) : NodeId → NodeId → Prop where
  | within {before after : List Item} {item : Item} {source target : NodeId}
      (split : items = before ++ item :: after)
      (inside : item.Within c (c.count before) source target) : Flow c items source target
  | across {before silent after : List Item} {earlier later : Item} {source : NodeId}
      (split : items = before ++ earlier :: (silent ++ later :: after))
      (left : earlier.statements c ≠ []) (silence : ∀ item ∈ silent, item.statements c = [])
      (entered : later.statements c ≠ []) (exit : source ∈ earlier.exits c (c.count before)) :
      Flow c items source ⟨c.count (before ++ earlier :: silent)⟩

/-- A node from which the story leaves some items: an exit of the last that makes a node. -/
def Loose (c : Classifier) (items : List Item) (id : NodeId) : Prop :=
  ∃ before last silent, items = before ++ last :: silent ∧ last.statements c ≠ [] ∧
    (∀ item ∈ silent, item.statements c = []) ∧ id ∈ last.exits c (c.count before)

/-! ### Items with one more -/

theorem loose_concat_silent {c : Classifier} {done : List Item} {item : Item} {id : NodeId}
    (silence : item.statements c = []) : Loose c (done ++ [item]) id ↔ Loose c done id := by
  constructor
  · rintro ⟨before, last, silent, split, speaks, silences, exit⟩
    rcases concat_eq_append_cons split with ⟨rfl, rfl, rfl⟩ | ⟨rest, rfl, rfl⟩
    · exact absurd silence speaks
    · exact ⟨before, last, rest, rfl, speaks,
        fun other member => silences other (List.mem_append_left _ member), exit⟩
  · rintro ⟨before, last, silent, rfl, speaks, silences, exit⟩
    refine ⟨before, last, silent ++ [item], by simp, speaks, ?_, exit⟩
    intro other member
    rcases List.mem_append.mp member with old | new
    · exact silences other old
    · rw [List.mem_singleton.mp new]
      exact silence

theorem loose_concat {c : Classifier} {done : List Item} {item : Item} {id : NodeId}
    (speaks : item.statements c ≠ []) :
    Loose c (done ++ [item]) id ↔ id ∈ item.exits c (c.count done) := by
  constructor
  · rintro ⟨before, last, silent, split, -, silences, exit⟩
    rcases concat_eq_append_cons split with ⟨rfl, rfl, rfl⟩ | ⟨rest, rfl, rfl⟩
    · exact exit
    · exact absurd (silences item (by simp)) speaks
  · intro exit
    exact ⟨done, item, [], rfl, speaks, by simp, exit⟩

/-- One more item adds the flow inside it and the flow into it. -/
theorem flow_concat {c : Classifier} {done : List Item} {item : Item} {source target : NodeId} :
    Flow c (done ++ [item]) source target ↔
      Flow c done source target ∨ item.Within c (c.count done) source target ∨
        (Loose c done source ∧ item.statements c ≠ [] ∧ target = ⟨c.count done⟩) := by
  constructor
  · intro flow
    cases flow with
    | within split inside =>
      rcases concat_eq_append_cons split with ⟨rfl, rfl, rfl⟩ | ⟨rest, rfl, rfl⟩
      · exact Or.inr (Or.inl inside)
      · exact Or.inl (.within rfl inside)
    | @across before silent after earlier later _ split left silence entered exit =>
      have whole : done ++ [item] = (before ++ earlier :: silent) ++ later :: after := by
        simpa using split
      rcases concat_eq_append_cons whole with ⟨rfl, rfl, rfl⟩ | ⟨rest, rfl, rfl⟩
      · exact Or.inr (Or.inr ⟨⟨before, earlier, silent, rfl, left, silence, exit⟩, entered, rfl⟩)
      · have shorter : before ++ earlier :: silent ++ later :: rest =
            before ++ earlier :: (silent ++ later :: rest) := by simp
        exact Or.inl (.across shorter left silence entered exit)
  · rintro (flow | inside | ⟨⟨before, earlier, silent, rfl, left, silence, exit⟩, entered, rfl⟩)
    · cases flow with
      | @within before after other _ _ split inside =>
        have longer : done ++ [item] = before ++ other :: (after ++ [item]) := by simp [split]
        exact .within longer inside
      | @across before silent after earlier later _ split left silence entered exit =>
        have longer : done ++ [item] =
            before ++ earlier :: (silent ++ later :: (after ++ [item])) := by simp [split]
        exact .across longer left silence entered exit
    · exact .within rfl inside
    · have last : before ++ earlier :: silent ++ [item] =
          before ++ earlier :: (silent ++ item :: []) := by simp
      exact .across last left silence entered exit

theorem not_flow_nil {c : Classifier} {source target : NodeId} : ¬Flow c [] source target := by
  intro flow
  cases flow with
  | within split _ => simp at split
  | across split _ _ _ _ => simp at split

/-! ### Chains as flow -/

theorem pair_infix_cons {first source target : NodeId} {ids : List NodeId} :
    [source, target] <:+: first :: ids ↔
      (source = first ∧ ids.head? = some target) ∨ [source, target] <:+: ids := by
  rw [List.infix_cons_iff]
  cases ids with
  | nil => simp
  | cons id ids => simp [eq_comm]

theorem mem_chain {origin : NodeId} {ids : List NodeId} {source target : NodeId} :
    ⟨source, target⟩ ∈ Edge.chain origin ids ↔ [source, target] <:+: origin :: ids := by
  induction ids generalizing origin with
  | nil => simp [Edge.chain, pair_infix_cons]
  | cons id ids ih =>
    have step : [source, target] <:+: origin :: id :: ids ↔
        (source = origin ∧ some id = some target) ∨ [source, target] <:+: id :: ids :=
      pair_infix_cons
    rw [Edge.chain, List.mem_cons, ih, step]
    simp [eq_comm]

theorem within_iff {c : Classifier} {first : Nat} {item : Item} {source target : NodeId} :
    item.Within c first source target ↔ ⟨source, target⟩ ∈ item.inner c first := by
  simp only [Item.inner, List.mem_flatMap, mem_chain, pair_infix_cons]
  constructor
  · intro inside
    cases inside with
    | enter of head => exact ⟨_, of, Or.inl ⟨rfl, head⟩⟩
    | next of adjacent => exact ⟨_, of, Or.inr adjacent⟩
  · rintro ⟨branch, of, ⟨rfl, head⟩ | adjacent⟩
    · exact .enter of head
    · exact .next of adjacent

/-! ### The graph of a section -/

structure Draft.Follows (c : Classifier) (items : List Item) (d : Draft) : Prop where
  ends : ∀ id, id ∈ d.ends ↔ Loose c items id
  edges : ∀ source target, ⟨source, target⟩ ∈ d.edges.toList ↔ Flow c items source target

theorem follows_empty (c : Classifier) : Draft.empty.Follows c [] where
  ends := by simp [Draft.empty, Loose]
  edges := by simp [Draft.empty, not_flow_nil]

theorem follows_addItem {c : Classifier} {done : List Item} {d : Draft} (item : Item)
    (follows : d.Follows c done) (next : d.next = c.count done) :
    (d.addItem c item).Follows c (done ++ [item]) := by
  rw [Draft.addItem_eq]
  split
  · rename_i silence
    constructor
    · intro id
      rw [loose_concat_silent silence]
      exact follows.ends id
    · intro source target
      have still : ¬item.Within c (c.count done) source target := by
        cases item with
        | line line => simp [within_iff, Item.inner, Item.branches]
        | conditional block => simp [Item.statements] at silence
      simp [flow_concat, silence, still, follows.edges]
  · rename_i speaks
    constructor
    · intro id
      rw [loose_concat speaks, ← next]
      rfl
    · intro source target
      rw [flow_concat, within_iff, ← follows.ends, ← follows.edges, ← next]
      simp only [Draft.grow, Draft.links, Array.toList_appendList, List.mem_append, List.mem_map,
        Edge.mk.injEq, speaks, ne_eq, not_false_eq_true, true_and]
      constructor
      · rintro (old | ⟨id, loose, rfl, rfl⟩ | inside)
        · exact Or.inl old
        · exact Or.inr (Or.inr ⟨loose, rfl⟩)
        · exact Or.inr (Or.inl inside)
      · rintro (old | inside | ⟨loose, rfl⟩)
        · exact Or.inl old
        · exact Or.inr (Or.inr inside)
        · exact Or.inr (Or.inl ⟨source, loose, rfl, rfl⟩)

theorem follows_foldl_addItem (c : Classifier) (items : List Item) :
    (items.foldl (Draft.addItem c) .empty).Follows c items := by
  apply Draft.foldl_addItem_induction (follows_empty c)
  intro done d item next follows
  exact follows_addItem item follows next

/-- The graph of a section has the statements of its items as nodes and their flow as edges. -/
theorem graph_eq_flow (c : Classifier) (s : Section) :
    (s.graph c).nodes = Node.number 0 ((items s.lines).flatMap (Item.statements c)) ∧
      ∀ source target, ⟨source, target⟩ ∈ (s.graph c).edges ↔ Flow c (items s.lines) source target :=
  ⟨Draft.nodes_foldl_addItem c (items s.lines), (follows_foldl_addItem c (items s.lines)).edges⟩

end Storygraph
