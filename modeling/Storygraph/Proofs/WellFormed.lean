import Mathlib.Data.List.Forall2
import Mathlib.Logic.Relation
import Storygraph.Proofs.Growth
import Storygraph.Compilation

/-!
# Well-formed graphs

In the graph of a section edges lead forward, stand in order, and are few at every node. A draft
keeps `Draft.Sound` from item to item, and `compilation_wellFormed` draws what it says of the
graphs of a document.
-/

namespace Storygraph

/-- The order in which edges stand: by target, then by source. -/
def Edge.Before (e f : Edge) : Prop :=
  e.target.index < f.target.index ∨
    (e.target.index = f.target.index ∧ e.source.index < f.source.index)

def Conditional.fanOut (c : Classifier) (block : Conditional) : Nat :=
  ([block.whenTrue, block.whenFalse].filter fun lines =>
    lines.any fun l => (c.classify l.text).isSome).length

/-- The node is the one that the conditional makes among the nodes of the items. -/
def Opens (c : Classifier) (items : List Item) (block : Conditional) (id : NodeId) : Prop :=
  ∃ before after, items = before ++ .conditional block :: after ∧ id = ⟨c.count before⟩

structure Graph.WellFormed (c : Classifier) (items : List Item) (g : Graph) : Prop where
  dense : ∀ i (h : i < g.nodes.length), g.nodes[i].id = ⟨i⟩
  joined : ∀ e ∈ g.edges, e.source ∈ g.nodes.map Node.id ∧ e.target ∈ g.nodes.map Node.id
  forward : ∀ e ∈ g.edges, e.source.index < e.target.index
  acyclic : ∀ id, ¬Relation.TransGen (fun source target => ⟨source, target⟩ ∈ g.edges) id id
  ordered : g.edges.Pairwise Edge.Before
  nodup : g.edges.Nodup
  entered : ∀ id, (g.predecessors id).length ≤ 2
  opened : ∀ block id, Opens c items block id →
    ⟨id, .condition, block.content⟩ ∈ g.nodes ∧ (g.successors id).length = block.fanOut c
  chained : ∀ id, (∀ block, ¬Opens c items block id) → (g.successors id).length ≤ 1

/-! ### Edges that lead forward -/

theorem lt_of_transGen {edges : List Edge} {x y : NodeId}
    (forward : ∀ e ∈ edges, e.source.index < e.target.index)
    (path : Relation.TransGen (fun source target => ⟨source, target⟩ ∈ edges) x y) :
    x.index < y.index := by
  induction path with
  | single edge => exact forward _ edge
  | tail _ edge ih => exact Nat.lt_trans ih (forward _ edge)

theorem not_before_self (e : Edge) : ¬e.Before e := by
  rintro (lt | ⟨-, lt⟩) <;> exact Nat.lt_irrefl _ lt

theorem nodup_of_ordered {edges : List Edge} (ordered : edges.Pairwise Edge.Before) :
    edges.Nodup := by
  apply ordered.imp
  rintro e f before rfl
  exact not_before_self e before

/-! ### Sources and targets of chains -/

theorem map_target_chain (origin : NodeId) (ids : List NodeId) :
    (Edge.chain origin ids).map Edge.target = ids := by
  induction ids generalizing origin with
  | nil => rfl
  | cons id ids ih => rw [Edge.chain, List.map_cons, ih]

/-- The sources of a chain and its last node are its nodes, with the origin before them. -/
theorem map_source_chain (origin : NodeId) (ids : List NodeId) :
    (Edge.chain origin ids).map Edge.source ++ ids.getLast?.toList =
      if ids = [] then [] else origin :: ids := by
  induction ids generalizing origin with
  | nil => rfl
  | cons id ids ih =>
    rw [Edge.chain, List.map_cons, if_neg (List.cons_ne_nil _ _), List.cons_append]
    cases ids with
    | nil => rfl
    | cons next ids => rw [List.getLast?_cons_cons, ih, if_neg (List.cons_ne_nil _ _)]

theorem forward_chain {origin : NodeId} {ids : List NodeId}
    (increasing : (origin :: ids).Pairwise fun x y => x.index < y.index) :
    ∀ e ∈ Edge.chain origin ids, e.source.index < e.target.index := by
  induction ids generalizing origin with
  | nil => simp [Edge.chain]
  | cons id ids ih =>
    obtain ⟨first, rest⟩ := List.pairwise_cons.mp increasing
    rintro e (_ | ⟨_, member⟩)
    · exact first id List.mem_cons_self
    · exact ih rest e member

namespace NodeId

theorem range_append (first m n : Nat) :
    range first m ++ range (first + m) n = range first (m + n) := by
  simp [range, ← List.map_append, List.range'_append_1]

theorem increasing_range (first count : Nat) :
    (range first count).Pairwise fun x y => x.index < y.index := by
  simpa [range, List.pairwise_map] using List.pairwise_lt_range'

theorem count_range_le (first count : Nat) (id : NodeId) : (range first count).count id ≤ 1 := by
  refine List.nodup_iff_count.mp ?_ id
  apply (increasing_range first count).imp
  rintro x y lt rfl
  exact Nat.lt_irrefl _ lt

theorem count_range_eq_zero {first count : Nat} {id : NodeId} (below : id.index < first) :
    (range first count).count id = 0 := by
  apply List.count_eq_zero.mpr
  intro member
  have := (mem_range.mp member).1
  omega

end NodeId

/-! ### Inside an item -/

theorem flatten_branches (c : Classifier) (first : Nat) (item : Item) :
    (item.branches c first).flatten =
      NodeId.range (first + 1) ((item.statements c).length - 1) := by
  cases item with
  | line line =>
    have short : (c.statements [line]).length ≤ 1 := List.length_filterMap_le _ _
    have none : (c.statements [line]).length - 1 = 0 := by omega
    rw [Item.branches, Item.statements, none]
    rfl
  | conditional block => simp [Item.branches, Item.statements, NodeId.range_append]

theorem map_target_inner (c : Classifier) (first : Nat) (item : Item) :
    (item.inner c first).map Edge.target =
      NodeId.range (first + 1) ((item.statements c).length - 1) := by
  rw [← flatten_branches, Item.inner, List.map_flatMap]
  simp only [map_target_chain]
  exact List.flatMap_id'

theorem forward_inner (c : Classifier) (first : Nat) (item : Item) :
    ∀ e ∈ item.inner c first, e.source.index < e.target.index := by
  intro e member
  obtain ⟨ids, of, member⟩ := List.mem_flatMap.mp member
  refine forward_chain ?_ e member
  cases item with
  | line line => nomatch of
  | conditional block =>
    have increasing : ∀ first' count, first < first' →
        ((⟨first⟩ : NodeId) :: NodeId.range first' count).Pairwise fun x y => x.index < y.index := by
      intro first' count lt
      apply List.pairwise_cons.mpr
      refine ⟨fun id member => ?_, NodeId.increasing_range first' count⟩
      exact Nat.lt_of_lt_of_le lt (NodeId.mem_range.mp member).1
    rcases List.mem_cons.mp of with rfl | of
    · exact increasing _ _ (by omega)
    · rw [List.mem_singleton.mp of]
      exact increasing _ _ (by omega)

theorem target_inner {c : Classifier} {first : Nat} {item : Item} {e : Edge}
    (member : e ∈ item.inner c first) :
    first < e.target.index ∧ e.target.index < first + (item.statements c).length := by
  have target : e.target ∈ (item.inner c first).map Edge.target := List.mem_map_of_mem member
  rw [map_target_inner] at target
  have := NodeId.mem_range.mp target
  omega

theorem ordered_inner (c : Classifier) (first : Nat) (item : Item) :
    (item.inner c first).Pairwise Edge.Before := by
  have targets := NodeId.increasing_range (first + 1) ((item.statements c).length - 1)
  rw [← map_target_inner c, List.pairwise_map] at targets
  exact targets.imp Or.inl

theorem mem_exits {c : Classifier} {first : Nat} {item : Item} {id : NodeId}
    (speaks : item.statements c ≠ []) (member : id ∈ item.exits c first) :
    first ≤ id.index ∧ id.index < first + (item.statements c).length := by
  cases item with
  | line line =>
    rw [List.mem_singleton.mp member]
    have := List.length_pos_iff.mpr speaks
    exact ⟨Nat.le_refl _, by simpa using this⟩
  | conditional block =>
    obtain ⟨ids, of, last⟩ := List.mem_flatMap.mp member
    have inside : id ∈ (Item.branches c first (.conditional block)).flatten :=
      List.mem_flatten.mpr ⟨ids, of, List.mem_of_getLast? (Option.mem_toList.mp last)⟩
    rw [flatten_branches] at inside
    have := NodeId.mem_range.mp inside
    omega

theorem increasing_exits (c : Classifier) (first : Nat) (item : Item) :
    (item.exits c first).Pairwise fun x y => x.index < y.index := by
  cases item with
  | line line => exact List.pairwise_singleton _ _
  | conditional block =>
    simp only [Item.exits, Item.branches, List.flatMap_cons, List.flatMap_nil, List.append_nil]
    refine List.pairwise_append.mpr ⟨?_, ?_, ?_⟩
    · cases (NodeId.range (first + 1) (c.statements block.whenTrue).length).getLast? <;> simp
    · cases (NodeId.range _ (c.statements block.whenFalse).length).getLast? <;> simp
    · intro x inTrue y inFalse
      have left := NodeId.mem_range.mp (List.mem_of_getLast? (Option.mem_toList.mp inTrue))
      have right := NodeId.mem_range.mp (List.mem_of_getLast? (Option.mem_toList.mp inFalse))
      omega

theorem length_exits_le (c : Classifier) (first : Nat) (item : Item) :
    (item.exits c first).length ≤ 2 := by
  cases item with
  | line line => exact Nat.le_succ 1
  | conditional block =>
    simp only [Item.exits, Item.branches, List.flatMap_cons, List.flatMap_nil, List.append_nil]
    cases (NodeId.range (first + 1) (c.statements block.whenTrue).length).getLast? <;>
      cases (NodeId.range (first + 1 + (c.statements block.whenTrue).length)
        (c.statements block.whenFalse).length).getLast? <;> simp

/-! ### How often a node is left -/

/-- How often the first node of an item is left, once the story goes on after the item. -/
def Item.fanOut (c : Classifier) : Item → Nat
  | .line _ => 1
  | .conditional block => block.fanOut c

theorem statements_eq_nil_iff (c : Classifier) (lines : List Line) :
    c.statements lines = [] ↔ (lines.any fun l => (c.classify l.text).isSome) = false := by
  simp [Classifier.statements, List.filterMap_eq_nil_iff]

theorem fanOut_eq (c : Classifier) (block : Conditional) :
    block.fanOut c = (if c.statements block.whenTrue = [] then 0 else 1) +
      if c.statements block.whenFalse = [] then 0 else 1 := by
  simp only [Conditional.fanOut, List.filter_cons, List.filter_nil, statements_eq_nil_iff]
  cases block.whenTrue.any fun l => (c.classify l.text).isSome <;>
    cases block.whenFalse.any fun l => (c.classify l.text).isSome <;> rfl

theorem fanOut_mul (c : Classifier) (block : Conditional) (n : Nat) :
    block.fanOut c * n = (if c.statements block.whenTrue = [] then 0 else n) +
      if c.statements block.whenFalse = [] then 0 else n := by
  rw [fanOut_eq, Nat.add_mul]
  split <;> split <;> simp

/-- In a chain each node is left once, if what follows the chain counts as well. -/
theorem count_chain (origin : NodeId) (ids : List NodeId) (id : NodeId) :
    ((Edge.chain origin ids).map Edge.source).count id + ids.getLast?.toList.count id =
      (if ids = [] then 0 else [origin].count id) + ids.count id := by
  rw [← List.count_append, map_source_chain]
  split
  · rename_i none
    simp [none]
  · rw [← List.singleton_append, List.count_append]

theorem range_eq_nil_iff {α : Type} {first : Nat} {xs : List α} :
    NodeId.range first xs.length = [] ↔ xs = [] := by
  rw [← List.length_eq_zero_iff, NodeId.length_range, List.length_eq_zero_iff]

theorem count_inner (c : Classifier) (first : Nat) (item : Item) (id : NodeId) :
    ((item.inner c first).map Edge.source).count id + (item.exits c first).count id =
      item.fanOut c * [(⟨first⟩ : NodeId)].count id +
        (NodeId.range (first + 1) ((item.statements c).length - 1)).count id := by
  rw [← flatten_branches]
  cases item with
  | line line => simp [Item.inner, Item.branches, Item.exits, Item.fanOut]
  | conditional block =>
    have inTrue := count_chain ⟨first⟩
      (NodeId.range (first + 1) (c.statements block.whenTrue).length) id
    have inFalse := count_chain ⟨first⟩
      (NodeId.range (first + 1 + (c.statements block.whenTrue).length)
        (c.statements block.whenFalse).length) id
    simp only [range_eq_nil_iff] at inTrue inFalse
    simp only [Item.inner, Item.branches, Item.exits, Item.fanOut, fanOut_mul, List.flatMap_cons,
      List.flatMap_nil, List.append_nil, List.map_append, List.count_append, List.flatten_cons,
      List.flatten_nil]
    omega

/-! ### Drafts -/

/-- What holds of the draft of some items. The ends count as left, since the next node is linked
from them. -/
structure Draft.Sound (c : Classifier) (items : List Item) (d : Draft) : Prop where
  forward : ∀ e ∈ d.edges.toList, e.source.index < e.target.index
  below : ∀ e ∈ d.edges.toList, e.target.index < d.next
  ordered : d.edges.toList.Pairwise Edge.Before
  increasing : d.ends.Pairwise fun x y => x.index < y.index
  endsBelow : ∀ id ∈ d.ends, id.index < d.next
  few : d.ends.length ≤ 2
  entered : ∀ id, (d.edges.toList.map Edge.target).count id ≤ 2
  opened : ∀ block id, Opens c items block id →
    (d.edges.toList.map Edge.source).count id = block.fanOut c ∧ id ∉ d.ends
  chained : ∀ id, (∀ block, ¬Opens c items block id) →
    (d.edges.toList.map Edge.source).count id + d.ends.count id ≤ 1

theorem sound_empty (c : Classifier) : Draft.empty.Sound c [] where
  forward := by simp [Draft.empty]
  below := by simp [Draft.empty]
  ordered := by simp [Draft.empty]
  increasing := by simp [Draft.empty]
  endsBelow := by simp [Draft.empty]
  few := by simp [Draft.empty]
  entered := by simp [Draft.empty]
  opened := by simp [Opens]
  chained := by simp [Draft.empty]

theorem opens_concat {c : Classifier} {done : List Item} {item : Item} {block : Conditional}
    {id : NodeId} : Opens c (done ++ [item]) block id ↔
      Opens c done block id ∨ (item = .conditional block ∧ id = ⟨c.count done⟩) := by
  constructor
  · rintro ⟨before, after, split, rfl⟩
    rcases concat_eq_append_cons split with ⟨rfl, same, -⟩ | ⟨rest, -, rfl⟩
    · exact Or.inr ⟨same.symm, rfl⟩
    · exact Or.inl ⟨before, rest, rfl, rfl⟩
  · rintro (⟨before, after, rfl, rfl⟩ | ⟨rfl, rfl⟩)
    · exact ⟨before, after ++ [item], by simp, rfl⟩
    · exact ⟨done, [], rfl, rfl⟩

theorem index_lt_of_opens {c : Classifier} {items : List Item} {block : Conditional} {id : NodeId}
    (opens : Opens c items block id) : id.index < c.count items := by
  obtain ⟨before, after, rfl, rfl⟩ := opens
  simp [Classifier.count, Item.statements]

namespace Draft.Sound

variable {c : Classifier} {done : List Item} {d : Draft}

theorem count_of_le (sound : d.Sound c done) {id : NodeId} (above : d.next ≤ id.index) :
    (d.edges.toList.map Edge.source).count id = 0 ∧ d.ends.count id = 0 := by
  constructor
  · apply List.count_eq_zero.mpr
    intro member
    obtain ⟨e, present, rfl⟩ := List.mem_map.mp member
    have := sound.forward e present
    have := sound.below e present
    omega
  · apply List.count_eq_zero.mpr
    intro member
    have := sound.endsBelow id member
    omega

theorem ordered_append (sound : d.Sound c done) (item : Item) :
    (d.edges.toList ++ (d.links ++ item.inner c d.next)).Pairwise Edge.Before := by
  have links : d.links.Pairwise Edge.Before := by
    rw [Draft.links, List.pairwise_map]
    exact sound.increasing.imp fun lt => Or.inr ⟨rfl, lt⟩
  refine List.pairwise_append.mpr ⟨sound.ordered,
    List.pairwise_append.mpr ⟨links, ordered_inner c d.next item, ?_⟩, ?_⟩
  · intro e link f inner
    obtain ⟨source, -, rfl⟩ := List.mem_map.mp link
    exact Or.inl (target_inner inner).1
  · intro e old f new
    have before := sound.below e old
    rcases List.mem_append.mp new with link | inner
    · obtain ⟨source, -, rfl⟩ := List.mem_map.mp link
      exact Or.inl before
    · exact Or.inl (Nat.lt_trans before (target_inner inner).1)

theorem entered_append (sound : d.Sound c done) (item : Item) (id : NodeId) :
    ((d.edges.toList ++ (d.links ++ item.inner c d.next)).map Edge.target).count id ≤ 2 := by
  have links : d.links.map Edge.target = List.replicate d.ends.length ⟨d.next⟩ := by
    simp [Draft.links, Function.comp_def, List.map_const']
  rw [List.map_append, List.map_append, links, map_target_inner, List.count_append,
    List.count_append, List.count_replicate]
  have few := sound.few
  have inner := NodeId.count_range_le (d.next + 1) ((item.statements c).length - 1) id
  by_cases old : id.index < d.next
  · have other : (⟨d.next⟩ : NodeId) ≠ id := by
      rintro rfl
      exact Nat.lt_irrefl _ old
    rw [NodeId.count_range_eq_zero (by omega)]
    simpa [other] using sound.entered id
  · have unused : (d.edges.toList.map Edge.target).count id = 0 := by
      apply List.count_eq_zero.mpr
      intro member
      obtain ⟨e, present, rfl⟩ := List.mem_map.mp member
      exact old (sound.below e present)
    by_cases here : id = ⟨d.next⟩
    · rw [here, NodeId.count_range_eq_zero (Nat.lt_succ_self _), ← here, unused]
      split <;> omega
    · have other : ((⟨d.next⟩ : NodeId) == id) = false := by simpa using Ne.symm here
      rw [unused, other]
      simp only [Bool.false_eq_true, if_false]
      omega

/-- What an item adds to how often a node is left. -/
theorem count_append_inner (item : Item) (id : NodeId) :
    ((d.edges.toList ++ (d.links ++ item.inner c d.next)).map Edge.source).count id +
        (item.exits c d.next).count id =
      (d.edges.toList.map Edge.source).count id + d.ends.count id +
        (item.fanOut c * [(⟨d.next⟩ : NodeId)].count id +
          (NodeId.range (d.next + 1) ((item.statements c).length - 1)).count id) := by
  have links : d.links.map Edge.source = d.ends := by
    simp [Draft.links, Function.comp_def]
  have inner := count_inner c d.next item id
  rw [List.map_append, List.map_append, links, List.count_append, List.count_append]
  omega

theorem chained_append (sound : d.Sound c done) (next : d.next = c.count done) (item : Item)
    (id : NodeId) (free : ∀ block, ¬Opens c (done ++ [item]) block id) :
    ((d.edges.toList ++ (d.links ++ item.inner c d.next)).map Edge.source).count id +
      (item.exits c d.next).count id ≤ 1 := by
  rw [count_append_inner]
  have inner := NodeId.count_range_le (d.next + 1) ((item.statements c).length - 1) id
  by_cases here : id = ⟨d.next⟩
  · -- The item is no conditional, since a conditional would open at its first node.
    have single : item.fanOut c = 1 := by
      cases item with
      | line line => rfl
      | conditional block =>
        exact absurd (opens_concat.mpr (Or.inr ⟨rfl, by rw [here, next]⟩)) (free block)
    have above : d.next ≤ id.index := here ▸ Nat.le_refl _
    have unused := sound.count_of_le above
    rw [single, unused.1, unused.2, here, NodeId.count_range_eq_zero (Nat.lt_succ_self _)]
    simp
  · have other : [(⟨d.next⟩ : NodeId)].count id = 0 := by
      apply List.count_eq_zero.mpr
      exact fun member => here (List.mem_singleton.mp member)
    rw [other]
    by_cases old : id.index < d.next
    · have before := sound.chained id fun block opens => free block (opens_concat.mpr (Or.inl opens))
      rw [NodeId.count_range_eq_zero (by omega)]
      omega
    · have unused := sound.count_of_le (Nat.le_of_not_lt old)
      omega

theorem opened_append (sound : d.Sound c done) (next : d.next = c.count done) (item : Item)
    (speaks : item.statements c ≠ []) (block : Conditional) (id : NodeId)
    (opens : Opens c (done ++ [item]) block id) :
    ((d.edges.toList ++ (d.links ++ item.inner c d.next)).map Edge.source).count id =
      block.fanOut c ∧ id ∉ item.exits c d.next := by
  have added := count_append_inner (d := d) (c := c) item id
  rcases opens_concat.mp opens with old | ⟨rfl, rfl⟩
  · have below := index_lt_of_opens old
    rw [← next] at below
    obtain ⟨left, loose⟩ := sound.opened block id old
    have outside : id ∉ item.exits c d.next := by
      intro member
      have := (mem_exits speaks member).1
      omega
    have other : [(⟨d.next⟩ : NodeId)].count id = 0 := by
      apply List.count_eq_zero.mpr
      intro member
      rw [List.mem_singleton.mp member] at below
      exact Nat.lt_irrefl _ below
    rw [List.count_eq_zero.mpr outside, List.count_eq_zero.mpr loose, left, other,
      NodeId.count_range_eq_zero (by omega)] at added
    exact ⟨by omega, outside⟩
  · have outside : (⟨c.count done⟩ : NodeId) ∉ (Item.conditional block).exits c d.next := by
      intro member
      obtain ⟨ids, of, last⟩ := List.mem_flatMap.mp member
      have inside : (⟨c.count done⟩ : NodeId) ∈
          (Item.branches c d.next (.conditional block)).flatten :=
        List.mem_flatten.mpr ⟨ids, of, List.mem_of_getLast? (Option.mem_toList.mp last)⟩
      rw [flatten_branches, next] at inside
      have := (NodeId.mem_range.mp inside).1
      exact Nat.lt_irrefl _ this
    have above : d.next ≤ (⟨c.count done⟩ : NodeId).index := Nat.le_of_eq next
    have unused := sound.count_of_le above
    rw [List.count_eq_zero.mpr outside, unused.1, unused.2,
      NodeId.count_range_eq_zero (by rw [next]; exact Nat.lt_succ_self _), next] at added
    rw [next] at *
    exact ⟨by simpa [Item.fanOut] using added, outside⟩

end Draft.Sound

theorem sound_addItem {c : Classifier} {done : List Item} {d : Draft} (item : Item)
    (sound : d.Sound c done) (next : d.next = c.count done) :
    (d.addItem c item).Sound c (done ++ [item]) := by
  rw [Draft.addItem_eq]
  split
  · rename_i silence
    -- A conditional is never silent, so no node opens one.
    have same : ∀ block id, Opens c (done ++ [item]) block id ↔ Opens c done block id := by
      intro block id
      rw [opens_concat]
      constructor
      · rintro (opens | ⟨rfl, -⟩)
        · exact opens
        · simp [Item.statements] at silence
      · exact Or.inl
    exact { sound with
      opened := fun block id opens => sound.opened block id ((same block id).mp opens)
      chained := fun id free => sound.chained id fun block opens =>
        free block ((same block id).mpr opens) }
  · rename_i speaks
    have size := List.length_pos_iff.mpr speaks
    constructor
    case forward =>
      intro e member
      simp only [Draft.grow, Array.toList_appendList, List.mem_append] at member
      rcases member with old | link | inner
      · exact sound.forward e old
      · obtain ⟨source, loose, rfl⟩ := List.mem_map.mp link
        exact sound.endsBelow source loose
      · exact forward_inner c d.next item e inner
    case below =>
      intro e member
      simp only [Draft.grow, Array.toList_appendList, List.mem_append] at member ⊢
      rcases member with old | link | inner
      · exact Nat.lt_of_lt_of_le (sound.below e old) (Nat.le_add_right _ _)
      · obtain ⟨source, -, rfl⟩ := List.mem_map.mp link
        exact Nat.lt_add_of_pos_right size
      · exact (target_inner inner).2
    case ordered => simpa [Draft.grow] using sound.ordered_append item
    case increasing => exact increasing_exits c d.next item
    case endsBelow => exact fun id member => (mem_exits speaks member).2
    case few => exact length_exits_le c d.next item
    case entered => simpa [Draft.grow] using sound.entered_append item
    case opened => simpa [Draft.grow] using sound.opened_append next item speaks
    case chained => simpa [Draft.grow] using sound.chained_append next item

theorem sound_foldl_addItem (c : Classifier) (items : List Item) :
    (items.foldl (Draft.addItem c) .empty).Sound c items := by
  apply Draft.foldl_addItem_induction (sound_empty c)
  intro done d item next sound
  exact sound_addItem item sound next

/-! ### Graphs -/

theorem length_successors (g : Graph) (id : NodeId) :
    (g.successors id).length = (g.edges.map Edge.source).count id := by
  rw [Graph.successors, List.length_map, ← List.countP_eq_length_filter, List.count,
    List.countP_map]
  rfl

theorem length_predecessors (g : Graph) (id : NodeId) :
    (g.predecessors id).length = (g.edges.map Edge.target).count id := by
  rw [Graph.predecessors, List.length_map, ← List.countP_eq_length_filter, List.count,
    List.countP_map]
  rfl

theorem map_id_number (first : Nat) (statements : List (Kind × Text)) :
    (Node.number first statements).map Node.id = NodeId.range first statements.length := by
  induction statements generalizing first with
  | nil => rfl
  | cons statement statements ih =>
    rw [List.length_cons, NodeId.range_succ, ← ih]
    rfl

/-- A conditional among some items makes the node that it opens with. -/
theorem mem_number_of_opens {c : Classifier} {items : List Item} {block : Conditional} {id : NodeId}
    (opens : Opens c items block id) :
    ⟨id, .condition, block.content⟩ ∈ Node.number 0 (items.flatMap (Item.statements c)) := by
  obtain ⟨before, after, rfl, rfl⟩ := opens
  rw [List.flatMap_append, Node.number_append]
  apply List.mem_append_right
  simp [Node.number, Item.statements, Classifier.count]

theorem wellFormed_graph (c : Classifier) (s : Section) :
    (s.graph c).WellFormed c (items s.lines) := by
  have sound := sound_foldl_addItem c (items s.lines)
  have nodes := Draft.nodes_foldl_addItem c (items s.lines)
  have ids : (s.graph c).nodes.map Node.id = NodeId.range 0 (c.count (items s.lines)) := by
    rw [Section.graph, nodes, map_id_number]
    rfl
  constructor
  case dense =>
    intro i h
    have here : ((s.graph c).nodes.map Node.id)[i]? = some (s.graph c).nodes[i].id := by
      simp [List.getElem?_eq_getElem h]
    have bound := congrArg List.length ids
    rw [List.length_map, NodeId.length_range] at bound
    rw [ids, NodeId.range, List.getElem?_map, List.getElem?_range' (by omega)] at here
    simpa using (Option.some.inj here).symm
  case joined =>
    intro e member
    have forward := sound.forward e member
    have below := sound.below e member
    rw [Draft.next_foldl_addItem] at below
    rw [ids, NodeId.mem_range, NodeId.mem_range]
    omega
  case forward => exact sound.forward
  case acyclic => exact fun id path => Nat.lt_irrefl _ (lt_of_transGen sound.forward path)
  case ordered => exact sound.ordered
  case nodup => exact nodup_of_ordered sound.ordered
  case entered =>
    intro id
    rw [length_predecessors]
    exact sound.entered id
  case opened =>
    intro block id opens
    rw [length_successors, Section.graph, nodes]
    exact ⟨mem_number_of_opens opens, (sound.opened block id opens).1⟩
  case chained =>
    intro id free
    rw [length_successors]
    exact Nat.le_trans (Nat.le_add_right _ _) (sound.chained id free)

/-- The graphs of a document are well formed, each for the items of its section. -/
theorem compilation_wellFormed (c : Classifier) (document : Text) :
    List.Forall₂ (fun s g => g.WellFormed c (items s.lines)) (Section.split document)
      (Compilation.ofDocument c document).sections := by
  rw [Compilation.ofDocument, List.forall₂_map_right_iff, List.forall₂_same]
  exact fun s _ => wellFormed_graph c s

end Storygraph
