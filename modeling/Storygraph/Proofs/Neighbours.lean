import Storygraph.Codec.Decode
import Storygraph.Proofs.WellFormed

/-!
# Neighbours

A graph can be asked which nodes come after a node and which come before it. Whatever its edges are,
both answers name an edge as often as the graph holds it (`count_successors`, `count_predecessors`).
If the graph is forward-only, no steps from nodes to those after them lead back to where they began
(`neighbours_exact`). The graphs of sections are forward-only, others need not be.
-/

namespace Storygraph

namespace Graph

/-! ### The two ends of an edge -/

/-- Among the edges with the node `x` at their near end, the node `y` is as often at the far end as
the edge between them is held. -/
theorem count_far_end {edges : List Edge} {near far : Edge → NodeId} {x y : NodeId} {edge : Edge}
    (between : ∀ e, e = edge ↔ far e = y ∧ near e = x) :
    ((edges.filter (near · = x)).map far).count y = edges.count edge := by
  rw [List.count_eq_countP, List.countP_map, List.countP_filter, List.count_eq_countP]
  apply List.countP_congr
  intro e _
  simp only [Function.comp_apply, Bool.and_eq_true, beq_iff_eq, decide_eq_true_eq]
  exact (between e).symm

theorem count_successors (g : Graph) (a b : NodeId) :
    (g.successors a).count b = g.edges.count ⟨a, b⟩ := by
  apply count_far_end
  rintro ⟨source, target⟩
  rw [Edge.mk.injEq, and_comm]

theorem count_predecessors (g : Graph) (a b : NodeId) :
    (g.predecessors b).count a = g.edges.count ⟨a, b⟩ := by
  apply count_far_end
  rintro ⟨source, target⟩
  rw [Edge.mk.injEq]

variable {g : Graph} {a b : NodeId}

theorem mem_successors_iff : b ∈ g.successors a ↔ ⟨a, b⟩ ∈ g.edges := by
  rw [← List.count_pos_iff, count_successors, List.count_pos_iff]

/-! ### Steps that lead forward -/

theorem isForwardOnly_iff :
    g.isForwardOnly = true ↔ ∀ e ∈ g.edges, e.source.index < e.target.index := by
  simp only [isForwardOnly, List.all_eq_true, decide_eq_true_eq]

theorem isForwardOnly_graph (c : Classifier) (s : Section) : (s.graph c).isForwardOnly = true :=
  isForwardOnly_iff.mpr (wellFormed_graph c s).forward

theorem lt_of_steps (forward : g.isForwardOnly = true)
    (steps : Relation.TransGen (fun x y => y ∈ g.successors x) a b) : a.index < b.index := by
  have path : Relation.TransGen (fun x y => ⟨x, y⟩ ∈ g.edges) a b :=
    Relation.TransGen.mono (fun _ _ step => mem_successors_iff.mp step) a b steps
  exact lt_of_transGen (isForwardOnly_iff.mp forward) path

/-- In every graph, one node comes after another as often as the other comes before it, which is as
often as the graph holds the edge between them. In a graph that is forward-only, no steps lead from
a node back to it. -/
theorem neighbours_exact (g : Graph) :
    (∀ a b, (g.successors a).count b = g.edges.count ⟨a, b⟩ ∧
      (g.predecessors b).count a = g.edges.count ⟨a, b⟩) ∧
    (g.isForwardOnly = true →
      ∀ id, ¬Relation.TransGen (fun a b => b ∈ g.successors a) id id) := by
  constructor
  · exact fun a b => ⟨count_successors g a b, count_predecessors g a b⟩
  · intro forward id steps
    exact Nat.lt_irrefl _ (lt_of_steps forward steps)

/-- A file may hold edges between nodes that it does not hold, and hold them twice. -/
theorem neighbours_exact_loose :
    let edge (source target : String) := "\x7b\"from_id\":\"" ++ source ++ "\",\"to_id\":\"" ++
      target ++ "\"\x7d"
    let text := "\x7b\"name\":\"\",\"nodes\":[],\"edges\":[" ++ edge "n_0" "n_2" ++ "," ++
      edge "n_2" "n_7" ++ "," ++ edge "n_0" "n_2" ++ "]\x7d"
    ∃ g, Graph.ofText text.toList = .ok g ∧ g.isForwardOnly = true ∧
      (g.successors ⟨0⟩).count ⟨2⟩ = 2 ∧ (g.predecessors ⟨2⟩).count ⟨0⟩ = 2 ∧
      ∀ id, ¬Relation.TransGen (fun a b => b ∈ g.successors a) id id := by
  let g : Graph := ⟨[], [], [⟨⟨0⟩, ⟨2⟩⟩, ⟨⟨2⟩, ⟨7⟩⟩, ⟨⟨0⟩, ⟨2⟩⟩]⟩
  have forward : g.isForwardOnly = true := by decide
  have twice : g.edges.count ⟨⟨0⟩, ⟨2⟩⟩ = 2 := by decide
  obtain ⟨counts, returns⟩ := neighbours_exact g
  obtain ⟨after, before⟩ := counts ⟨0⟩ ⟨2⟩
  refine ⟨g, ?_, forward, after.trans twice, before.trans twice, returns forward⟩
  decide +kernel

end Graph

end Storygraph
