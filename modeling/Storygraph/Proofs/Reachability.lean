import Storygraph.Proofs.WellFormed

/-!
# Reachable statements

A conditional whose branches both add no node is a dead end: no edge leads over it. `reaches_iff`
says that nothing else keeps a statement from being reached from the first one.
-/

namespace Storygraph

def Edge.Path (edges : List Edge) : NodeId → NodeId → Prop :=
  Relation.ReflTransGen fun source target => ⟨source, target⟩ ∈ edges

def Graph.Reaches (g : Graph) (source target : NodeId) : Prop := Edge.Path g.edges source target

def Conditional.DeadEnd (c : Classifier) (block : Conditional) : Prop :=
  ∀ l ∈ block.whenTrue ++ block.whenFalse, c.classify l.text = none

/-- Among some items, a dead end opens before the node with an index. -/
def CutOff (c : Classifier) (items : List Item) (k : Nat) : Prop :=
  ∃ block id, Opens c items block id ∧ block.DeadEnd c ∧ id.index < k

/-! ### Dead ends -/

theorem deadEnd_iff {c : Classifier} {block : Conditional} :
    block.DeadEnd c ↔ c.statements block.whenTrue = [] ∧ c.statements block.whenFalse = [] := by
  simp only [Conditional.DeadEnd, statements_eq_nil_iff, List.any_eq_false, List.mem_append, or_imp,
    forall_and, Option.not_isSome_iff_eq_none]

theorem DeadEnd.inner_eq_nil {c : Classifier} {block : Conditional} (dead : block.DeadEnd c)
    (first : Nat) :
    Item.inner c first (.conditional block) = [] ∧
      Item.exits c first (.conditional block) = [] := by
  obtain ⟨inTrue, inFalse⟩ := deadEnd_iff.mp dead
  simp [Item.inner, Item.exits, Item.branches, inTrue, inFalse, NodeId.range_zero, Edge.chain]

theorem exits_ne_nil {c : Classifier} {block : Conditional} (alive : ¬block.DeadEnd c)
    (first : Nat) : Item.exits c first (.conditional block) ≠ [] := by
  intro none
  apply alive
  rw [deadEnd_iff]
  simp only [Item.exits, Item.branches, List.flatMap_cons, List.flatMap_nil, List.append_nil,
    List.append_eq_nil_iff, Option.toList_eq_nil_iff, List.getLast?_eq_none_iff,
    range_eq_nil_iff] at none
  simpa using none

theorem cutOff_concat {c : Classifier} {done : List Item} {item : Item} {k : Nat} :
    CutOff c (done ++ [item]) k ↔ CutOff c done k ∨
      ∃ block, item = .conditional block ∧ block.DeadEnd c ∧ c.count done < k := by
  constructor
  · rintro ⟨block, id, opens, dead, before⟩
    rcases opens_concat.mp opens with old | ⟨same, rfl⟩
    · exact Or.inl ⟨block, id, old, dead, before⟩
    · exact Or.inr ⟨block, same, dead, before⟩
  · rintro (⟨block, id, old, dead, before⟩ | ⟨block, same, dead, before⟩)
    · exact ⟨block, id, opens_concat.mpr (Or.inl old), dead, before⟩
    · exact ⟨block, _, opens_concat.mpr (Or.inr ⟨same, rfl⟩), dead, before⟩

theorem CutOff.mono {c : Classifier} {items : List Item} {j k : Nat} (cut : CutOff c items j)
    (le : j ≤ k) : CutOff c items k := by
  obtain ⟨block, id, opens, dead, before⟩ := cut
  exact ⟨block, id, opens, dead, Nat.lt_of_lt_of_le before le⟩

/-! ### Paths -/

theorem Edge.Path.mono {edges more : List Edge} {x y : NodeId} (path : Path edges x y)
    (included : ∀ e ∈ edges, e ∈ more) : Path more x y :=
  Relation.ReflTransGen.mono (fun _ _ edge => included _ edge) x y path

theorem path_chain {origin id : NodeId} {ids : List NodeId} (member : id ∈ ids) :
    Edge.Path (Edge.chain origin ids) origin id := by
  induction ids generalizing origin with
  | nil => nomatch member
  | cons next ids ih =>
    have first : (⟨origin, next⟩ : Edge) ∈ Edge.chain origin (next :: ids) := List.mem_cons_self
    rcases List.mem_cons.mp member with rfl | later
    · exact .single first
    · exact .head first ((ih later).mono fun _ edge => List.mem_cons_of_mem _ edge)

theorem source_inner {c : Classifier} {first : Nat} {item : Item} {e : Edge}
    (member : e ∈ item.inner c first) : first ≤ e.source.index := by
  obtain ⟨ids, of, inside⟩ := List.mem_flatMap.mp member
  have source : e.source ∈ (Edge.chain ⟨first⟩ ids).map Edge.source ++ ids.getLast?.toList :=
    List.mem_append_left _ (List.mem_map_of_mem inside)
  rw [map_source_chain] at source
  split at source
  · nomatch source
  · rcases List.mem_cons.mp source with same | later
    · exact Nat.le_of_eq (congrArg NodeId.index same).symm
    · have inBranch : e.source ∈ (item.branches c first).flatten :=
        List.mem_flatten.mpr ⟨ids, of, later⟩
      rw [flatten_branches] at inBranch
      have := (NodeId.mem_range.mp inBranch).1
      omega

theorem path_inner {c : Classifier} {first k : Nat} {item : Item} (low : first ≤ k)
    (high : k < first + (item.statements c).length) :
    Edge.Path (item.inner c first) ⟨first⟩ ⟨k⟩ := by
  rcases Nat.eq_or_lt_of_le low with rfl | after
  · exact .refl
  · have inBranch : (⟨k⟩ : NodeId) ∈ (item.branches c first).flatten := by
      rw [flatten_branches, NodeId.mem_range]
      exact ⟨after, by simp only; omega⟩
    obtain ⟨ids, of, inside⟩ := List.mem_flatten.mp inBranch
    exact (path_chain inside).mono fun _ edge => List.mem_flatMap.mpr ⟨ids, of, edge⟩

/-- A path does not lead past a place that no edge leads over. -/
theorem Edge.Path.index_le {edges : List Edge} {x y : NodeId} {place : Nat}
    (path : Path edges x y) (start : x.index ≤ place)
    (apart : ∀ e ∈ edges, place < e.target.index → place < e.source.index) :
    y.index ≤ place := by
  induction path with
  | refl => exact start
  | tail _ edge ih =>
    have := apart _ edge
    simp only at this
    omega

/-! ### Drafts -/

structure Draft.Connected (c : Classifier) (items : List Item) (d : Draft) : Prop where
  /-- No edge leads over a dead end, and none will. -/
  severed : ∀ block id, Opens c items block id → block.DeadEnd c →
    (∀ e ∈ d.edges.toList, id.index < e.target.index → id.index < e.source.index) ∧
      ∀ loose ∈ d.ends, id.index < loose.index
  reached : ∀ k < d.next, ¬CutOff c items k → Edge.Path d.edges.toList ⟨0⟩ ⟨k⟩
  /-- Without a dead end the story goes on. -/
  alive : 0 < d.next → ¬CutOff c items d.next → d.ends ≠ []

theorem connected_empty (c : Classifier) : Draft.empty.Connected c [] where
  severed := by simp [Opens]
  reached := by simp [Draft.empty]
  alive := by simp [Draft.empty]

namespace Draft.Connected

variable {c : Classifier} {done : List Item} {d : Draft}

theorem path_next (connected : d.Connected c done) (sound : d.Sound c done)
    (free : ¬CutOff c done d.next) {edges : List Edge}
    (old : ∀ e ∈ d.edges.toList, e ∈ edges) (links : ∀ e ∈ d.links, e ∈ edges) :
    Edge.Path edges ⟨0⟩ ⟨d.next⟩ := by
  rcases Nat.eq_zero_or_pos d.next with zero | some
  · rw [zero]
    exact .refl
  · obtain ⟨loose, member⟩ := List.exists_mem_of_ne_nil _ (connected.alive some free)
    have below := sound.endsBelow loose member
    have path := connected.reached loose.index below fun cut =>
      free (cut.mono (Nat.le_of_lt below))
    exact (path.mono fun _ edge => old _ edge).tail (links _ (List.mem_map_of_mem member))

end Draft.Connected

theorem connected_addItem {c : Classifier} {done : List Item} {d : Draft} (item : Item)
    (connected : d.Connected c done) (sound : d.Sound c done) (next : d.next = c.count done) :
    (d.addItem c item).Connected c (done ++ [item]) := by
  rw [Draft.addItem_eq]
  split
  · rename_i silence
    have line : ∀ block, item ≠ .conditional block := by
      rintro block rfl
      simp [Item.statements] at silence
    have same : ∀ k, CutOff c (done ++ [item]) k ↔ CutOff c done k := by
      intro k
      rw [cutOff_concat]
      simp [line]
    constructor
    case severed =>
      intro block id opens
      rcases opens_concat.mp opens with old | ⟨made, -⟩
      · exact connected.severed block id old
      · exact absurd made (line block)
    case reached => simpa only [same] using connected.reached
    case alive => simpa only [same] using connected.alive
  · rename_i speaks
    have size := List.length_pos_iff.mpr speaks
    constructor
    case severed =>
      -- Neither the links from the ends nor the edges inside the item lead over an older dead end;
      -- a dead end that the item itself is has no edges and leaves no ends.
      intro block id opens dead
      simp only [Draft.grow, Array.toList_appendList, List.mem_append]
      rcases opens_concat.mp opens with old | ⟨rfl, rfl⟩
      · obtain ⟨apart, before⟩ := connected.severed block id old dead
        have below := index_lt_of_opens old
        constructor
        · rintro e (present | link | inside) past
          · exact apart e present past
          · obtain ⟨loose, member, rfl⟩ := List.mem_map.mp link
            exact before loose member
          · have := source_inner inside
            omega
        · intro loose member
          have := (mem_exits speaks member).1
          omega
      · obtain ⟨inner, exits⟩ := DeadEnd.inner_eq_nil dead d.next
        rw [inner, exits]
        constructor
        · rintro e (present | link | inside) past
          · have := sound.below e present
            simp only at past
            omega
          · obtain ⟨loose, -, rfl⟩ := List.mem_map.mp link
            simp only at past
            omega
          · exact absurd inside List.not_mem_nil
        · exact fun loose member => absurd member List.not_mem_nil
    case reached =>
      intro k bound free
      simp only [Draft.grow, Array.toList_appendList] at bound ⊢
      have before : ¬CutOff c done k := fun cut => free (cutOff_concat.mpr (Or.inl cut))
      by_cases old : k < d.next
      · exact (connected.reached k old before).mono fun _ edge => List.mem_append_left _ edge
      · have entry : Edge.Path (d.edges.toList ++ (d.links ++ item.inner c d.next)) _ _ :=
          connected.path_next sound (fun cut => before (cut.mono (Nat.le_of_not_lt old)))
            (fun _ edge => List.mem_append_left _ edge)
            (fun _ edge => List.mem_append_right _ (List.mem_append_left _ edge))
        exact entry.trans ((path_inner (Nat.le_of_not_lt old) bound).mono fun _ edge =>
          List.mem_append_right _ (List.mem_append_right _ edge))
    case alive =>
      intro _ free
      simp only [Draft.grow] at free ⊢
      cases item with
      | line line => exact List.cons_ne_nil _ _
      | conditional block =>
        refine exits_ne_nil (fun dead => free ?_) d.next
        exact cutOff_concat.mpr (Or.inr ⟨block, rfl, dead, by omega⟩)

theorem connected_foldl_addItem (c : Classifier) (items : List Item) :
    (items.foldl (Draft.addItem c) .empty).Connected c items := by
  have both : (items.foldl (Draft.addItem c) .empty).Sound c items ∧
      (items.foldl (Draft.addItem c) .empty).Connected c items := by
    refine Draft.foldl_addItem_induction
      (motive := fun done d => d.Sound c done ∧ d.Connected c done)
      ⟨sound_empty c, connected_empty c⟩ ?_ items
    rintro done d item next ⟨sound, connected⟩
    exact ⟨sound_addItem item sound next, connected_addItem item connected sound next⟩
  exact both.2

/-- A statement is reached from the first one unless a dead end comes before it. -/
theorem reaches_iff (c : Classifier) (s : Section) {k : Nat} (here : k < (s.graph c).nodes.length) :
    (s.graph c).Reaches ⟨0⟩ ⟨k⟩ ↔ ¬CutOff c (items s.lines) k := by
  have connected := connected_foldl_addItem c (items s.lines)
  constructor
  · rintro path ⟨block, id, opens, dead, before⟩
    have apart := (connected.severed block id opens dead).1
    have := path.index_le (Nat.zero_le id.index) apart
    simp only at this
    omega
  · intro free
    refine connected.reached k ?_ free
    have nodes := congrArg List.length (Draft.nodes_foldl_addItem c (items s.lines))
    rw [Section.graph, nodes] at here
    rw [Draft.next_foldl_addItem]
    simpa [Node.number, Classifier.count] using here

/-- The only line in the branches of the conditional is ignored, so the last line is not reached. -/
theorem reaches_iff_after_dead_end :
    let c := Classifier.builtin
    let s : Section := ⟨0, "Start\nif a\nTrue:\nname: b\nendif\nEnd".toList, 1⟩
    2 < (s.graph c).nodes.length ∧ ¬(s.graph c).Reaches ⟨0⟩ ⟨2⟩ := by
  intro c s
  have here : 2 < (s.graph c).nodes.length := by decide +kernel
  refine ⟨here, ?_⟩
  rw [reaches_iff c s here, not_not]
  have found : items s.lines = [.line ⟨1, "Start".toList⟩,
      .conditional ⟨⟨2, "if a".toList⟩, "if a".toList, [⟨4, "name: b".toList⟩], []⟩,
      .line ⟨6, "End".toList⟩] := by decide +kernel
  have dead : c.classify "name: b".toList = none := by decide +kernel
  have second : c.count [.line ⟨1, "Start".toList⟩] = 1 := by decide +kernel
  refine ⟨_, ⟨1⟩, ⟨[.line ⟨1, "Start".toList⟩], _, found, by rw [second]⟩, ?_, Nat.lt_succ_self 1⟩
  simpa [Conditional.DeadEnd] using dead

end Storygraph
