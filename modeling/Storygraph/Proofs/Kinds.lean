import Storygraph.Cli.Run
import Storygraph.Proofs.Compiling
import Storygraph.Proofs.Growth

/-!
# Kinds of nodes

A line has a kind that some tag of the rulebook means, and the node of a conditional is a condition.
The condition nodes of a section are the nodes of its conditionals and those of the lines that are
classified as conditions; `conditions_eq_openings_iff` says when there are none of the latter.
-/

namespace Storygraph

/-! ### Kinds of lines -/

theorem Kind.eq_of_ofTag_eq_condition {tag : Text} (means : ofTag tag = .condition) :
    tag = conditionTag.toList := by
  rw [ofTag] at means
  split at means
  case h_9 same => rw [← String.toList_ofList (l := tag), same]; rfl
  all_goals cases means

theorem Rulebook.name_mem_tags {book : Rulebook} {rule : Rule} (member : rule ∈ book.rules) :
    rule.name ∈ book.tags := by
  have named : rule.name ∈ book.rules.map (·.name) := List.mem_map_of_mem member
  simp only [tags]
  split
  · exact named
  · exact List.mem_append_left _ named

theorem Rulebook.defaultTag_mem_tags (book : Rulebook) : book.defaultTag ∈ book.tags := by
  simp only [tags]
  split
  · assumption
  · exact List.mem_append_right _ List.mem_cons_self

theorem Classifier.exists_tag_of_classify {book : Rulebook} {c : Classifier}
    (of : ofRulebook book = .ok c) {line : Text} {k : Kind} (known : c.classify line = some k) :
    ∃ tag ∈ book.tags, Kind.ofTag tag = k := by
  have decides := ((ofRulebook_eq_ok_iff.mp of).follows line).decides
  rw [known] at decides
  cases decides with
  | @rule rule _ first => exact ⟨rule.name, Rulebook.name_mem_tags first.mem, rfl⟩
  | default => exact ⟨book.defaultTag, book.defaultTag_mem_tags, rfl⟩

theorem Classifier.classify_ne_condition {book : Rulebook} {c : Classifier}
    (of : ofRulebook book = .ok c) (free : Kind.conditionTag.toList ∉ book.tags) (line : Text) :
    c.classify line ≠ some .condition := by
  intro known
  obtain ⟨tag, member, means⟩ := exists_tag_of_classify of known
  exact free (Kind.eq_of_ofTag_eq_condition means ▸ member)

/-! ### Conditions among the nodes of items -/

namespace Item

def isConditional : Item → Bool
  | .line _ => false
  | .conditional _ => true

def classified : Item → List Line
  | .line l => [l]
  | .conditional block => block.whenTrue ++ block.whenFalse

end Item

namespace Classifier

def isCondition (c : Classifier) (l : Line) : Bool := c.classify l.text == some .condition

/-- The nodes of the conditionals among some items, the first node of which has the given index. -/
def openings (c : Classifier) (first : Nat) : List Item → List Node
  | [] => []
  | .line l :: rest => openings c (first + (c.statements [l]).length) rest
  | .conditional block :: rest =>
    ⟨⟨first⟩, .condition, block.content⟩ ::
      openings c (first + ((Item.conditional block).statements c).length) rest

theorem length_openings (c : Classifier) (first : Nat) (items : List Item) :
    (c.openings first items).length = items.countP Item.isConditional := by
  induction items generalizing first with
  | nil => rfl
  | cons item rest ih =>
    cases item with
    | line l => rw [openings, ih, List.countP_cons_of_neg Bool.false_ne_true]
    | conditional block => rw [openings, List.length_cons, ih, List.countP_cons_of_pos rfl]

theorem openings_sublist (c : Classifier) (first : Nat) (items : List Item) :
    (c.openings first items).Sublist
      ((Node.number first (items.flatMap (Item.statements c))).filter (·.kind.isCondition)) := by
  induction items generalizing first with
  | nil => exact List.Sublist.refl _
  | cons item rest ih =>
    rw [List.flatMap_cons, Node.number_append, List.filter_append]
    cases item with
    | line l => exact List.sublist_append_of_sublist_right (ih _)
    | conditional block =>
      rw [openings, Item.statements, Node.number_cons, List.filter_cons_of_pos rfl,
        List.cons_append]
      exact (List.sublist_append_of_sublist_right (ih _)).cons_cons _

theorem countP_statements (c : Classifier) (lines : List Line) :
    (c.statements lines).countP (·.1.isCondition) = lines.countP c.isCondition := by
  rw [statements, List.countP_filterMap]
  apply List.countP_congr
  intro l _
  cases known : c.classify l.text <;> simp [isCondition, Kind.isCondition, known]

/-- Besides the conditionals, the lines that are classified as conditions make condition nodes. -/
theorem countP_flatMap_statements (c : Classifier) (items : List Item) :
    (items.flatMap (Item.statements c)).countP (·.1.isCondition) =
      items.countP Item.isConditional + (items.flatMap Item.classified).countP c.isCondition := by
  induction items with
  | nil => rfl
  | cons item rest ih =>
    rw [List.flatMap_cons, List.flatMap_cons, List.countP_append, List.countP_append, ih]
    cases item with
    | line l =>
      have plain : (Item.line l :: rest).countP Item.isConditional =
          rest.countP Item.isConditional := List.countP_cons_of_neg Bool.false_ne_true
      rw [Item.statements, countP_statements, plain, Item.classified]
      omega
    | conditional block =>
      rw [Item.statements, List.countP_cons_of_pos rfl, List.countP_append, countP_statements,
        countP_statements, List.countP_cons_of_pos rfl, Item.classified, List.countP_append]
      omega

end Classifier

theorem Node.countP_number (first : Nat) (statements : List (Kind × Text)) :
    (number first statements).countP (·.kind.isCondition) =
      statements.countP (·.1.isCondition) := by
  conv => rhs; rw [← List.zipIdx_map_fst first statements]
  rw [number, List.countP_map, List.countP_map]
  rfl

namespace Section

theorem conditions_graph (c : Classifier) (s : Section) :
    (s.graph c).conditions =
      (Node.number 0 ((items s.lines).flatMap (Item.statements c))).filter
        (·.kind.isCondition) := by
  rw [Graph.conditions, graph, Draft.nodes_foldl_addItem]

/-- The condition nodes of a section are those of its conditionals if and only if no line is
classified as a condition. -/
theorem conditions_eq_openings (c : Classifier) (s : Section) :
    (s.graph c).conditions = c.openings 0 (items s.lines) ↔
      ∀ item ∈ items s.lines, ∀ l ∈ item.classified, c.classify l.text ≠ some .condition := by
  have counts : (s.graph c).conditions.length = (c.openings 0 (items s.lines)).length +
      ((items s.lines).flatMap Item.classified).countP c.isCondition := by
    rw [conditions_graph, ← List.countP_eq_length_filter, Node.countP_number,
      c.countP_flatMap_statements, c.length_openings]
  have none : ((items s.lines).flatMap Item.classified).countP c.isCondition = 0 ↔
      ∀ item ∈ items s.lines, ∀ l ∈ item.classified, c.classify l.text ≠ some .condition := by
    simp only [List.countP_eq_zero, List.mem_flatMap, Classifier.isCondition, beq_iff_eq]
    exact ⟨fun all item of l member => all l ⟨item, of, member⟩,
      fun all l ⟨item, of, member⟩ => all item of l member⟩
  have sub := c.openings_sublist 0 (items s.lines)
  rw [← conditions_graph] at sub
  rw [← none, eq_comm, ← sub.length_eq]
  omega

end Section

/-- The condition nodes of a section are the nodes of its conditionals, one each and in order, if
and only if no line of it is classified as a condition. No line is if no tag of the rulebook is the
one of conditions, and the conditions in the listing of sections are then the conditionals. -/
theorem conditions_eq_openings_iff {book : Rulebook} {c : Classifier}
    (of : Classifier.ofRulebook book = .ok c) (document : Text) :
    ∀ s ∈ Section.split document,
      ((s.graph c).conditions = c.openings 0 (items s.lines) ↔
        ∀ item ∈ items s.lines, ∀ l ∈ item.classified, c.classify l.text ≠ some .condition) ∧
      (Kind.conditionTag.toList ∉ book.tags →
        (s.graph c).conditions = c.openings 0 (items s.lines) ∧
          Cli.sizesJson (s.graph c) = .object [("name", .text s.name),
            ("node_count", .natural (s.graph c).nodes.length),
            ("edge_count", .natural (s.graph c).edges.length),
            ("condition_count", .natural ((items s.lines).countP Item.isConditional))]) := by
  intro s _
  refine ⟨s.conditions_eq_openings c, fun free => ?_⟩
  have same : (s.graph c).conditions = c.openings 0 (items s.lines) :=
    (s.conditions_eq_openings c).mpr fun _ _ l _ => Classifier.classify_ne_condition of free l.text
  refine ⟨same, ?_⟩
  rw [Cli.sizesJson, same, c.length_openings]
  rfl

/-- A line of a branch that looks like a header makes no condition node, and a conditional that is
not closed makes one. -/
theorem conditions_eq_openings_iff_nested :
    let book : Rulebook := ⟨[], "note".toList, []⟩
    let c : Classifier := ⟨[], [], .other "note".toList⟩
    let document := "Start\nif a\ntrue:\nif b\nendif\nif c".toList
    let s : Section := ⟨0, document, 1⟩
    Classifier.ofRulebook book = .ok c ∧ s ∈ Section.split document ∧
      Kind.conditionTag.toList ∉ book.tags ∧
      (s.graph c).conditions =
        [⟨⟨1⟩, .condition, "if a".toList⟩, ⟨⟨3⟩, .condition, "if c".toList⟩] := by
  intro book c document s
  have compiled : Classifier.ofRulebook book = .ok c := rfl
  have member : s ∈ Section.split document := by decide +kernel
  have free : Kind.conditionTag.toList ∉ book.tags := by decide
  refine ⟨compiled, member, free, ?_⟩
  rw [((conditions_eq_openings_iff compiled document s member).2 free).1]
  decide +kernel

/-- A rulebook may mean conditions by its default tag. Every line is a condition then. -/
theorem not_forall_conditions_eq_openings :
    ¬∀ (book : Rulebook) (c : Classifier) (document : Text), Classifier.ofRulebook book = .ok c →
      ∀ s ∈ Section.split document, (s.graph c).conditions = c.openings 0 (items s.lines) := by
  intro all
  let c : Classifier := ⟨[], [], .condition⟩
  let s : Section := ⟨0, "Hello".toList, 1⟩
  have same := all ⟨[], Kind.conditionTag.toList, []⟩ c s.text rfl s (by decide +kernel)
  have none : c.openings 0 (items s.lines) = [] := by decide +kernel
  have one : (s.graph c).conditions = [⟨⟨0⟩, .condition, s.text⟩] := by decide +kernel
  rw [none, one] at same
  nomatch same

end Storygraph
