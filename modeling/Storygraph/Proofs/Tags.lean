import Storygraph.Proofs.Kinds
import Storygraph.Proofs.Provenance

/-!
# Tags of nodes

The tags of a rulebook are listed apart from the kinds that its rules are compiled to. The nodes of
a compilation have listed tags, conditionals apart, and the second tag of function statements
stands for the first (`tags_of_nodes`).
-/

namespace Storygraph

namespace Kind

/-- The tag by which a kind with the given tag is known. -/
def canonicalTag (tag : Text) : Text := if tag = callTag.toList then function.tag else tag

theorem eq_toList {tag : Text} {literal : String} (same : String.ofList tag = literal) :
    tag = literal.toList := by
  rw [← same, String.toList_ofList]

theorem tag_ofTag (tag : Text) : (ofTag tag).tag = canonicalTag tag := by
  unfold ofTag canonicalTag
  split
  case h_10 _ _ _ _ other _ _ _ _ =>
    have unlike : tag ≠ callTag.toList := by
      intro same
      apply other
      rw [same, String.ofList_toList]
      rfl
    rw [if_neg unlike]
    rfl
  all_goals
    rename_i same
    rw [eq_toList same]
    decide

theorem canonicalTag_ne_callTag (tag : Text) : canonicalTag tag ≠ callTag.toList := by
  unfold canonicalTag
  split
  · decide
  · assumption

end Kind

def Rulebook.nodeTags (book : Rulebook) : List Text := book.tags.map Kind.canonicalTag

theorem Classifier.tag_mem_nodeTags {book : Rulebook} {c : Classifier}
    (of : ofRulebook book = .ok c) {line : Text} {k : Kind} (known : c.classify line = some k) :
    k.tag ∈ book.nodeTags := by
  obtain ⟨tag, listed, means⟩ := exists_tag_of_classify of known
  rw [← means, Kind.tag_ofTag]
  exact List.mem_map_of_mem listed

/-- No tag of a rulebook is the second one of function statements in the end. -/
theorem Rulebook.callTag_notMem_nodeTags (book : Rulebook) :
    Kind.callTag.toList ∉ book.nodeTags := by
  intro member
  obtain ⟨tag, -, same⟩ := List.mem_map.mp member
  exact Kind.canonicalTag_ne_callTag tag same

/-! ### Nodes of items -/

/-- A statement of an item is the first of a conditional or a line that is classified. -/
theorem Item.opens_or_classified (c : Classifier) (item : Item) (first : Nat) :
    ∀ n ∈ Node.number first (item.statements c),
      (∃ block, item = .conditional block ∧ n.id = ⟨first⟩ ∧ n.kind = .condition) ∨
        ∃ l ∈ item.classified, c.classify l.text = some n.kind := by
  intro n member
  cases item with
  | line l =>
    obtain ⟨m, here, known, -⟩ := mem_statements (Node.mem_of_mem_number member)
    exact Or.inr ⟨m, here, known⟩
  | conditional block =>
    rw [statements, Node.number_cons] at member
    rcases List.mem_cons.mp member with rfl | branch
    · exact Or.inl ⟨block, rfl, rfl, rfl⟩
    · right
      rcases List.mem_append.mp (Node.mem_of_mem_number branch) with inTrue | inFalse
      · obtain ⟨l, here, known, -⟩ := mem_statements inTrue
        exact ⟨l, List.mem_append_left _ here, known⟩
      · obtain ⟨l, here, known, -⟩ := mem_statements inFalse
        exact ⟨l, List.mem_append_right _ here, known⟩

theorem opens_or_classified (c : Classifier) (items : List Item) :
    ∀ n ∈ Node.number 0 (items.flatMap (Item.statements c)),
      (∃ block, Opens c items block n.id ∧ n.kind = .condition) ∨
        ∃ item ∈ items, ∃ l ∈ item.classified, c.classify l.text = some n.kind := by
  induction items using List.reverseRecOn with
  | nil => exact fun n member => nomatch member
  | append_singleton items item ih =>
    intro n member
    rw [List.flatMap_append, List.flatMap_singleton, Node.number_append, List.mem_append] at member
    rcases member with old | new
    · rcases ih n old with ⟨block, opens, kind⟩ | ⟨other, of, known⟩
      · exact Or.inl ⟨block, opens_concat.mpr (Or.inl opens), kind⟩
      · exact Or.inr ⟨other, List.mem_append_left _ of, known⟩
    · rcases item.opens_or_classified c _ n new with ⟨block, made, place, kind⟩ | known
      · refine Or.inl ⟨block, opens_concat.mpr (Or.inr ⟨made, ?_⟩), kind⟩
        rw [place, Nat.zero_add]
        rfl
      · exact Or.inr ⟨item, List.mem_append_right _ List.mem_cons_self, known⟩

namespace Section

variable {book : Rulebook} {c : Classifier} {n : Node}

/-- A node of a section is the condition that a conditional opens with, or has a listed tag. -/
theorem opens_or_listed (of : Classifier.ofRulebook book = .ok c) (s : Section)
    (member : n ∈ (s.graph c).nodes) :
    (∃ block, Opens c (items s.lines) block n.id ∧ n.kind = .condition) ∨
      n.kind.tag ∈ book.nodeTags := by
  rw [graph, Draft.nodes_foldl_addItem] at member
  rcases opens_or_classified c _ n member with opens | ⟨item, -, l, -, known⟩
  · exact Or.inl opens
  · exact Or.inr (Classifier.tag_mem_nodeTags of known)

end Section

/-- Every node of a compilation is a condition or has a tag of the rulebook, and no node has the
second tag of function statements. Only the nodes of conditionals can have a tag that the rulebook
does not have. -/
theorem tags_of_nodes {book : Rulebook} {c : Classifier} (of : Classifier.ofRulebook book = .ok c)
    (document : Text) :
    (∀ g ∈ (Compilation.ofDocument c document).sections, ∀ n ∈ g.nodes,
      (n.kind.tag = Kind.conditionTag.toList ∨ n.kind.tag ∈ book.tags.map Kind.canonicalTag) ∧
        n.kind.tag ≠ Kind.callTag.toList) ∧
      ∀ s ∈ Section.split document, ∀ n ∈ (s.graph c).nodes,
        (∀ block, ¬Opens c (items s.lines) block n.id) →
          n.kind.tag ∈ book.tags.map Kind.canonicalTag := by
  constructor
  · intro g section_ n member
    obtain ⟨s, -, rfl⟩ := List.mem_map.mp section_
    rcases s.opens_or_listed of member with ⟨block, -, condition⟩ | listed
    · rw [condition]
      exact ⟨Or.inl rfl, by decide⟩
    · refine ⟨Or.inr listed, ?_⟩
      intro same
      exact book.callTag_notMem_nodeTags (same ▸ listed)
  · intro s _ n member plain
    rcases s.opens_or_listed of member with ⟨block, opens, -⟩ | listed
    · exact absurd opens (plain block)
    · exact listed

/-- A rulebook with both tags of function statements: its one rule names the second, and the nodes
have the first. -/
theorem tags_of_nodes_call :
    let book : Rulebook := ⟨[Rulebook.rule "function_call" "call" ""], "say".toList, []⟩
    let document := "call a\nif b\nHello".toList
    ∃ c, Classifier.ofRulebook book = .ok c ∧
      (Compilation.ofDocument c document).sections.flatMap (fun g => g.nodes.map (·.kind.tag)) =
        ["function".toList, "condition".toList] ∧
      ∀ g ∈ (Compilation.ofDocument c document).sections, ∀ n ∈ g.nodes,
        (n.kind.tag = "condition".toList ∨ n.kind.tag ∈ ["function".toList, "say".toList]) ∧
          n.kind.tag ≠ "function_call".toList := by
  intro book document
  have found : (Classifier.ofRulebook book).toOption.map (fun c =>
      (Compilation.ofDocument c document).sections.flatMap fun g => g.nodes.map (·.kind.tag)) =
        some ["function".toList, "condition".toList] := by decide +kernel
  cases compiles : Classifier.ofRulebook book with
  | error bad =>
    rw [compiles] at found
    nomatch found
  | ok c =>
    rw [compiles] at found
    exact ⟨c, rfl, Option.some.inj found, (tags_of_nodes compiles document).1⟩

end Storygraph
