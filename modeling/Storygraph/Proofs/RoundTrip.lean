import Storygraph.Proofs.Codec
import Storygraph.Proofs.Kinds
import Storygraph.Proofs.Provenance

/-!
# Compilations in files

A compilation that is written to a file is read from it again, and everything that is compiled with
a rulebook or read from a file can be written to one (`Compilation.roundTrip`).
-/

namespace Storygraph

variable {α : Type}

/-- A classifier of a rulebook knows lines only by kinds that some tag means. -/
theorem Classifier.tagged_classify {book : Rulebook} {c : Classifier} (of : ofRulebook book = .ok c)
    {line : Text} {k : Kind} (known : c.classify line = some k) : k.Tagged := by
  obtain ⟨tag, -, means⟩ := exists_tag_of_classify of known
  exact ⟨tag, means⟩

theorem Item.tagged_statements {book : Rulebook} {c : Classifier}
    (of : Classifier.ofRulebook book = .ok c) (item : Item) :
    ∀ statement ∈ item.statements c, statement.1.Tagged := by
  have ofLines : ∀ lines, ∀ statement ∈ c.statements lines, statement.1.Tagged := by
    intro lines statement member
    obtain ⟨l, -, known, -⟩ := mem_statements member
    exact Classifier.tagged_classify of known
  cases item with
  | line l => exact ofLines [l]
  | conditional block =>
    refine List.forall_mem_cons.mpr ⟨⟨Kind.conditionTag.toList, rfl⟩, fun statement member => ?_⟩
    exact (List.mem_append.mp member).elim (ofLines _ statement) (ofLines _ statement)

namespace Section

variable {document : Text} {s : Section}

theorem tagged_graph {book : Rulebook} {c : Classifier} (of : Classifier.ofRulebook book = .ok c)
    (s : Section) : (s.graph c).Tagged := by
  intro n member
  rw [graph, Draft.nodes_foldl_addItem] at member
  obtain ⟨item, -, made⟩ := List.mem_flatMap.mp (Node.mem_of_mem_number member)
  exact item.tagged_statements of _ made

theorem inRange_graph (c : Classifier) (of : s ∈ split document)
    (short : (Text.lines document).length ≤ maxNatural) : (s.graph c).InRange := by
  have formed := wellFormed_graph c s
  have count := length_nodes_le c of
  have nodes : ∀ n ∈ (s.graph c).nodes, n.id.InRange := by
    intro n member
    obtain ⟨i, bound, rfl⟩ := List.getElem_of_mem member
    rw [formed.dense i bound]
    exact (bound.le.trans count).trans short
  have ends : ∀ id ∈ (s.graph c).nodes.map Node.id, id.InRange := by
    intro id member
    obtain ⟨n, of, rfl⟩ := List.mem_map.mp member
    exact nodes n of
  exact ⟨nodes, fun e member =>
    ⟨ends _ (formed.joined e member).1, ends _ (formed.joined e member).2⟩⟩

theorem inRange_warning {w : Warning} (of : s ∈ split document) (warned : w ∈ s.warnings)
    (short : (Text.lines document).length ≤ maxNatural) : w.line ≤ maxNatural := by
  obtain ⟨l, member, earned⟩ := exists_line_of_warning warned
  have bounds := bounds_of_mem_lines of member
  rw [earned.line_eq]
  omega

end Section

namespace Compilation

theorem tagged_ofDocument {book : Rulebook} {c : Classifier}
    (of : Classifier.ofRulebook book = .ok c) (document : Text) :
    (ofDocument c document).Tagged := by
  intro g member
  obtain ⟨s, -, rfl⟩ := List.mem_map.mp member
  exact s.tagged_graph of

theorem inRange_ofDocument (c : Classifier) {document : Text}
    (short : (Text.lines document).length ≤ maxNatural) : (ofDocument c document).InRange where
  sections g member := by
    obtain ⟨s, of, rfl⟩ := List.mem_map.mp member
    exact s.inRange_graph c of short
  warnings w member := by
    obtain ⟨s, of, warned⟩ := List.mem_flatMap.mp member
    exact Section.inRange_warning of warned short

/-- A compilation is read again from the files that it is written to if and only if the kinds of
its nodes are those of their tags and its numbers are in range. The kinds of what is compiled with a
rulebook always are, and its numbers unless the document has more lines than a file can count; both
hold of everything that is read from a file. -/
theorem roundTrip :
    (∀ r : Compilation, r.Tagged ∧ r.InRange ↔ ofText r.toJson.compact = .ok r) ∧
      (∀ r : Compilation, r.Tagged ∧ r.InRange ↔ ofText r.toJson.indented = .ok r) ∧
      (∀ book c document, Classifier.ofRulebook book = .ok c →
        (ofDocument c document).Tagged ∧
          ((Text.lines document).length ≤ maxNatural → (ofDocument c document).InRange)) ∧
      ∀ t r, ofText t = .ok r → r.Tagged ∧ r.InRange := by
  have read : ∀ t r, ofText t = .ok r → r.Tagged ∧ r.InRange :=
    fun t r answers => Compilation.ensures.of_run answers
  refine ⟨fun r => ⟨?_, read _ r⟩, fun r => ⟨?_, read _ r⟩, ?_, read⟩
  · exact fun ⟨tagged, inRange⟩ => ofText_of_written tagged inRange (Json.written_compact _)
  · exact fun ⟨tagged, inRange⟩ => ofText_of_written tagged inRange (Json.written_indented _)
  · exact fun book c document of => ⟨tagged_ofDocument of document, inRange_ofDocument c⟩

theorem roundTrip_notes :
    let book : Rulebook := ⟨[], "note".toList, []⟩
    let c : Classifier := ⟨[], [], .other "note".toList⟩
    let r := ofDocument c "first\nsecond".toList
    Classifier.ofRulebook book = .ok c ∧ r.Tagged ∧ r.InRange ∧
      ofText r.toJson.compact = .ok r ∧ ofText r.toJson.indented = .ok r := by
  intro book c r
  have compiled : Classifier.ofRulebook book = .ok c := rfl
  have short : (Text.lines "first\nsecond".toList).length ≤ maxNatural := by decide
  obtain ⟨tagged, inRange⟩ := roundTrip.2.2.1 book c "first\nsecond".toList compiled
  have compact := (roundTrip.1 r).mp ⟨tagged, inRange short⟩
  have indented := (roundTrip.2.1 r).mp ⟨tagged, inRange short⟩
  have again := roundTrip.2.2.2 _ r compact
  exact ⟨compiled, again.1, again.2, compact, indented⟩

end Compilation

end Storygraph
