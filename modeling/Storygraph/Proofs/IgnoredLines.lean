import Storygraph.Proofs.Growth
import Storygraph.Proofs.Lines

/-!
# Ignored lines

A line that is ignored, and that means nothing to a conditional, leaves no trace in a graph:
`finish_sifted` and `run_sifted` read some lines side by side with the same lines less such ones,
and `graph_inserted` says that one more of them changes neither nodes nor edges of a section.
-/

namespace Storygraph

/-- The text is ignored and, wherever it stands, neither opens nor ends a conditional, begins no
part of one and describes no options. -/
structure Classifier.Overlooks (c : Classifier) (t : Text) : Prop where
  ignored : c.classify t = none
  notHeader : isHeader t = false
  notEnd : isEnd t = false
  notMarker : Part.begunBy? t = none
  notMetadata : isMetadata t = false

/-- `kept` are the texts of `lines`, maybe under other numbers, without some that are overlooked. -/
inductive Sifted (c : Classifier) : (lines kept : List Line) → Prop
  | nil : Sifted c [] []
  | keep {l k : Line} {lines kept : List Line} (same : l.text = k.text)
      (rest : Sifted c lines kept) : Sifted c (l :: lines) (k :: kept)
  | drop {l : Line} {lines kept : List Line} (unseen : c.Overlooks l.text)
      (rest : Sifted c lines kept) : Sifted c (l :: lines) kept

section

variable {c : Classifier} {l k : Line} {lines kept : List Line}

/-! ### Lines and their statements -/

theorem statements_concat (lines : List Line) (l : Line) :
    c.statements (lines ++ [l]) = c.statements lines ++ c.statements [l] := by
  simp [Classifier.statements]

theorem statements_of_text (same : l.text = k.text) : c.statements [l] = c.statements [k] := by
  simp only [Classifier.statements, List.filterMap_cons, same]

theorem statements_of_ignored (ignored : c.classify l.text = none) : c.statements [l] = [] := by
  simp [Classifier.statements, ignored]

/-! ### One conditional -/

namespace Reading

structure Alike (c : Classifier) (r r' : Reading) : Prop where
  header : r.header.text = r'.header.text
  part : r.part = r'.part
  metadata : r.metadata.toList.map (·.text) = r'.metadata.toList.map (·.text)
  whenTrue : c.statements r.whenTrue.toList = c.statements r'.whenTrue.toList
  whenFalse : c.statements r.whenFalse.toList = c.statements r'.whenFalse.toList

variable {r r' : Reading}

theorem alike_start (same : l.text = k.text) (warnings warnings' : Array Warning) :
    (start l warnings).Alike c (start k warnings') :=
  ⟨same, rfl, rfl, rfl, rfl⟩

/-- What one line does to a conditional, apart from the warnings about it. -/
theorem exists_add_eq (r : Reading) (l : Line) : ∃ warnings, r.add l = {
    header := r.header
    part := (Part.begunBy? l.text).getD r.part
    metadata :=
      if Part.begunBy? l.text = none ∧ r.part = .heading ∧ isMetadata l.text = true then
        r.metadata.push l
      else r.metadata
    whenTrue :=
      if Part.begunBy? l.text = none ∧ r.part = .whenTrue then r.whenTrue.push l else r.whenTrue
    whenFalse :=
      if Part.begunBy? l.text = none ∧ r.part = .whenFalse then r.whenFalse.push l else r.whenFalse
    warnings } := by
  refine ⟨(r.add l).warnings, ?_⟩
  obtain ⟨header, stands, metadata, whenTrue, whenFalse, warnings⟩ := r
  unfold add remark
  cases marker : Part.begunBy? l.text with
  | some part => simp
  | none =>
    cases stands with
    | heading => by_cases option : isMetadata l.text = true <;> simp [option]
    | whenTrue => by_cases nested : isHeader l.text = true <;> simp [nested]
    | whenFalse => by_cases nested : isHeader l.text = true <;> simp [nested]

theorem alike_add (alike : r.Alike c r') (same : l.text = k.text) :
    (r.add l).Alike c (r'.add k) := by
  obtain ⟨header, part, metadata, whenTrue, whenFalse⟩ := alike
  have statements := statements_of_text (c := c) same
  obtain ⟨_, step⟩ := exists_add_eq r l
  obtain ⟨_, step'⟩ := exists_add_eq r' k
  rw [step, step', same, part]
  constructor
  · exact header
  · rfl
  · dsimp only
    split <;> simp [metadata, same]
  · dsimp only
    split <;> simp [statements_concat, whenTrue, statements]
  · dsimp only
    split <;> simp [statements_concat, whenFalse, statements]

/-- In the heading an overlooked line is dropped; in a branch it is kept, but no statement. -/
theorem alike_add_overlooked (alike : r.Alike c r') (unseen : c.Overlooks l.text) :
    (r.add l).Alike c r' := by
  obtain ⟨header, part, metadata, whenTrue, whenFalse⟩ := alike
  have silent := statements_of_ignored unseen.ignored
  obtain ⟨_, step⟩ := exists_add_eq r l
  rw [step]
  constructor
  · exact header
  · rw [unseen.notMarker, Option.getD_none, part]
  · rw [if_neg (by simp [unseen.notMetadata]), metadata]
  · dsimp only
    split <;> simp [statements_concat, silent, whenTrue]
  · dsimp only
    split <;> simp [statements_concat, silent, whenFalse]

theorem finish_sifted (sifted : Sifted c lines kept) (alike : r.Alike c r') :
    (r.finish lines).1.Alike c (r'.finish kept).1 ∧
      Sifted c (r.finish lines).2 (r'.finish kept).2 := by
  induction sifted generalizing r r' with
  | nil => exact ⟨⟨alike.header, alike.part, alike.metadata, alike.whenTrue, alike.whenFalse⟩, .nil⟩
  | @keep l k lines kept same rest ih =>
    rw [finish, finish, same]
    split
    · exact ⟨alike, rest⟩
    · exact ih (alike_add alike same)
  | @drop l lines kept unseen rest ih =>
    rw [finish, if_neg (by simp [unseen.notEnd])]
    exact ih (alike_add_overlooked alike unseen)

end Reading

/-! ### Items and their graph -/

/-- A conditional adds to a graph what its content and its statements say. -/
theorem Draft.addItem_alike {r r' : Reading} (alike : r.Alike c r') (d : Draft) :
    d.addItem c (.conditional r.conditional) = d.addItem c (.conditional r'.conditional) := by
  have content : r.conditional.content = r'.conditional.content := by
    simp only [Reading.conditional, alike.header, alike.metadata]
  have whenTrue : c.statements r.conditional.whenTrue = c.statements r'.conditional.whenTrue :=
    alike.whenTrue
  have whenFalse : c.statements r.conditional.whenFalse = c.statements r'.conditional.whenFalse :=
    alike.whenFalse
  rw [Draft.addItem_eq, Draft.addItem_eq, if_neg (by simp [Item.statements]),
    if_neg (by simp [Item.statements])]
  simp only [Item.statements, Item.inner, Item.exits, Item.branches, content, whenTrue, whenFalse]

namespace Scan

def draft (c : Classifier) (s : Scan) : Draft := s.items.toList.foldl (Draft.addItem c) .empty

theorem draft_push (items : Array Item) (item : Item) (warnings warnings' : Array Warning) :
    draft c ⟨items.push item, warnings⟩ = (draft c ⟨items, warnings'⟩).addItem c item := by
  simp [draft]

theorem draft_addLine (s : Scan) (l : Line) :
    (s.addLine l).draft c = (s.draft c).addLine c l :=
  draft_push s.items (.line l) _ s.warnings

/-- A scan of the lines that are kept makes the draft that a scan of all lines makes. -/
theorem run_sifted (sifted : Sifted c lines kept) {s t : Scan} (same : s.draft c = t.draft c) :
    (s.run lines).draft c = (t.run kept).draft c := by
  induction size : lines.length using Nat.strong_induction_on generalizing lines kept s t with
  | _ n ih =>
    subst size
    cases sifted with
    | nil => rw [run, run, same]
    | @keep l k lines kept text rest =>
      rw [run, run, text]
      split
      · have start := Reading.alike_start (c := c) text s.warnings t.warnings
        obtain ⟨alike, after⟩ := Reading.finish_sifted rest start
        have shorter := Reading.length_finish_le (Reading.start l s.warnings) lines
        refine ih _ ?_ after ?_ rfl
        · rw [List.length_cons]
          omega
        · rw [draft_push _ _ _ s.warnings, draft_push _ _ _ t.warnings, Draft.addItem_alike alike]
          exact congrArg (Draft.addItem c · _) same
      · refine ih _ (Nat.lt_succ_self _) rest ?_ rfl
        rw [draft_addLine, draft_addLine, same, Draft.addLine, Draft.addLine, text]
    | @drop l lines kept unseen rest =>
      rw [run, if_neg (by simp [unseen.notHeader])]
      refine ih _ (Nat.lt_succ_self _) rest ?_ rfl
      rw [draft_addLine, Draft.addLine, unseen.ignored, same]

end Scan

/-! ### Sections with one more line -/

theorem sifted_numberLines (first first' : Nat) (texts : List Text) :
    Sifted c (numberLines first texts) (numberLines first' texts) := by
  induction texts generalizing first first' with
  | nil => exact .nil
  | cons t texts ih => exact .keep rfl (ih _ _)

theorem sifted_inserted {t : Text} (unseen : c.Overlooks t) (first first' : Nat)
    (before after : List Text) :
    Sifted c (numberLines first (before ++ t :: after)) (numberLines first' (before ++ after)) := by
  induction before generalizing first first' with
  | nil => exact .drop unseen (sifted_numberLines _ _ after)
  | cons u before ih => exact .keep rfl (ih _ _)

end

theorem Section.graph_eq_draft (s : Section) (c : Classifier) :
    s.graph c = ⟨s.name, ((Scan.ofLines #[] s.lines).draft c).nodes.toList,
      ((Scan.ofLines #[] s.lines).draft c).edges.toList⟩ := rfl

/-- One more line that is overlooked, anywhere among some lines, changes neither the nodes nor the
edges of their graph. -/
theorem Section.graph_inserted (c : Classifier) (before after : List Text) (line : Text)
    (some : before ++ after ≠ []) (single : '\n' ∉ line) (unseen : c.Overlooks (Text.trim line))
    (index index' first first' : Nat) :
    let longer : Section := ⟨index, Text.join ['\n'] (before ++ line :: after), first⟩
    let shorter : Section := ⟨index', Text.join ['\n'] (before ++ after), first'⟩
    (longer.graph c).nodes = (shorter.graph c).nodes ∧
      (longer.graph c).edges = (shorter.graph c).edges := by
  intro longer shorter
  have sifted : Sifted c longer.lines shorter.lines := by
    rw [lines, lines, Text.lines_join (by simp), Text.lines_join some, List.flatMap_append,
      List.flatMap_cons, Text.lines_of_notMem single, List.flatMap_append]
    simp only [List.map_append, List.map_cons, List.singleton_append]
    exact sifted_inserted unseen first first' _ _
  have drafts := Scan.run_sifted sifted (s := ⟨#[], #[]⟩) (t := ⟨#[], #[]⟩) rfl
  rw [graph_eq_draft, graph_eq_draft, Scan.ofLines, Scan.ofLines, drafts]
  exact ⟨rfl, rfl⟩

/-- A name in the middle of a branch is ignored: the branch stays one statement long, and what
follows the conditional is linked from it. -/
theorem Section.graph_inserted_branch :
    let c := Classifier.builtin
    let before := ["Start".toList, "if rich".toList, "True:".toList]
    let line := "\tname : Inn".toList
    let after := ["Show A".toList, "endif".toList, "End".toList]
    let longer : Section := ⟨0, Text.join ['\n'] (before ++ line :: after), 1⟩
    let shorter : Section := ⟨0, Text.join ['\n'] (before ++ after), 1⟩
    before ++ after ≠ [] ∧ '\n' ∉ line ∧ c.Overlooks (Text.trim line) ∧
      (longer.graph c).edges = (shorter.graph c).edges ∧
      (shorter.graph c).edges = [⟨⟨0⟩, ⟨1⟩⟩, ⟨⟨1⟩, ⟨2⟩⟩, ⟨⟨2⟩, ⟨3⟩⟩] := by
  intro c before line after longer shorter
  have some : before ++ after ≠ [] := by decide
  have single : '\n' ∉ line := by decide
  have unseen : c.Overlooks (Text.trim line) := by
    constructor <;> decide +kernel
  exact ⟨some, single, unseen, (graph_inserted c before after line some single unseen 0 0 1 1).2,
    by decide +kernel⟩

end Storygraph
