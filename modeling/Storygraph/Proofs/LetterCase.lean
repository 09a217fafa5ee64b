import Storygraph.Compilation
import Storygraph.Proofs.Pieces
import Storygraph.Proofs.Segmentation
import Storygraph.Proofs.Pattern.LetterCase

/-!
# Documents and letter case

A document in small letters falls into the same sections, lines and items as the document itself.
Under a classifier that does not look at letter case it has the same nodes, edges and warnings up to
the case of their texts (`Compilation.asciiLower_ofDocument`).
-/

namespace Storygraph

/-- A character that is no letter is equal to itself alone up to letter case. -/
theorem asciiLower_eq_iff {c d : Char}
    (other : ∀ i < 26, (Char.ofNat (97 + i) == d) = (Char.ofNat (65 + i) == d)) :
    asciiLower c = d ↔ c = d := by
  have same := apply_asciiLower (f := (· == d)) other c
  rw [← beq_iff_eq, same, beq_iff_eq]

theorem asciiLower_eq_letter_iff {c small capital : Char}
    (forms : ∀ i < 26, (Char.ofNat (97 + i) == small || Char.ofNat (97 + i) == capital) =
      (Char.ofNat (65 + i) == small || Char.ofNat (65 + i) == capital))
    (fixed : asciiLower small = small) (lowered : asciiLower capital = small) :
    asciiLower c = small ↔ c = small ∨ c = capital := by
  constructor
  · intro same
    have alike := apply_asciiLower (f := fun c => c == small || c == capital) forms c
    rw [same, beq_self_eq_true, Bool.true_or] at alike
    simpa using alike.symm
  · rintro (rfl | rfl)
    · exact fixed
    · exact lowered

theorem asciiLower_asciiLower (c : Char) : asciiLower (asciiLower c) = asciiLower c :=
  apply_asciiLower (by decide) c

namespace Text

/-! ### Texts -/

theorem asciiLower_append (s t : Text) : (s ++ t).asciiLower = s.asciiLower ++ t.asciiLower :=
  List.map_append

theorem asciiLower_idem (t : Text) : t.asciiLower.asciiLower = t.asciiLower := by
  rw [asciiLower, asciiLower, List.map_map]
  exact List.map_congr_left fun c _ => asciiLower_asciiLower c

theorem sameAscii_asciiLower (t s : Text) : sameAscii t.asciiLower s = sameAscii t s := by
  rw [sameAscii, sameAscii, asciiLower_idem]

theorem startsWithAscii_asciiLower (t s : Text) :
    startsWithAscii t.asciiLower s = startsWithAscii t s := by
  rw [startsWithAscii, startsWithAscii, ← sameAscii_asciiLower (t.take _), asciiLower, asciiLower,
    List.map_take]

theorem isBlank_comp_asciiLower : isBlank ∘ Storygraph.asciiLower = isBlank :=
  funext isBlank_asciiLower

theorem trimStart_asciiLower (t : Text) : trimStart t.asciiLower = (trimStart t).asciiLower := by
  rw [trimStart, asciiLower, List.dropWhile_map, isBlank_comp_asciiLower]
  rfl

theorem trimEnd_asciiLower (t : Text) : trimEnd t.asciiLower = (trimEnd t).asciiLower := by
  rw [trimEnd, asciiLower, ← List.map_reverse, List.dropWhile_map, isBlank_comp_asciiLower,
    ← List.map_reverse]
  rfl

theorem trim_asciiLower (t : Text) : trim t.asciiLower = (trim t).asciiLower := by
  rw [trim, trimStart_asciiLower, trimEnd_asciiLower]
  rfl

theorem asciiLower_eq_nil_iff {t : Text} : t.asciiLower = [] ↔ t = [] := List.map_eq_nil_iff

theorem lineFeeds_asciiLower (t : Text) : lineFeeds t.asciiLower = lineFeeds t := by
  rw [lineFeeds, lineFeeds, List.count_eq_countP, List.count_eq_countP, asciiLower,
    List.countP_map]
  exact List.countP_congr fun c _ => by
    rw [Function.comp_apply, beq_iff_eq, beq_iff_eq, asciiLower_eq_iff (by decide)]

theorem consHead_asciiLower (c : Char) (ts : List Text) :
    consHead (Storygraph.asciiLower c) (ts.map asciiLower) = (consHead c ts).map asciiLower := by
  cases ts <;> rfl

theorem lines_asciiLower (t : Text) : lines t.asciiLower = (lines t).map asciiLower := by
  induction t with
  | nil => rfl
  | cons c t ih =>
    change lines (Storygraph.asciiLower c :: asciiLower t) = _
    by_cases feed : c = '\n'
    · subst feed
      exact congrArg ([] :: ·) ih
    · rw [lines_cons _ feed, lines_cons _ (mt (asciiLower_eq_iff (by decide)).mp feed), ih,
        consHead_asciiLower]

end Text

theorem pieces_asciiLower (t : Text) : pieces t.asciiLower = (pieces t).map Text.asciiLower := by
  fun_induction pieces t with
  | case1 t ih => exact congrArg ([] :: ·) ih
  | case2 c t other ih =>
    change pieces (asciiLower c :: Text.asciiLower t) = _
    rw [← Text.consHead_asciiLower, ← ih]
    refine pieces_cons fun rest feed below => ?_
    have dash {d : Char} : asciiLower d = '-' ↔ d = '-' := asciiLower_eq_iff (by decide)
    obtain ⟨d₁, t, rfl, first, below⟩ := List.map_eq_cons_iff.mp below
    obtain ⟨d₂, t, rfl, second, below⟩ := List.map_eq_cons_iff.mp below
    obtain ⟨d₃, t, rfl, third, below⟩ := List.map_eq_cons_iff.mp below
    obtain ⟨last, t, rfl, next, -⟩ := List.map_eq_cons_iff.mp below
    rw [dash] at first second third
    rw [asciiLower_eq_iff (by decide)] at feed next
    subst first second third next
    exact other t feed rfl
  | case3 => rfl

/-! ### Kinds of lines -/

theorem opensWithIf_asciiLower (t : Text) : opensWithIf t.asciiLower = opensWithIf t := by
  match t with
  | [] | [_] => rfl
  | i :: f :: rest =>
    have start : (Text.asciiLower rest).head?.any isBlank = rest.head?.any isBlank := by
      rw [Text.asciiLower, List.head?_map, Option.any_map]
      simp only [isBlank_asciiLower]
    have shown : (Text.trimStart (Text.asciiLower rest)).isEmpty = (Text.trimStart rest).isEmpty := by
      rw [Text.trimStart_asciiLower, Text.asciiLower, List.isEmpty_map]
    change (asciiLower (asciiLower i) == 'i' && asciiLower (asciiLower f) == 'f' &&
      (Text.asciiLower rest).head?.any isBlank && !(Text.trimStart (Text.asciiLower rest)).isEmpty) = _
    rw [asciiLower_asciiLower, asciiLower_asciiLower, start, shown]
    rfl

theorem isHeader_asciiLower (t : Text) : isHeader t.asciiLower = isHeader t := by
  rw [isHeader, isHeader, opensWithIf_asciiLower, Text.sameAscii_asciiLower]

theorem isEnd_asciiLower (t : Text) : isEnd t.asciiLower = isEnd t :=
  Text.sameAscii_asciiLower t _

theorem isMetadata_asciiLower (t : Text) : isMetadata t.asciiLower = isMetadata t := by
  rw [isMetadata, isMetadata, Text.startsWithAscii_asciiLower, Text.startsWithAscii_asciiLower]

theorem Part.begunBy?_asciiLower (t : Text) : begunBy? t.asciiLower = begunBy? t := by
  rw [begunBy?, begunBy?, Text.sameAscii_asciiLower, Text.sameAscii_asciiLower]

/-! ### Items -/

def Line.asciiLower (l : Line) : Line := { l with text := l.text.asciiLower }

def Conditional.asciiLower (b : Conditional) : Conditional where
  header := b.header.asciiLower
  content := b.content.asciiLower
  whenTrue := b.whenTrue.map Line.asciiLower
  whenFalse := b.whenFalse.map Line.asciiLower

def Item.asciiLower : Item → Item
  | .line l => .line l.asciiLower
  | .conditional b => .conditional b.asciiLower

def Warning.asciiLower (w : Warning) : Warning := { w with message := w.message.asciiLower }

theorem Warning.asciiLower_comp : Warning.asciiLower ∘ Warning.asciiLower = Warning.asciiLower :=
  funext fun w => congrArg (Warning.mk w.code · w.line) (Text.asciiLower_idem w.message)

def Segment.asciiLower : Segment → Segment
  | .line l => .line l.asciiLower
  | .block header body ending =>
    .block header.asciiLower (body.map Line.asciiLower) (ending.map Line.asciiLower)

theorem Part.latest_asciiLower (body : List Line) :
    latest (body.map Line.asciiLower) = latest body := by
  rw [latest, latest, List.filterMap_map]
  exact congrArg (fun parts => (List.getLast? parts).getD heading)
    (List.filterMap_congr fun l _ => begunBy?_asciiLower l.text)

/-- Lines picked by what they are and what stands before them, where letter case does not count. -/
theorem filter_zipIdx_asciiLower (keep : List Line → Line → Bool)
    (blind : ∀ before l, keep (before.map Line.asciiLower) l.asciiLower = keep before l)
    (body : List Line) :
    ((body.map Line.asciiLower).zipIdx.filter fun (l, i) =>
        keep ((body.map Line.asciiLower).take i) l).map Prod.fst =
      ((body.zipIdx.filter fun (l, i) => keep (body.take i) l).map Prod.fst).map
        Line.asciiLower := by
  rw [List.zipIdx_map, List.filter_map, List.map_map, List.map_map]
  refine congrArg (List.map (Line.asciiLower ∘ Prod.fst)) (List.filter_congr fun place _ => ?_)
  exact (congrArg (keep · _) List.map_take.symm).trans (blind _ _)

theorem Part.linesOf_asciiLower (part : Part) (body : List Line) :
    linesOf part (body.map Line.asciiLower) = (linesOf part body).map Line.asciiLower :=
  filter_zipIdx_asciiLower (fun before l => (begunBy? l.text).isNone && latest before == part)
    (fun before l => by rw [latest_asciiLower, Line.asciiLower, begunBy?_asciiLower]) body

theorem nestedIn_asciiLower (body : List Line) :
    nestedIn (body.map Line.asciiLower) = (nestedIn body).map Line.asciiLower :=
  filter_zipIdx_asciiLower
    (fun before l => (Part.begunBy? l.text).isNone && Part.latest before != .heading &&
      isHeader l.text)
    (fun before l => by
      rw [Part.latest_asciiLower, Line.asciiLower, Part.begunBy?_asciiLower, isHeader_asciiLower])
    body

theorem optionsOf_asciiLower (body : List Line) :
    optionsOf (body.map Line.asciiLower) = (optionsOf body).map Line.asciiLower := by
  rw [optionsOf, optionsOf, List.takeWhile_map, List.filter_map]
  simp only [Function.comp_def, Line.asciiLower, Part.begunBy?_asciiLower, isMetadata_asciiLower]

namespace Warning

theorem nested_asciiLower (line : Nat) (header : Text) :
    nested line header.asciiLower = (nested line header).asciiLower := by
  simp only [nested, asciiLower, Text.asciiLower_append]
  rfl

theorem unterminated_asciiLower (line : Nat) (header : Text) :
    unterminated line header.asciiLower = (unterminated line header).asciiLower := by
  simp only [unterminated, asciiLower, Text.asciiLower_append]
  rfl

end Warning

namespace Segment

theorem lines_asciiLower (segment : Segment) :
    segment.asciiLower.lines = segment.lines.map Line.asciiLower := by
  cases segment with
  | line l => rfl
  | block header body ending => cases ending <;> simp [asciiLower, lines]

theorem WellFormed.asciiLower {segment : Segment} (formed : segment.WellFormed) :
    segment.asciiLower.WellFormed := by
  cases segment with
  | line l => exact (isHeader_asciiLower l.text).trans formed
  | block header body ending =>
    obtain ⟨opens, inside, closes⟩ := formed
    refine ⟨(isHeader_asciiLower header.text).trans opens, ?_, ?_⟩
    · intro l member
      obtain ⟨l, original, rfl⟩ := List.mem_map.mp member
      exact (isEnd_asciiLower l.text).trans (inside l original)
    · intro l member
      obtain ⟨l, original, rfl⟩ := Option.mem_map.mp member
      exact (isEnd_asciiLower l.text).trans (closes l original)

theorem Closed.asciiLower {segment : Segment} (closed : segment.Closed) :
    segment.asciiLower.Closed := by
  cases segment with
  | line l => trivial
  | block header body ending => simpa [Segment.asciiLower, Closed] using closed

theorem Row.asciiLower {segments : List Segment} (row : Row segments) :
    Row (segments.map Segment.asciiLower) := by
  constructor
  · intro segment member
    obtain ⟨segment, original, rfl⟩ := List.mem_map.mp member
    exact (row.wellFormed segment original).asciiLower
  · intro segment member
    rw [← List.map_dropLast] at member
    obtain ⟨segment, original, rfl⟩ := List.mem_map.mp member
    exact (row.closed segment original).asciiLower

theorem item_asciiLower (segment : Segment) : segment.asciiLower.item = segment.item.asciiLower := by
  cases segment with
  | line l => rfl
  | block header body ending =>
    have content : (optionsOf (body.map Line.asciiLower)).flatMap (fun l => '\n' :: l.text) =
        Text.asciiLower ((optionsOf body).flatMap fun l => '\n' :: l.text) := by
      rw [optionsOf_asciiLower, List.flatMap_map, Text.asciiLower, List.map_flatMap]
      rfl
    simp only [asciiLower, item, Item.asciiLower, Conditional.asciiLower, content,
      Part.linesOf_asciiLower, Text.asciiLower_append]
    rfl

theorem warnings_asciiLower (segment : Segment) :
    segment.asciiLower.warnings = segment.warnings.map Warning.asciiLower := by
  cases segment with
  | line l =>
    rw [asciiLower, warnings, warnings, Line.asciiLower, isEnd_asciiLower]
    split <;> rfl
  | block header body ending =>
    rw [asciiLower, warnings, warnings, List.map_append, nestedIn_asciiLower, Option.isNone_map,
      List.map_map, List.map_map]
    refine congrArg₂ (· ++ ·) (List.map_congr_left fun l _ => ?_) ?_
    · exact Warning.nested_asciiLower l.number l.text
    · split
      · exact congrArg (fun w => [w]) (Warning.unterminated_asciiLower header.number header.text)
      · rfl

end Segment

theorem ofLines_asciiLower (lines : List Line) :
    items (lines.map Line.asciiLower) = (items lines).map Item.asciiLower ∧
      itemWarnings (lines.map Line.asciiLower) = (itemWarnings lines).map Warning.asciiLower := by
  obtain ⟨segments, row, rfl⟩ := exists_segments lines
  have cut : (segments.flatMap Segment.lines).map Line.asciiLower =
      (segments.map Segment.asciiLower).flatMap Segment.lines := by
    rw [List.map_flatMap, List.flatMap_map]
    simp only [Segment.lines_asciiLower]
  rw [items, items, itemWarnings, itemWarnings, cut, Scan.ofLines_segments _ _ row,
    Scan.ofLines_segments _ _ row.asciiLower]
  constructor
  · simp [Segment.item_asciiLower]
  · simp [List.map_flatMap, List.flatMap_map, Segment.warnings_asciiLower]

/-! ### Graphs -/

def Node.asciiLower (n : Node) : Node := { n with content := n.content.asciiLower }

theorem Node.asciiLower_comp : Node.asciiLower ∘ Node.asciiLower = Node.asciiLower :=
  funext fun n => congrArg (Node.mk n.id n.kind) (Text.asciiLower_idem n.content)

def Graph.asciiLower (g : Graph) : Graph :=
  { g with name := g.name.asciiLower, nodes := g.nodes.map Node.asciiLower }

def Compilation.asciiLower (r : Compilation) : Compilation :=
  ⟨r.sections.map Graph.asciiLower, r.warnings.map Warning.asciiLower⟩

namespace Draft

def asciiLower (d : Draft) : Draft := { d with nodes := d.nodes.map Node.asciiLower }

theorem empty_asciiLower : empty.asciiLower = empty := by
  rw [asciiLower, empty, Array.map_empty]

variable {c : Classifier}

theorem add_asciiLower (d : Draft) (kind : Kind) (content : Text) :
    d.asciiLower.add kind content.asciiLower = (d.add kind content).asciiLower := by
  rw [add, asciiLower, asciiLower, add, Array.map_push]
  rfl

theorem addLine_asciiLower (blind : c.CaseBlind) (d : Draft) (line : Line) :
    d.asciiLower.addLine c line.asciiLower = (d.addLine c line).asciiLower := by
  rw [addLine, addLine, Line.asciiLower, blind.classify_asciiLower]
  split
  · rfl
  · exact d.add_asciiLower _ _

theorem foldl_addLine_asciiLower (blind : c.CaseBlind) (d : Draft) (lines : List Line) :
    (lines.map Line.asciiLower).foldl (addLine c) d.asciiLower =
      (lines.foldl (addLine c) d).asciiLower := by
  rw [List.foldl_map]
  exact List.foldl_hom asciiLower fun d line => addLine_asciiLower blind d line

theorem addBranch_asciiLower (blind : c.CaseBlind) (origin : NodeId) (d : Draft)
    (lines : List Line) : d.asciiLower.addBranch c origin (lines.map Line.asciiLower) =
      (d.addBranch c origin lines).asciiLower := by
  have start : ({ d.asciiLower with ends := [origin] } : Draft) =
      asciiLower { d with ends := [origin] } := rfl
  simp only [addBranch, start, foldl_addLine_asciiLower blind]
  rw [apply_ite asciiLower]
  rfl

theorem addItem_asciiLower (blind : c.CaseBlind) (d : Draft) (item : Item) :
    d.asciiLower.addItem c item.asciiLower = (d.addItem c item).asciiLower := by
  cases item with
  | line line => exact addLine_asciiLower blind d line
  | conditional block =>
    simp only [Item.asciiLower, Conditional.asciiLower, addItem, add_asciiLower,
      addBranch_asciiLower blind]
    rfl

theorem foldl_addItem_asciiLower (blind : c.CaseBlind) (d : Draft) (items : List Item) :
    (items.map Item.asciiLower).foldl (addItem c) d.asciiLower =
      (items.foldl (addItem c) d).asciiLower := by
  rw [List.foldl_map]
  exact List.foldl_hom asciiLower fun d item => addItem_asciiLower blind d item

end Draft

/-! ### Sections -/

namespace Section

def asciiLower (s : Section) : Section := { s with text := s.text.asciiLower }

theorem ofPieces_asciiLower (index line : Nat) (ps : List Text) :
    ofPieces index line (ps.map Text.asciiLower) =
      (ofPieces index line ps).map asciiLower := by
  induction ps generalizing index line with
  | nil => rfl
  | cons p ps ih =>
    have start : Text.lineFeeds (p.asciiLower.takeWhile isBlank) =
        Text.lineFeeds (p.takeWhile isBlank) := by
      rw [Text.asciiLower, List.takeWhile_map, Text.isBlank_comp_asciiLower]
      exact Text.lineFeeds_asciiLower _
    simp only [List.map_cons, ofPieces, Text.trim_asciiLower, Text.asciiLower_eq_nil_iff,
      Text.lineFeeds_asciiLower, start, ih]
    split <;> rfl

theorem split_asciiLower (document : Text) :
    split document.asciiLower = (split document).map asciiLower := by
  rw [split, pieces_asciiLower, ofPieces_asciiLower, split]

theorem numberLines_asciiLower (first : Nat) (texts : List Text) :
    numberLines first (texts.map Text.asciiLower) =
      (numberLines first texts).map Line.asciiLower := by
  rw [numberLines, numberLines, List.zipIdx_map, List.map_map, List.map_map]
  rfl

theorem lines_asciiLower (s : Section) : s.asciiLower.lines = s.lines.map Line.asciiLower := by
  have trimmed : ((Text.lines s.text).map Text.asciiLower).map Text.trim =
      ((Text.lines s.text).map Text.trim).map Text.asciiLower := by
    rw [List.map_map, List.map_map]
    exact List.map_congr_left fun t _ => Text.trim_asciiLower t
  rw [lines, asciiLower, Text.lines_asciiLower, trimmed, numberLines_asciiLower]
  rfl

/-! ### Names -/

theorem declaredName?_asciiLower (t : Text) :
    declaredName? t.asciiLower = (declaredName? t).map Text.asciiLower := by
  have rest : List.drop nameMark.length t.asciiLower =
      Text.asciiLower (List.drop nameMark.length t) := List.map_drop.symm
  have blank : ∀ s : Text, (Text.asciiLower s).any (fun c => isBlank c && c ≠ '\n') =
      s.any fun c => isBlank c && c ≠ '\n' := by
    intro s
    rw [Text.asciiLower, List.any_map]
    exact List.any_congr rfl fun c => by
      simp only [Function.comp_apply, isBlank_asciiLower, ne_eq,
        asciiLower_eq_iff (d := '\n') (by decide)]
  rw [declaredName?, declaredName?, Text.startsWithAscii_asciiLower]
  simp only [rest, Text.trimStart_asciiLower, blank]
  split
  · cases Text.trimStart (List.drop nameMark.length t) with
    | nil =>
      change (if _ then _ else _) = Option.map _ (if _ then _ else _)
      split <;> rfl
    | cons c body =>
      have line : (Text.asciiLower (c :: body)).takeWhile (· ≠ '\n') =
          Text.asciiLower ((c :: body).takeWhile (· ≠ '\n')) := by
        rw [Text.asciiLower, List.takeWhile_map]
        simp only [Function.comp_def, ne_eq, asciiLower_eq_iff (d := '\n') (by decide)]
        rfl
      exact congrArg some ((congrArg Text.trim line).trans (Text.trim_asciiLower _))
  · rfl

theorem firstName?_cons (lineStart : Bool) (c : Char) (t : Text) :
    firstName? lineStart (c :: t) =
      (if lineStart then declaredName? (c :: t) else none).or (firstName? (c = '\n') t) := by
  rw [firstName?]
  cases if lineStart then declaredName? (c :: t) else none <;> rfl

theorem firstName?_asciiLower (lineStart : Bool) (t : Text) :
    firstName? lineStart t.asciiLower = (firstName? lineStart t).map Text.asciiLower := by
  induction t generalizing lineStart with
  | nil => rfl
  | cons c t ih =>
    have here : (if lineStart then declaredName? (Text.asciiLower (c :: t)) else none) =
        (if lineStart then declaredName? (c :: t) else none).map Text.asciiLower := by
      rw [declaredName?_asciiLower]
      cases lineStart <;> rfl
    have feed : decide (Storygraph.asciiLower c = '\n') = decide (c = '\n') :=
      decide_eq_decide.mpr (asciiLower_eq_iff (by decide))
    change firstName? lineStart (Storygraph.asciiLower c :: Text.asciiLower t) = _
    rw [firstName?_cons, firstName?_cons, feed, ih]
    change (if lineStart then declaredName? (Text.asciiLower (c :: t)) else none).or _ = _
    rw [here, Option.map_or]

theorem name_asciiLower (s : Section) : s.asciiLower.name.asciiLower = s.name.asciiLower := by
  rw [name, name, nameOf, nameOf, asciiLower, firstName?_asciiLower]
  cases firstName? true s.text with
  | none => rfl
  | some name => exact Text.asciiLower_idem name

theorem graph_asciiLower {c : Classifier} (blind : c.CaseBlind) (s : Section) :
    (s.asciiLower.graph c).asciiLower = (s.graph c).asciiLower := by
  have drafted := Draft.foldl_addItem_asciiLower blind .empty (items s.lines)
  rw [Draft.empty_asciiLower] at drafted
  rw [graph, graph, lines_asciiLower, (ofLines_asciiLower s.lines).1, drafted]
  simp only [Graph.asciiLower, Draft.asciiLower, Array.toList_map, List.map_map,
    Node.asciiLower_comp, name_asciiLower]

theorem warnings_asciiLower (s : Section) :
    s.asciiLower.warnings = s.warnings.map Warning.asciiLower := by
  rw [warnings, lines_asciiLower, (ofLines_asciiLower s.lines).2, warnings]

end Section

/-- Under a classifier that does not look at letter case, a document in small letters compiles to
what the document compiles to, up to letter case. -/
theorem Compilation.asciiLower_ofDocument {c : Classifier} (blind : c.CaseBlind) (d : Text) :
    (ofDocument c d.asciiLower).asciiLower = (ofDocument c d).asciiLower := by
  have graphs : ∀ s : Section, (s.asciiLower.graph c).asciiLower = (s.graph c).asciiLower :=
    Section.graph_asciiLower blind
  simp only [ofDocument, asciiLower, Section.split_asciiLower, List.map_map, List.flatMap_map,
    List.map_flatMap, Section.warnings_asciiLower, Warning.asciiLower_comp]
  exact congrArg (Compilation.mk · _) (List.map_congr_left fun s _ => graphs s)

/-- With the rulebook that is used where none is given, documents that differ in ASCII letter case
alone have the same sections, nodes, edges and warnings, up to the case of their texts. -/
theorem ofDocument_builtin_congr {d d' : Text} (same : d.asciiLower = d'.asciiLower) :
    (Compilation.ofDocument .builtin d).asciiLower =
      (Compilation.ofDocument .builtin d').asciiLower := by
  rw [← Compilation.asciiLower_ofDocument Classifier.caseBlind_builtin, same,
    Compilation.asciiLower_ofDocument Classifier.caseBlind_builtin]

/-- The keywords and the mark of the name are written in both cases. The long s, which is not ASCII,
stands in both documents, and for the patterns it is a small s. -/
theorem ofDocument_builtin_congr_shouted :
    let d : Text := "Name: Inn\nſTART\nIf open\nTRUE:\n  Call Kai\nfalse:\nENDIF\nendif".toList
    let d' : Text := "nAME: inn\nſtart\niF OPEN\ntrue:\n  cALL kAI\nFALSE:\nendif\nEndIf".toList
    d.asciiLower = d'.asciiLower ∧
      (Compilation.ofDocument .builtin d).asciiLower =
        (Compilation.ofDocument .builtin d').asciiLower ∧
      (Compilation.ofDocument .builtin d').sections.map (fun g => (g.name, g.nodes)) =
        [("inn".toList, [⟨⟨0⟩, .start, "ſtart".toList⟩, ⟨⟨1⟩, .condition, "iF OPEN".toList⟩,
          ⟨⟨2⟩, .function, "cALL kAI".toList⟩, ⟨⟨3⟩, .finish, "EndIf".toList⟩])] ∧
      (Compilation.ofDocument .builtin d').warnings = [.strayEnd 8] := by
  intro d d'
  have same : d.asciiLower = d'.asciiLower := by decide +kernel
  exact ⟨same, ofDocument_builtin_congr same, by decide +kernel, by decide +kernel⟩

end Storygraph
