import Mathlib.Data.List.Nodup
import Storygraph.Proofs.Growth
import Storygraph.Proofs.Remarks

/-!
# Headers in headings

A line that looks like a header and stands in a conditional is no header. In a branch it is warned
about; in the heading, before the first marker, nothing is said. `reported_iff` shows that these
are the only headers that are lost without a warning.
-/

namespace Storygraph

def Reported (lines : List Line) (l : Line) : Prop :=
  (∃ block, .conditional block ∈ items lines ∧ block.header = l) ∨
    ∃ w ∈ itemWarnings lines, w.code = .nested ∧ w.line = l.number

/-- A line comes after the header of a conditional, before a marker and before the end. -/
def InHeading (lines : List Line) (l : Line) : Prop :=
  ∃ before block heading after, .conditional block ∈ items lines ∧
    lines = before ++ block.header :: (heading ++ l :: after) ∧
    ∀ m ∈ heading, isEnd m.text = false ∧ Part.begunBy? m.text = none

namespace Segment

def headers : Segment → List Line
  | .line _ => []
  | .block header _ _ => [header]

def heading : Segment → List Line
  | .line _ => []
  | .block _ body _ => Part.linesOf .heading body

end Segment

theorem mem_nestedIn_or_heading {body : List Line} {l : Line} (opens : isHeader l.text = true)
    (member : l ∈ body) : l ∈ nestedIn body ∨ l ∈ Part.linesOf .heading body := by
  induction body using List.reverseRecOn with
  | nil => nomatch member
  | append_singleton body line ih =>
    rw [nestedIn_concat, linesOf_concat]
    rcases List.mem_append.mp member with old | new
    · rcases ih old with nested | heading
      · exact Or.inl (List.mem_append_left _ nested)
      · exact Or.inr (List.mem_append_left _ heading)
    · obtain rfl := List.mem_singleton.mp new
      by_cases stands : Part.latest body = .heading
      · simp [begunBy?_of_isHeader opens, stands]
      · simp [begunBy?_of_isHeader opens, stands, opens]

/-- A line of a body is in the heading or in a branch, not in both. -/
theorem count_heading_add_nested_le (body : List Line) (l : Line) :
    (Part.linesOf .heading body).count l + (nestedIn body).count l ≤ body.count l := by
  have one : ∀ (x : Line) {p q : Bool}, (p && q) = false →
      (if p then [x] else []).count l + (if q then [x] else []).count l ≤ [x].count l := by
    intro x p q apart
    cases p <;> cases q <;> simp at apart ⊢
  induction body using List.reverseRecOn with
  | nil => exact Nat.le_refl _
  | append_singleton body line ih =>
    have added := one line
      (p := (Part.begunBy? line.text).isNone && Part.latest body == .heading)
      (q := (Part.begunBy? line.text).isNone && Part.latest body != .heading && isHeader line.text)
      (by cases stands : Part.latest body <;> simp)
    rw [nestedIn_concat, linesOf_concat]
    simp only [List.count_append]
    omega

theorem mem_heading_iff {body : List Line} {l : Line} (unmarked : Part.begunBy? l.text = none) :
    l ∈ Part.linesOf .heading body ↔ ∃ before after, body = before ++ l :: after ∧
      ∀ m ∈ before, Part.begunBy? m.text = none := by
  induction body using List.reverseRecOn with
  | nil =>
    constructor
    · exact fun member => nomatch member
    · rintro ⟨before, after, shape, -⟩
      simp at shape
  | append_singleton body line ih =>
    rw [linesOf_concat, List.mem_append, ih]
    constructor
    · rintro (⟨before, after, rfl, first⟩ | new)
      · exact ⟨before, after ++ [line], by simp, first⟩
      · split at new
        · rename_i stands
          simp only [Bool.and_eq_true, beq_iff_eq] at stands
          rw [List.mem_singleton.mp new]
          exact ⟨body, [], rfl, (Part.latest_eq_heading_iff body).mp stands.2⟩
        · nomatch new
    · rintro ⟨before, after, shape, first⟩
      rcases concat_eq_append_cons shape with ⟨rfl, rfl, rfl⟩ | ⟨rest, rfl, rfl⟩
      · have stands := (Part.latest_eq_heading_iff before).mpr first
        simp [unmarked, stands]
      · exact Or.inl ⟨before, rest, rfl, first⟩

namespace Segment

variable {segments : List Segment} {l : Line}

theorem count_roles_le (g : Segment) (l : Line) :
    g.headers.count l + g.heading.count l + g.remarked.count l ≤ g.lines.count l := by
  cases g with
  | line m =>
    have kept := (List.filter_sublist (l := [m]) (p := fun l => isEnd l.text)).count_le l
    simpa [headers, heading, remarked, lines] using kept
  | block header body ending =>
    have inside := count_heading_add_nested_le body l
    rw [headers, heading, remarked, lines, List.cons_append, List.count_cons, List.count_cons,
      List.count_append, List.count_nil]
    omega

/-- Headers, the lines of headings and the lines out of place are different lines. -/
theorem count_flatMap_roles_le (segments : List Segment) (l : Line) :
    (segments.flatMap headers).count l + (segments.flatMap heading).count l +
      (segments.flatMap remarked).count l ≤ (segments.flatMap lines).count l := by
  induction segments with
  | nil => exact Nat.le_refl _
  | cons g segments ih =>
    have here := g.count_roles_le l
    simp only [List.flatMap_cons, List.count_append]
    omega

/-- A line that looks like a header is one, or is in a heading, or is remarked on. -/
theorem role_of_isHeader (row : Row segments) (opens : isHeader l.text = true)
    (member : l ∈ segments.flatMap lines) :
    l ∈ segments.flatMap headers ∨ l ∈ segments.flatMap heading ∨
      l ∈ segments.flatMap remarked := by
  obtain ⟨g, of, inside⟩ := List.mem_flatMap.mp member
  have wellFormed := row.wellFormed g of
  cases g with
  | line m =>
    obtain rfl := List.mem_singleton.mp inside
    have single : isHeader l.text = false := wellFormed
    rw [opens] at single
    nomatch single
  | block header body ending =>
    obtain ⟨-, -, ends⟩ := wellFormed
    rcases List.mem_append.mp inside with front | last
    · rcases List.mem_cons.mp front with rfl | inner
      · exact Or.inl (List.mem_flatMap.mpr ⟨_, of, List.mem_cons_self⟩)
      · rcases mem_nestedIn_or_heading opens inner with nested | heading
        · exact Or.inr (Or.inr (List.mem_flatMap.mpr ⟨_, of, nested⟩))
        · exact Or.inr (Or.inl (List.mem_flatMap.mpr ⟨_, of, heading⟩))
    · have closes := ends l (Option.mem_toList.mp last)
      rw [isEnd_eq_false_of_isHeader opens] at closes
      exact absurd closes Bool.false_ne_true

theorem mem_headers_iff :
    l ∈ segments.flatMap headers ↔
      ∃ block, .conditional block ∈ segments.map item ∧ block.header = l := by
  constructor
  · intro member
    obtain ⟨g, of, inside⟩ := List.mem_flatMap.mp member
    cases g with
    | line m => cases inside
    | block header body ending =>
      exact ⟨_, List.mem_map_of_mem (f := item) of, (List.mem_singleton.mp inside).symm⟩
  · rintro ⟨block, made, rfl⟩
    obtain ⟨g, of, shape⟩ := List.mem_map.mp made
    obtain ⟨body, ending, rfl⟩ := eq_block_of_item shape
    exact List.mem_flatMap.mpr ⟨_, of, List.mem_cons_self⟩

end Segment

section Roles

variable {segments : List Segment} {lines : List Line} {l : Line}

theorem reported_iff_mem (row : Segment.Row segments)
    (cut : segments.flatMap Segment.lines = lines) (distinct : (lines.map Line.number).Nodup)
    (member : l ∈ lines) (opens : isHeader l.text = true) :
    Reported lines l ↔
      l ∈ segments.flatMap Segment.headers ∨ l ∈ segments.flatMap Segment.remarked := by
  rw [Reported, items_of_row row cut, itemWarnings_of_row row cut, Segment.mem_headers_iff]
  apply or_congr_right
  constructor
  · rintro ⟨w, warned, nested, place⟩
    rcases List.mem_append.mp warned with remark | last
    · obtain ⟨m, out, rfl⟩ := List.mem_map.mp remark
      have inside := (remarked_sublist_lines cut).mem out
      have same : m.number = l.number := by rw [← place, m.line_remark]
      rw [← List.inj_on_of_nodup_map distinct inside member same]
      exact out
    · obtain ⟨header, -, rfl⟩ := List.mem_map.mp last
      nomatch nested
  · intro out
    refine ⟨l.remark, List.mem_append_left _ (List.mem_map_of_mem out), ?_, l.line_remark⟩
    rw [Line.remark, isEnd_eq_false_of_isHeader opens]
    rfl

/-- Lines that run on without an end, from the first of a body, are in the body. -/
theorem exists_body_eq {body first after rest : List Line} {ending : Option Line}
    (inside : ∀ m ∈ body, isEnd m.text = false) (ends : ∀ m ∈ ending, isEnd m.text = true)
    (last : ending = none → rest = [])
    (shape : body ++ (ending.toList ++ rest) = first ++ l :: after)
    (unended : ∀ m ∈ first, isEnd m.text = false) (runs : isEnd l.text = false) :
    ∃ later, body = first ++ l :: later := by
  refine ⟨after.takeWhile fun m => !isEnd m.text, ?_⟩
  have stop : (ending.toList ++ rest).takeWhile (fun m => !isEnd m.text) = [] := by
    cases ending with
    | none => rw [last rfl]; rfl
    | some ending => simp [ends ending rfl]
  have taken := congrArg (List.takeWhile fun m => !isEnd m.text) shape
  rw [List.takeWhile_append_of_pos (by simpa using inside), stop, List.append_nil,
    List.takeWhile_append_of_pos (by simpa using unended),
    List.takeWhile_cons_of_pos (by simpa using runs)] at taken
  exact taken

theorem inHeading_iff_mem (row : Segment.Row segments)
    (cut : segments.flatMap Segment.lines = lines) (distinct : lines.Nodup)
    (opens : isHeader l.text = true) :
    InHeading lines l ↔ l ∈ segments.flatMap Segment.heading := by
  rw [InHeading, items_of_row row cut, List.mem_flatMap]
  constructor
  · rintro ⟨before, block, first, after, made, shape, clear⟩
    obtain ⟨g, of, same⟩ := List.mem_map.mp made
    obtain ⟨body, ending, rfl⟩ := Segment.eq_block_of_item same
    obtain ⟨-, inside, ends⟩ := row.wellFormed _ of
    obtain ⟨earlier, later, rfl⟩ := List.append_of_mem of
    have split : earlier.flatMap Segment.lines ++
        block.header :: (body ++ (ending.toList ++ later.flatMap Segment.lines)) = lines := by
      rw [← cut]
      simp [Segment.lines]
    have last : ending = none → later.flatMap Segment.lines = [] := by
      rintro rfl
      cases later with
      | nil => rfl
      | cons next later =>
        exact absurd rfl (row.closed (.block block.header body none) (by simp))
    -- Lines occur once, so both ways to cut at the header are one.
    rw [← split] at distinct shape
    have apart := (List.nodup_cons.mp (List.nodup_middle.mp distinct)).1
    rw [List.mem_append, not_or] at apart
    rw [List.append_cons_inj_of_notMem apart.1 apart.2] at shape
    obtain ⟨rest, rfl⟩ := exists_body_eq inside ends last shape.2.2
      (fun m member => (clear m member).1) (isEnd_eq_false_of_isHeader opens)
    exact ⟨_, of, (mem_heading_iff (begunBy?_of_isHeader opens)).mpr
      ⟨first, rest, rfl, fun m member => (clear m member).2⟩⟩
  · rintro ⟨g, of, inside⟩
    cases g with
    | line m => cases inside
    | block header body ending =>
      obtain ⟨-, unended, -⟩ := row.wellFormed _ of
      obtain ⟨first, after, rfl, unmarked⟩ :=
        (mem_heading_iff (begunBy?_of_isHeader opens)).mp inside
      obtain ⟨earlier, later, rfl⟩ := List.append_of_mem of
      refine ⟨earlier.flatMap Segment.lines, _, first,
        after ++ (ending.toList ++ later.flatMap Segment.lines),
        List.mem_map_of_mem (f := Segment.item) of, ?_, ?_⟩
      · rw [← cut]
        simp [Segment.lines]
      · exact fun m member => ⟨unended m (List.mem_append_left _ member), unmarked m member⟩

end Roles

/-- Of lines with different numbers, those that look like headers are reported unless they are in
the heading of a conditional. -/
theorem reported_iff {lines : List Line} {l : Line} (distinct : (lines.map Line.number).Nodup)
    (member : l ∈ lines) (opens : isHeader l.text = true) :
    Reported lines l ↔ ¬InHeading lines l := by
  obtain ⟨segments, row, cut⟩ := exists_segments lines
  have apart := distinct.of_map
  have roles := Segment.count_flatMap_roles_le segments l
  have single := List.nodup_iff_count_le_one.mp apart l
  rw [cut] at roles
  rw [reported_iff_mem row cut distinct member opens, inHeading_iff_mem row cut apart opens]
  constructor
  · intro reported inside
    have heading := List.count_pos_iff.mpr inside
    rcases reported with header | remarked
    · have := List.count_pos_iff.mpr header
      omega
    · have := List.count_pos_iff.mpr remarked
      omega
  · intro outside
    rcases Segment.role_of_isHeader row opens (cut ▸ member) with header | heading | remarked
    · exact Or.inl header
    · exact absurd heading outside
    · exact Or.inr remarked

/-- The second `if` is in the heading, so nothing is said about it. -/
theorem reported_iff_before_marker :
    let lines : List Line := [⟨1, "if a".toList⟩, ⟨2, "if b".toList⟩, ⟨3, "True:".toList⟩,
      ⟨4, "if c".toList⟩, ⟨5, "endif".toList⟩]
    (lines.map Line.number).Nodup ∧ ⟨2, "if b".toList⟩ ∈ lines ∧ isHeader "if b".toList = true ∧
      ¬Reported lines ⟨2, "if b".toList⟩ := by
  intro lines
  have distinct : (lines.map Line.number).Nodup := by decide
  have member : (⟨2, "if b".toList⟩ : Line) ∈ lines := by decide
  have opens : isHeader "if b".toList = true := by decide
  refine ⟨distinct, member, opens, ?_⟩
  rw [reported_iff distinct member opens, not_not]
  have found : items lines = [.conditional ⟨⟨1, "if a".toList⟩, "if a".toList,
      [⟨4, "if c".toList⟩], []⟩] := by decide +kernel
  exact ⟨[], _, [], _, found ▸ List.mem_cons_self, rfl, by simp⟩

/-- A header can be lost without a warning. -/
theorem not_forall_reported :
    ¬∀ lines : List Line, (lines.map Line.number).Nodup →
      ∀ l ∈ lines, isHeader l.text = true → Reported lines l := by
  intro all
  let lines : List Line := [⟨1, "if a".toList⟩, ⟨2, "if b".toList⟩, ⟨3, "endif".toList⟩]
  have reported := all lines (by decide) ⟨2, "if b".toList⟩ (by decide) (by decide)
  have found : items lines = [.conditional ⟨⟨1, "if a".toList⟩, "if a".toList, [], []⟩] := by
    decide +kernel
  have silent : itemWarnings lines = [] := by decide +kernel
  rw [Reported, found, silent] at reported
  simp at reported

end Storygraph
