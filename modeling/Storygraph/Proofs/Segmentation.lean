import Mathlib.Data.List.Induction
import Mathlib.Data.List.TakeWhile
import Storygraph.Item
import Storygraph.Proofs.Lines

/-!
# Segments

The grammar that a scan reads: some lines are a row of segments, each a line by itself or a
conditional with its body. `run_segments` says what a scan makes of a row of segments, and
`items_eq_iff_segments` that the items of some lines are those of their segments and nothing else.
-/

namespace Storygraph

namespace Part

def latest (before : List Line) : Part :=
  ((before.filterMap fun l => begunBy? l.text).getLast?).getD .heading

/-- The lines of a body that are no markers and whose latest marker before them begins the part. -/
def linesOf (part : Part) (body : List Line) : List Line :=
  (body.zipIdx.filter fun (l, i) =>
    (begunBy? l.text).isNone && latest (body.take i) == part).map Prod.fst

end Part

def optionsOf (body : List Line) : List Line :=
  (body.takeWhile fun l => (Part.begunBy? l.text).isNone).filter fun l => isMetadata l.text

def nestedIn (body : List Line) : List Line :=
  (body.zipIdx.filter fun (l, i) =>
    (Part.begunBy? l.text).isNone && Part.latest (body.take i) != .heading &&
      isHeader l.text).map Prod.fst

/-- A stretch of lines that makes one item. -/
inductive Segment where
  | line (line : Line)
  /-- A header, the lines of the body, and the `endif` if there is one. -/
  | block (header : Line) (body : List Line) (ending : Option Line)

namespace Segment

def lines : Segment → List Line
  | line l => [l]
  | block header body ending => header :: body ++ ending.toList

/-- A header begins a block, and the first `endif` after it ends the block. -/
def WellFormed : Segment → Prop
  | line l => isHeader l.text = false
  | block header body ending =>
    isHeader header.text = true ∧ (∀ l ∈ body, isEnd l.text = false) ∧
      ∀ l ∈ ending, isEnd l.text = true

def Closed : Segment → Prop
  | line _ => True
  | block _ _ ending => ending ≠ none

structure Row (segments : List Segment) : Prop where
  wellFormed : ∀ segment ∈ segments, segment.WellFormed
  closed : ∀ segment ∈ segments.dropLast, segment.Closed

def item : Segment → Item
  | line l => .line l
  | block header body _ => .conditional {
      header
      content := header.text ++ (optionsOf body).flatMap fun l => '\n' :: l.text
      whenTrue := Part.linesOf .whenTrue body
      whenFalse := Part.linesOf .whenFalse body }

def warnings : Segment → List Warning
  | line l => if isEnd l.text then [.strayEnd l.number] else []
  | block header body ending =>
    (nestedIn body).map (fun l => .nested l.number l.text) ++
      if ending.isNone then [.unterminated header.number header.text] else []

end Segment

namespace Segment.Row

theorem cons {segment : Segment} {rest : List Segment} (row : Row rest)
    (wellFormed : segment.WellFormed) (closed : segment.Closed) : Row (segment :: rest) := by
  constructor
  · rintro other (_ | ⟨_, member⟩)
    · exact wellFormed
    · exact row.wellFormed other member
  · cases rest with
    | nil => simp
    | cons next rest =>
      rintro other (_ | ⟨_, member⟩)
      · exact closed
      · exact row.closed other member

theorem tail {segment : Segment} {rest : List Segment} (row : Row (segment :: rest)) :
    Row rest := by
  constructor
  · exact fun other member => row.wellFormed other (List.mem_cons_of_mem _ member)
  · intro other member
    cases rest with
    | nil => nomatch member
    | cons next rest => exact row.closed other (List.mem_cons_of_mem _ member)

end Segment.Row

/-! ### Bodies that grow by a line -/

namespace Part

theorem begunBy?_ne_heading (t : Text) : begunBy? t ≠ some .heading := by
  unfold begunBy?
  split
  · exact fun h => nomatch h
  · split <;> exact fun h => nomatch h

theorem latest_concat (body : List Line) (line : Line) :
    latest (body ++ [line]) = (begunBy? line.text).getD (latest body) := by
  unfold latest
  rw [List.filterMap_append]
  cases h : begunBy? line.text with
  | none => simp [h]
  | some part => simp [h]

/-- Up to the first marker, and no further, the heading goes on. -/
theorem latest_eq_heading_iff (body : List Line) :
    latest body = .heading ↔ ∀ l ∈ body, begunBy? l.text = none := by
  induction body using List.reverseRecOn with
  | nil => simp [latest]
  | append_singleton body line ih =>
    rw [latest_concat]
    cases h : begunBy? line.text with
    | none =>
      rw [Option.getD_none, ih]
      simp [or_imp, forall_and, h]
    | some part =>
      have other : part ≠ .heading := fun same => begunBy?_ne_heading line.text (same ▸ h)
      simp [other, h]

end Part

/-- Picking lines by what stands before them: one more line leaves the earlier choices alone. -/
theorem filter_zipIdx_concat (keep : List Line → Line → Bool) (body : List Line) (line : Line) :
    (((body ++ [line]).zipIdx.filter fun (l, i) => keep ((body ++ [line]).take i) l).map Prod.fst) =
      ((body.zipIdx.filter fun (l, i) => keep (body.take i) l).map Prod.fst) ++
        if keep body line then [line] else [] := by
  have earlier : body.zipIdx.filter (fun (l, i) => keep ((body ++ [line]).take i) l) =
      body.zipIdx.filter fun (l, i) => keep (body.take i) l := by
    apply List.filter_congr
    rintro ⟨l, i⟩ member
    have bound : i ≤ body.length := by
      have := List.snd_lt_of_mem_zipIdx member
      omega
    simp only [List.take_append_of_le_length bound]
  rw [List.zipIdx_append, List.filter_append, List.map_append, earlier]
  congr 1
  by_cases kept : keep body line = true
  · simp [kept]
  · simp [kept]

theorem linesOf_concat (part : Part) (body : List Line) (line : Line) :
    part.linesOf (body ++ [line]) = part.linesOf body ++
      if (Part.begunBy? line.text).isNone && Part.latest body == part then [line] else [] :=
  filter_zipIdx_concat (fun before l => (Part.begunBy? l.text).isNone && Part.latest before == part)
    body line

theorem nestedIn_concat (body : List Line) (line : Line) :
    nestedIn (body ++ [line]) = nestedIn body ++
      if (Part.begunBy? line.text).isNone && Part.latest body != .heading && isHeader line.text
      then [line] else [] :=
  filter_zipIdx_concat
    (fun before l => (Part.begunBy? l.text).isNone && Part.latest before != .heading &&
      isHeader l.text) body line

theorem optionsOf_concat (body : List Line) (line : Line) :
    optionsOf (body ++ [line]) = optionsOf body ++
      if (Part.begunBy? line.text).isNone && Part.latest body == .heading && isMetadata line.text
      then [line] else [] := by
  unfold optionsOf
  rw [List.takeWhile_append]
  by_cases heading : Part.latest body = .heading
  · have unmarked := (Part.latest_eq_heading_iff body).mp heading
    have whole : body.takeWhile (fun l => (Part.begunBy? l.text).isNone) = body := by
      apply List.takeWhile_eq_self_iff.mpr
      intro l member
      simp [unmarked l member]
    rw [whole, if_pos rfl, List.filter_append]
    cases marker : Part.begunBy? line.text <;> simp [heading, marker, List.filter_cons]
  · have short : (body.takeWhile fun l => (Part.begunBy? l.text).isNone).length ≠ body.length := by
      intro same
      apply heading
      apply (Part.latest_eq_heading_iff body).mpr
      have whole := (List.takeWhile_prefix fun l : Line =>
        (Part.begunBy? l.text).isNone).eq_of_length same
      intro l member
      simpa using List.takeWhile_eq_self_iff.mp whole l member
    rw [if_neg short]
    simp [heading]

/-! ### What a reading holds -/

namespace Reading

def ofBody (header : Line) (warnings : Array Warning) (body : List Line) : Reading where
  header
  part := Part.latest body
  metadata := (optionsOf body).toArray
  whenTrue := (Part.linesOf .whenTrue body).toArray
  whenFalse := (Part.linesOf .whenFalse body).toArray
  warnings := warnings ++ (nestedIn body).map fun l => Warning.nested l.number l.text

theorem ofBody_nil (header : Line) (warnings : Array Warning) :
    ofBody header warnings [] = start header warnings := by
  simp [ofBody, start, Part.latest, Part.linesOf, optionsOf, nestedIn]

theorem add_ofBody (header : Line) (warnings : Array Warning) (body : List Line) (line : Line) :
    (ofBody header warnings body).add line = ofBody header warnings (body ++ [line]) := by
  obtain ⟨earlier⟩ := warnings
  unfold add ofBody
  rw [Part.latest_concat, linesOf_concat, linesOf_concat, nestedIn_concat, optionsOf_concat]
  cases marker : Part.begunBy? line.text with
  | some part => simp
  | none =>
    cases stands : Part.latest body with
    | heading => by_cases option : isMetadata line.text = true <;> simp [option]
    | whenTrue => by_cases nested : isHeader line.text = true <;> simp [remark, nested]
    | whenFalse => by_cases nested : isHeader line.text = true <;> simp [remark, nested]

theorem foldl_add_start (header : Line) (warnings : Array Warning) (body : List Line) :
    body.foldl add (start header warnings) = ofBody header warnings body := by
  induction body using List.reverseRecOn with
  | nil => rw [ofBody_nil, List.foldl_nil]
  | append_singleton body line ih => rw [List.foldl_append, ih, List.foldl_cons, List.foldl_nil,
      add_ofBody]

theorem finish_append (r : Reading) (body rest : List Line)
    (inside : ∀ l ∈ body, isEnd l.text = false) :
    r.finish (body ++ rest) = (body.foldl add r).finish rest := by
  induction body generalizing r with
  | nil => rfl
  | cons line body ih =>
    have here : isEnd line.text = false := inside line List.mem_cons_self
    rw [List.cons_append, finish, if_neg (by simp [here])]
    exact ih _ fun l member => inside l (List.mem_cons_of_mem _ member)

theorem finish_closed (header : Line) (warnings : Array Warning) (body rest : List Line)
    (ending : Line) (inside : ∀ l ∈ body, isEnd l.text = false) (ends : isEnd ending.text = true) :
    (start header warnings).finish (body ++ ending :: rest) =
      (ofBody header warnings body, rest) := by
  rw [finish_append _ _ _ inside, foldl_add_start, finish, if_pos ends]

theorem finish_open (header : Line) (warnings : Array Warning) (body : List Line)
    (inside : ∀ l ∈ body, isEnd l.text = false) :
    (start header warnings).finish body =
      ({ ofBody header warnings body with
          warnings := warnings ++ Segment.warnings (.block header body none) }, []) := by
  have read := finish_append (start header warnings) body [] inside
  rw [List.append_nil, foldl_add_start] at read
  rw [read, finish]
  obtain ⟨earlier⟩ := warnings
  simp [ofBody, Segment.warnings]

theorem conditional_ofBody (header : Line) (warnings : Array Warning) (body : List Line)
    (ending : Option Line) :
    .conditional (ofBody header warnings body).conditional =
      Segment.item (.block header body ending) := by
  simp [conditional, ofBody, Segment.item, Text.join_cons, List.flatMap_map]

end Reading

/-! ### Scanning segment by segment -/

namespace Scan

def append (s : Scan) (segments : List Segment) : Scan where
  items := s.items ++ segments.map Segment.item
  warnings := s.warnings ++ segments.flatMap Segment.warnings

theorem append_cons (s : Scan) (segment : Segment) (rest : List Segment) :
    s.append (segment :: rest) = (s.append [segment]).append rest := by
  obtain ⟨⟨items⟩, ⟨warnings⟩⟩ := s
  simp [append]

theorem run_cons_line (s : Scan) (line : Line) (rest : List Line)
    (single : isHeader line.text = false) :
    s.run (line :: rest) = (s.append [.line line]).run rest := by
  rw [run, if_neg (by simp [single])]
  congr 1
  obtain ⟨⟨items⟩, ⟨warnings⟩⟩ := s
  unfold addLine append Segment.warnings Segment.item
  by_cases stray : isEnd line.text = true <;> simp [stray]

theorem run_closed (s : Scan) (header ending : Line) (body rest : List Line)
    (wellFormed : (Segment.block header body (some ending)).WellFormed) :
    s.run (header :: (body ++ ending :: rest)) =
      (s.append [.block header body (some ending)]).run rest := by
  obtain ⟨opens, inside, ends⟩ := wellFormed
  rw [run, if_pos opens]
  simp only [Reading.finish_closed header s.warnings body rest ending inside (ends ending rfl)]
  congr 1
  rw [Reading.conditional_ofBody header s.warnings body (some ending)]
  obtain ⟨⟨items⟩, ⟨warnings⟩⟩ := s
  simp [append, Reading.ofBody, Segment.warnings]

theorem run_open (s : Scan) (header : Line) (body : List Line)
    (wellFormed : (Segment.block header body none).WellFormed) :
    s.run (header :: body) = s.append [.block header body none] := by
  obtain ⟨opens, inside, -⟩ := wellFormed
  rw [run, if_pos opens]
  simp only [Reading.finish_open header s.warnings body inside]
  rw [run]
  have made := Reading.conditional_ofBody header s.warnings body none
  simp only [Reading.conditional] at made ⊢
  obtain ⟨⟨items⟩, ⟨warnings⟩⟩ := s
  simp [append, made]

theorem run_segments (s : Scan) (segments : List Segment) (row : Segment.Row segments) :
    s.run (segments.flatMap Segment.lines) = s.append segments := by
  induction segments generalizing s with
  | nil => simp [run, append]
  | cons segment rest ih =>
    have here := row.wellFormed segment List.mem_cons_self
    rw [append_cons, List.flatMap_cons, ← ih _ row.tail]
    cases segment with
    | line line => exact run_cons_line s line _ here
    | block header body ending =>
      cases ending with
      | some ending =>
        rw [← run_closed s header ending body _ here]
        simp [Segment.lines]
      | none =>
        -- An open block is the last segment.
        cases rest with
        | nil =>
          rw [← run_open s header body here]
          simp [Segment.lines, run]
        | cons next rest =>
          have := row.closed (.block header body none) (by simp)
          exact absurd rfl this

theorem ofLines_segments (warnings : Array Warning) (segments : List Segment)
    (row : Segment.Row segments) :
    ofLines warnings (segments.flatMap Segment.lines) =
      ⟨(segments.map Segment.item).toArray, warnings ++ segments.flatMap Segment.warnings⟩ := by
  rw [ofLines, run_segments _ _ row]
  simp [append]

end Scan

/-! ### The segments of given lines -/

theorem exists_block (header : Line) (rest : List Line) (opens : isHeader header.text = true) :
    ∃ body ending after, (Segment.block header body ending).WellFormed ∧
      (Segment.block header body ending).lines ++ after = header :: rest ∧
      (ending = none → after = []) := by
  have split := List.takeWhile_append_dropWhile (l := rest) (p := fun l => !isEnd l.text)
  have inside : ∀ l ∈ rest.takeWhile fun l => !isEnd l.text, isEnd l.text = false := by
    intro l member
    simpa using List.mem_takeWhile_imp member
  cases remaining : rest.dropWhile fun l => !isEnd l.text with
  | nil =>
    rw [remaining, List.append_nil] at split
    rw [split] at inside
    exact ⟨rest, none, [], ⟨opens, inside, by simp⟩, by simp [Segment.lines], fun _ => rfl⟩
  | cons ending after =>
    rw [remaining] at split
    have ends : isEnd ending.text = true := by
      have stopped := List.head_dropWhile_not (l := rest) (fun l : Line => !isEnd l.text)
        (by simp [remaining])
      simpa [remaining] using stopped
    exact ⟨_, some ending, after, ⟨opens, inside, by simpa using ends⟩,
      by simpa [Segment.lines] using split, fun h => nomatch h⟩

theorem exists_segments (lines : List Line) :
    ∃ segments, Segment.Row segments ∧ segments.flatMap Segment.lines = lines := by
  induction size : lines.length using Nat.strong_induction_on generalizing lines with
  | _ n ih =>
    cases lines with
    | nil => exact ⟨[], ⟨by simp, by simp⟩, rfl⟩
    | cons line rest =>
      rw [List.length_cons] at size
      cases opens : isHeader line.text with
      | false =>
        obtain ⟨segments, row, same⟩ := ih rest.length (by omega) rest rfl
        exact ⟨.line line :: segments, row.cons opens trivial, by simp [Segment.lines, same]⟩
      | true =>
        obtain ⟨body, ending, after, wellFormed, whole, last⟩ := exists_block line rest opens
        cases ending with
        | none =>
          rw [last rfl, List.append_nil] at whole
          exact ⟨[.block line body none], ⟨by simpa using wellFormed, by simp⟩, by simpa using whole⟩
        | some ending =>
          have lengths := congrArg List.length whole
          simp only [Segment.lines, List.length_append, List.length_cons] at lengths
          obtain ⟨segments, row, same⟩ := ih after.length (by omega) after rfl
          exact ⟨.block line body (some ending) :: segments,
            row.cons wellFormed (by simp [Segment.Closed]), by rw [List.flatMap_cons, same, whole]⟩

/-- The items of some lines are those of the segments in a row that the lines are made of. -/
theorem items_eq_iff_segments (lines : List Line) (found : List Item) :
    items lines = found ↔ ∃ segments, Segment.Row segments ∧
      segments.flatMap Segment.lines = lines ∧ segments.map Segment.item = found := by
  constructor
  · rintro rfl
    obtain ⟨segments, row, rfl⟩ := exists_segments lines
    refine ⟨segments, row, rfl, ?_⟩
    rw [items, Scan.ofLines_segments _ _ row]
  · rintro ⟨segments, row, rfl, rfl⟩
    rw [items, Scan.ofLines_segments _ _ row]

end Storygraph
