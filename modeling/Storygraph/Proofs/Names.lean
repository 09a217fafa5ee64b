import Storygraph.Proofs.Lines
import Storygraph.Section

/-!
# Names of sections

The name of a section is the first visible text after its first `name:` mark. `nameOf_eq_nameFrom`
says so by lines, and that the name stands on the line of a mark as long as no mark before the last
line is followed by blanks only. After such a mark the name comes from a line below it.
-/

namespace Storygraph

/-! ### Visible texts -/

namespace Text

def firstVisible? (texts : List Text) : Option Text := (texts.map trim).find? (· ≠ [])

theorem firstVisible?_cons (t : Text) (texts : List Text) :
    firstVisible? (t :: texts) = if trim t ≠ [] then some (trim t) else firstVisible? texts := by
  rw [firstVisible?, List.map_cons, List.find?_cons]
  by_cases blank : trim t = [] <;> simp [blank, firstVisible?]

theorem firstVisible?_append_of_blank {before : List Text} (texts : List Text)
    (blank : ∀ t ∈ before, trim t = []) :
    firstVisible? (before ++ texts) = firstVisible? texts := by
  induction before with
  | nil => rfl
  | cons t before ih =>
    rw [List.cons_append, firstVisible?_cons, if_neg (by simp [blank t])]
    exact ih fun other member => blank other (List.mem_cons_of_mem _ member)

theorem trim_cons_ne_nil {c : Char} (t : Text) (visible : isBlank c = false) :
    trim (c :: t) ≠ [] := by
  intro none
  have := trim_eq_nil_iff.mp none c List.mem_cons_self
  rw [visible] at this
  exact Bool.false_ne_true this

theorem firstVisible?_lines {t body : Text} {c : Char} (start : trimStart t = c :: body) :
    firstVisible? (lines t) = some (trim ((c :: body).takeWhile (· ≠ '\n'))) := by
  have visible : isBlank c = false := by
    have stopped := List.head?_dropWhile_not isBlank t
    rw [show t.dropWhile isBlank = c :: body from start] at stopped
    simpa using stopped
  have inside : c ≠ '\n' := by
    rintro rfl
    revert visible
    decide
  have whole : t.takeWhile isBlank ++ c :: body = t := by
    rw [← start]
    exact List.takeWhile_append_dropWhile
  obtain ⟨before, last, first, after, left, right, joined⟩ :=
    lines_append (t.takeWhile isBlank) (c :: body)
  have blanks : ∀ line ∈ before ++ [last], ∀ d ∈ line, isBlank d = true := fun line of d member =>
    List.mem_takeWhile_imp (mem_of_mem_lines (left ▸ of) member)
  have taken : (c :: body).takeWhile (· ≠ '\n') = first := by
    have clear := notMem_of_mem_lines (right ▸ List.mem_cons_self : first ∈ lines (c :: body))
    have all : ∀ d ∈ first, decide (d ≠ '\n') = true := by
      intro d member
      simpa using fun same : d = '\n' => clear (same ▸ member)
    rcases lines_eq_cons right with ⟨-, same⟩ | ⟨rest, same, -⟩
    · rw [same, List.takeWhile_eq_self_iff.mpr all]
    · rw [same, List.takeWhile_append_of_pos all, List.takeWhile_cons_of_neg (by simp),
        List.append_nil]
  have shown : trim (last ++ first) = trim first :=
    trim_append_left first (blanks last (by simp))
  have nonempty : trim first ≠ [] := by
    rw [← taken, List.takeWhile_cons_of_pos (by simpa using inside)]
    exact trim_cons_ne_nil _ visible
  rw [whole] at joined
  rw [joined, taken, firstVisible?_append_of_blank _ fun line of =>
    trim_eq_nil_iff.mpr (blanks line (List.mem_append_left _ of)), firstVisible?_cons, shown,
    if_pos nonempty]

end Text

/-! ### Marked lines -/

namespace Section

def isMarked (line : Text) : Bool := Text.startsWithAscii line nameMark

def afterMark (line : Text) : Text := line.drop nameMark.length

/-- The first visible text from the first mark on, be it on the line of the mark or below. -/
def nameFrom? : List Text → Option Text
  | [] => none
  | line :: after =>
    if isMarked line then Text.firstVisible? (afterMark line :: after) else nameFrom? after

/-- The name on the line of a mark, for the first mark that has one on its line. -/
def nameOnLine? (lines : List Text) : Option Text :=
  Text.firstVisible? ((lines.filter isMarked).map afterMark)

/-- What comes after a line is no part of its start, if it begins with a character of none. -/
theorem startsWithAscii_append_cons {line start : Text} {c : Char} (rest : Text)
    (other : Storygraph.asciiLower c ∉ Text.asciiLower start) :
    Text.startsWithAscii (line ++ c :: rest) start = Text.startsWithAscii line start := by
  unfold Text.startsWithAscii
  by_cases fits : start.length ≤ line.length
  · rw [List.take_append_of_le_length fits]
  · have short : Text.sameAscii (line.take start.length) start = false := by
      apply beq_false_of_ne
      intro same
      have lengths := congrArg List.length same
      simp only [Text.asciiLower, List.length_map, List.length_take] at lengths
      omega
    rw [short]
    apply beq_false_of_ne
    intro same
    apply other
    have shape : start.length - line.length = start.length - line.length - 1 + 1 := by omega
    rw [← same, List.take_append, shape, List.take_succ_cons, Text.asciiLower, List.map_append]
    exact List.mem_append_right _ List.mem_cons_self

theorem length_of_isMarked {line : Text} (marked : isMarked line = true) :
    nameMark.length ≤ line.length := by
  have lengths := congrArg List.length (eq_of_beq marked)
  simp only [Text.asciiLower, List.length_map, List.length_take] at lengths
  omega

def EndsVisibly (t : Text) : Prop := ∀ c ∈ t.getLast?, isBlank c = false

theorem endsVisibly_of_trim {t : Text} (trimmed : Text.trim t = t) : EndsVisibly t := by
  intro c last
  have nonempty : t ≠ [] := by
    rintro rfl
    nomatch last
  have stops := List.rdropWhile_last_not isBlank (Text.trimStart t) (by
    rw [show (Text.trimStart t).rdropWhile isBlank = t from trimmed]
    exact nonempty)
  simp only [show (Text.trimStart t).rdropWhile isBlank = t from trimmed] at stops
  rw [List.getLast?_eq_some_getLast nonempty] at last
  obtain rfl := Option.some.inj last
  simpa using stops

theorem EndsVisibly.of_append {a b : Text} (ends : EndsVisibly (a ++ b)) : EndsVisibly b := by
  intro c last
  apply ends c
  rw [List.getLast?_append, show b.getLast? = some c from last]
  rfl

theorem EndsVisibly.eq_nil {t : Text} (ends : EndsVisibly t) (blank : Text.trimStart t = []) :
    t = [] := by
  by_contra nonempty
  have all := List.dropWhile_eq_nil_iff.mp blank (t.getLast nonempty) (List.getLast_mem nonempty)
  rw [ends _ (List.getLast?_eq_some_getLast nonempty)] at all
  exact Bool.false_ne_true all

/-- What a text declares at its start depends on its lines alone. -/
theorem declaredName?_eq {t line : Text} {after : List Text}
    (shape : Text.lines t = line :: after) (ends : EndsVisibly t) :
    declaredName? t =
      if isMarked line then Text.firstVisible? (afterMark line :: after) else none := by
  have mark : Text.startsWithAscii t nameMark = isMarked line := by
    rcases Text.lines_eq_cons shape with ⟨-, rfl⟩ | ⟨rest, rfl, -⟩
    · rfl
    · exact startsWithAscii_append_cons rest (by decide)
  rw [declaredName?, mark]
  split
  · rename_i marked
    have fits := length_of_isMarked marked
    have split : t = t.take nameMark.length ++ t.drop nameMark.length :=
      (List.take_append_drop _ t).symm
    have below : EndsVisibly (t.drop nameMark.length) := (split ▸ ends).of_append
    have remaining : Text.lines (t.drop nameMark.length) = afterMark line :: after := by
      have single := Text.notMem_of_mem_lines (shape ▸ List.mem_cons_self : line ∈ Text.lines t)
      have clear : '\n' ∉ afterMark line := fun member => single (List.mem_of_mem_drop member)
      rcases Text.lines_eq_cons shape with ⟨rfl, rfl⟩ | ⟨rest, rfl, rfl⟩
      · exact Text.lines_of_notMem clear
      · rw [List.drop_append_of_le_length fits]
        exact Text.lines_append_cons clear
    cases start : Text.trimStart (t.drop nameMark.length) with
    | nil =>
      rw [below.eq_nil start] at remaining ⊢
      rw [← remaining]
      rfl
    | cons c body =>
      rw [← remaining, Text.firstVisible?_lines start]
      simp only [start]
  · rfl

/-! ### Names by lines -/

theorem firstName?_true (t : Text) :
    firstName? true t = (declaredName? t).or (firstName? false t) := by
  cases t with
  | nil => rfl
  | cons c t =>
    simp only [firstName?, if_true, Bool.false_eq_true, if_false]
    cases declaredName? (c :: t) <;> rfl

theorem firstName?_false {line : Text} (single : '\n' ∉ line) (rest : Text) :
    firstName? false line = none ∧
      firstName? false (line ++ '\n' :: rest) = firstName? true rest := by
  induction line with
  | nil => exact ⟨rfl, rfl⟩
  | cons c line ih =>
    rw [List.mem_cons, not_or] at single
    have other : decide (c = '\n') = false := decide_eq_false (Ne.symm single.1)
    rw [List.cons_append, firstName?, firstName?, other]
    exact ih single.2

theorem asciiLower_of_isBlank {c : Char} (blank : isBlank c = true) : asciiLower c = c := by
  apply if_neg
  rintro ⟨low, high⟩
  have low : 65 ≤ c.toNat := low
  have high : c.toNat ≤ 90 := high
  simp [isBlank, blankRanges] at blank
  omega

theorem trim_ne_nil_of_isMarked {line : Text} (marked : isMarked line = true) :
    Text.trim line ≠ [] := by
  cases line with
  | nil => exact absurd marked (by decide)
  | cons c line =>
    have first : asciiLower c = 'n' := (List.cons.inj (eq_of_beq marked)).1
    apply Text.trim_cons_ne_nil
    cases blank : isBlank c with
    | false => rfl
    | true =>
      rw [asciiLower_of_isBlank blank] at first
      rw [first] at blank
      revert blank
      decide

theorem nameFrom?_eq_none {lines : List Text} (blank : Text.firstVisible? lines = none) :
    nameFrom? lines = none := by
  induction lines with
  | nil => rfl
  | cons line after ih =>
    rw [Text.firstVisible?_cons] at blank
    split at blank
    · nomatch blank
    · rename_i hidden
      rw [nameFrom?, if_neg fun marked => hidden (trim_ne_nil_of_isMarked marked)]
      exact ih blank

/-- The first mark has something on its line, or nothing comes after it. -/
theorem nameFrom?_eq_nameOnLine? {lines : List Text}
    (filled : ∀ line ∈ lines.dropLast, isMarked line → Text.trim (afterMark line) ≠ []) :
    nameFrom? lines = nameOnLine? lines := by
  induction lines with
  | nil => rfl
  | cons line after ih =>
    have below : nameFrom? after = nameOnLine? after := by
      cases after with
      | nil => rfl
      | cons next after =>
        exact ih fun other member => filled other (List.mem_cons_of_mem _ member)
    rw [nameFrom?, nameOnLine?, List.filter_cons]
    split
    · rename_i marked
      rw [List.map_cons, Text.firstVisible?_cons, Text.firstVisible?_cons]
      split
      · rfl
      · rename_i hidden
        cases after with
        | nil => rfl
        | cons next after => exact absurd (filled line List.mem_cons_self marked) hidden
    · exact below

/-- The name that a text declares is the first visible text from its first mark on. -/
theorem firstName?_eq_nameFrom? {t : Text} (ends : EndsVisibly t) :
    firstName? true t = nameFrom? (Text.lines t) := by
  induction lines : Text.lines t generalizing t with
  | nil => exact absurd lines (Text.splitAt_ne_nil '\n' t)
  | cons line after ih =>
    have single := Text.notMem_of_mem_lines (lines ▸ List.mem_cons_self : line ∈ Text.lines t)
    have below : firstName? false t = nameFrom? after := by
      rcases Text.lines_eq_cons lines with ⟨rfl, rfl⟩ | ⟨rest, rfl, same⟩
      · exact (firstName?_false single []).1
      · rw [(firstName?_false single rest).2]
        exact ih (EndsVisibly.of_append (a := line ++ ['\n']) (by simpa using ends)) same
    rw [firstName?_true, declaredName?_eq lines ends, below, nameFrom?]
    split
    -- A mark with nothing visible after it: no later mark can declare anything either.
    · cases visible : Text.firstVisible? (afterMark line :: after) with
      | some name => rfl
      | none =>
        rw [Text.firstVisible?_cons] at visible
        split at visible
        · nomatch visible
        · exact nameFrom?_eq_none visible
    · rfl

/-- The name of a trimmed text is the first visible text from its first mark on. It stands on the
line of a mark unless a mark is left blank before the last line. -/
theorem nameOf_eq_nameFrom {text : Text} (trimmed : Text.trim text = text) (index : Nat) :
    nameOf text index = (nameFrom? (Text.lines text)).getD (numberedName index) ∧
      ((∀ line ∈ (Text.lines text).dropLast, isMarked line → Text.trim (afterMark line) ≠ []) →
        nameOf text index = (nameOnLine? (Text.lines text)).getD (numberedName index)) := by
  have named := firstName?_eq_nameFrom? (endsVisibly_of_trim trimmed)
  rw [nameOf, named]
  refine ⟨rfl, ?_⟩
  intro filled
  rw [nameFrom?_eq_nameOnLine? filled]

/-- The name is taken from the third line below the blank mark, although a later mark has a name on
its line. -/
theorem nameOf_eq_nameFrom_below :
    let text := "Start\nname: \n\n  Tavern \nname: Inn".toList
    Text.trim text = text ∧ nameOf text 0 = "Tavern".toList ∧
      nameOnLine? (Text.lines text) = some "Inn".toList := by
  intro text
  have trimmed : Text.trim text = text := by decide
  refine ⟨trimmed, ?_, by decide⟩
  rw [(nameOf_eq_nameFrom trimmed 0).1]
  decide

/-- Names are not a matter of single lines. -/
theorem not_forall_nameOf_eq_nameOnLine :
    ¬∀ (text : Text) (index : Nat), Text.trim text = text → text ≠ [] →
      nameOf text index = (nameOnLine? (Text.lines text)).getD (numberedName index) := by
  intro all
  have same := all "name:\nStart".toList 0 (by decide) (by decide)
  have below : nameOf "name:\nStart".toList 0 = "Start".toList := by decide
  have none : nameOnLine? (Text.lines "name:\nStart".toList) = none := by decide
  rw [below, none] at same
  revert same
  decide +kernel

end Section

end Storygraph
