import Storygraph.Compilation
import Storygraph.Proofs.Coverage
import Storygraph.Proofs.Names
import Storygraph.Proofs.Numerals

/-!
# Names as lines

Each section of a document has a name that can stand on a line by itself, and sections that declare
no name have different ones (`names_fitLine`).
-/

namespace Storygraph

namespace Text

structure FitsLine (t : Text) : Prop where
  nonempty : t ≠ []
  trimmed : trim t = t
  single : '\n' ∉ t

theorem trim_eq_self {t : Text} (first : ∀ c ∈ t.head?, isBlank c = false)
    (last : ∀ c ∈ t.getLast?, isBlank c = false) : trim t = t := by
  have start : trimStart t = t := by
    cases t with
    | nil => rfl
    | cons c t =>
      refine List.dropWhile_cons_of_neg ?_
      rw [first c rfl]
      exact Bool.false_ne_true
  rw [trim, start]
  refine List.rdropWhile_eq_self_iff.mpr fun nonempty => ?_
  rw [last _ (List.getLast?_eq_some_getLast nonempty)]
  exact Bool.false_ne_true

theorem fitsLine_of_firstVisible? {texts : List Text} {t : Text}
    (single : ∀ text ∈ texts, '\n' ∉ text) (found : firstVisible? texts = some t) : FitsLine t := by
  obtain ⟨text, member, rfl⟩ := List.mem_map.mp (List.mem_of_find?_eq_some found)
  refine ⟨by simpa using List.find?_some found, trim_trim text, fun inside => ?_⟩
  have whole := eq_append_trim text
  rw [List.append_assoc] at whole
  refine single text member ?_
  rw [← whole]
  exact List.mem_append_right _ (List.mem_append_left _ inside)

theorem isBlank_of_isAsciiDigit {c : Char} (digit : isAsciiDigit c = true) : isBlank c = false := by
  simp only [isAsciiDigit, Bool.and_eq_true, decide_eq_true_eq] at digit
  obtain ⟨low, high⟩ := digit
  have low : 48 ≤ c.toNat := low
  have high : c.toNat ≤ 57 := high
  simp [isBlank, blankRanges]
  omega

end Text

namespace Section

/-- Whether the name of a section is made of its index, as its text declares none. -/
def IsNumbered (s : Section) : Prop := firstName? true s.text = none

theorem name_of_isNumbered {s : Section} (numbered : s.IsNumbered) :
    s.name = numberedName s.index := by
  rw [name, nameOf, show firstName? true s.text = none from numbered]
  rfl

theorem fitsLine_numberedName (index : Nat) : Text.FitsLine (numberedName index) := by
  have digits := Text.isAsciiDigit_of_mem_ofNat (index + 1)
  have first : (numberedName index).head? = some 'S' := rfl
  have numeral := Text.ofNat_ne_nil (index + 1)
  have last : (numberedName index).getLast? = (Text.ofNat (index + 1)).getLast? := by
    unfold numberedName
    rw [List.getLast?_append, List.getLast?_eq_some_getLast numeral, Option.some_or]
  constructor
  case nonempty => exact List.append_ne_nil_of_right_ne_nil _ numeral
  case trimmed =>
    apply Text.trim_eq_self
    · rw [first]
      exact fun c start => Option.some.inj start ▸ rfl
    · rw [last]
      exact fun c ends => Text.isBlank_of_isAsciiDigit (digits c (List.mem_of_mem_getLast? ends))
  case single =>
    intro feed
    rcases List.mem_append.mp feed with inWord | inNumeral
    · revert inWord
      decide
    · have digit := digits '\n' inNumeral
      revert digit
      decide

theorem numberedName_injective : Function.Injective numberedName := by
  intro i j same
  exact Nat.succ.inj (Text.ofNat_injective (List.append_cancel_left same))

/-- What a text declares is seen on one of its lines, be it the line of the mark or one below. -/
theorem fitsLine_of_nameFrom? {lines : List Text} (single : ∀ line ∈ lines, '\n' ∉ line) {t : Text}
    (named : nameFrom? lines = some t) : Text.FitsLine t := by
  induction lines with
  | nil => nomatch named
  | cons line after ih =>
    obtain ⟨ofLine, ofAfter⟩ := List.forall_mem_cons.mp single
    rw [nameFrom?] at named
    split at named
    · refine Text.fitsLine_of_firstVisible? (List.forall_mem_cons.mpr ⟨?_, ofAfter⟩) named
      exact fun member => ofLine (List.mem_of_mem_drop member)
    · exact ih ofAfter named

theorem fitsLine_name {s : Section} (trimmed : Text.trim s.text = s.text) :
    Text.FitsLine s.name := by
  have byLines := firstName?_eq_nameFrom? (endsVisibly_of_trim trimmed)
  rw [name, nameOf]
  cases named : firstName? true s.text with
  | none => exact fitsLine_numberedName s.index
  | some t =>
    rw [named] at byLines
    exact fitsLine_of_nameFrom? (fun line of => Text.notMem_of_mem_lines of) byLines.symm

end Section

/-- The name of a section can stand on a line. Different sections of a document that declare no name
have different names. -/
theorem names_fitLine (c : Classifier) (document : Text) :
    (∀ g ∈ (Compilation.ofDocument c document).sections, Text.FitsLine g.name) ∧
      (Section.split document).Pairwise fun s t =>
        s.IsNumbered → t.IsNumbered → (s.graph c).name ≠ (t.graph c).name := by
  constructor
  · intro g member
    obtain ⟨s, of, rfl⟩ := List.mem_map.mp member
    obtain ⟨before, piece, after, -, -, rfl⟩ := Section.mem_ofPieces.mp of
    exact Section.fitsLine_name (Text.trim_trim piece)
  · refine (Section.pairwise_split document).imp ?_
    rintro s t ⟨apart, -⟩ first second same
    have names : s.name = t.name := same
    rw [Section.name_of_isNumbered first, Section.name_of_isNumbered second] at names
    exact Nat.ne_of_lt apart (Section.numberedName_injective names)

/-- The name of the second section stands two lines below its mark. The other two declare none, and
a blank piece is between them. -/
theorem names_fitLine_below :
    let c : Classifier := ⟨[], [], .dialogue⟩
    let document := "Start\n---\nname:\n\n  The  inn \nEnd\n---\n\n---\nname:".toList
    let first : Section := ⟨0, "Start".toList, 1⟩
    let named : Section := ⟨1, "name:\n\n  The  inn \nEnd".toList, 3⟩
    let last : Section := ⟨3, "name:".toList, 10⟩
    Section.split document = [first, named, last] ∧
      ((named.graph c).name = "The  inn".toList ∧ Text.FitsLine (named.graph c).name) ∧
      first.IsNumbered ∧ last.IsNumbered ∧ (first.graph c).name ≠ (last.graph c).name := by
  intro c document first named last
  have cut : Section.split document = [first, named, last] := by decide +kernel
  have start : first.IsNumbered := by unfold Section.IsNumbered; decide +kernel
  have ends : last.IsNumbered := by unfold Section.IsNumbered; decide +kernel
  obtain ⟨fits, apart⟩ := names_fitLine c document
  rw [Compilation.ofDocument, cut] at fits
  rw [cut] at apart
  refine ⟨cut, ⟨by decide +kernel, fits _ (by simp)⟩, start, ends, ?_⟩
  exact (List.pairwise_cons.mp apart).1 last (by simp) start ends

end Storygraph
