import Storygraph.Proofs.DeclaredLines
import Storygraph.Proofs.LetterCase
import Storygraph.Proofs.Names

/-!
# Header lines

`HeaderText` is the grammar of the texts that open a conditional. A scan takes these texts and no
others for headers (`isHeader_iff`), and they are the texts in which a search finds the pattern of
headers (`isMatch_headerPattern`). To a scan a header is nothing else (`isHeader_exact`).
-/

namespace Storygraph

/-- The text is `if` in letters of either case, then blanks, then something that is no blank. -/
inductive HeaderText : Text → Prop
  | spelled {i f c : Char} {gap rest : Text} (first : i = 'i' ∨ i = 'I')
      (second : f = 'f' ∨ f = 'F') (some : gap ≠ []) (blank : ∀ b ∈ gap, isBlank b = true)
      (visible : isBlank c = false) : HeaderText (i :: f :: (gap ++ c :: rest))

namespace Text

/-! ### Something visible -/

def startsVisibly (t : Text) : Bool := t.head?.any fun c => !isBlank c

theorem startsVisibly_iff {t : Text} :
    startsVisibly t = true ↔ ∃ c rest, t = c :: rest ∧ isBlank c = false := by
  cases t <;> simp [startsVisibly]

theorem startsBlank_of_startsVisibly (t : Text) (visible : startsVisibly t = true) :
    startsBlank t = false := by
  obtain ⟨c, rest, rfl, shown⟩ := startsVisibly_iff.mp visible
  exact shown

theorem startsVisibly_trimStart (t : Text) :
    startsVisibly (trimStart t) = !(trimStart t).isEmpty := by
  cases left : trimStart t with
  | nil => rfl
  | cons c rest =>
    have stops := List.head?_dropWhile_not isBlank t
    rw [show t.dropWhile isBlank = c :: rest from left] at stops
    simpa [startsVisibly] using stops

end Text

/-! ### The grammar -/

theorem asciiLower_eq_if_iff {word : Text} : word.asciiLower = "if".toList ↔
    ∃ i f, word = [i, f] ∧ (i = 'i' ∨ i = 'I') ∧ (f = 'f' ∨ f = 'F') := by
  have letterI {c : Char} : asciiLower c = 'i' ↔ c = 'i' ∨ c = 'I' :=
    asciiLower_eq_letter_iff (by decide) (by decide) (by decide)
  have letterF {c : Char} : asciiLower c = 'f' ↔ c = 'f' ∨ c = 'F' :=
    asciiLower_eq_letter_iff (by decide) (by decide) (by decide)
  constructor
  · intro spelled
    obtain ⟨i, rest, rfl, first, spelled⟩ := List.map_eq_cons_iff.mp spelled
    obtain ⟨f, rest, rfl, second, ends⟩ := List.map_eq_cons_iff.mp spelled
    obtain rfl := List.map_eq_nil_iff.mp ends
    exact ⟨i, f, rfl, letterI.mp first, letterF.mp second⟩
  · rintro ⟨i, f, rfl, first, second⟩
    simp only [Text.asciiLower, List.map_cons, List.map_nil, letterI.mpr first, letterF.mpr second]
    rfl

def Text.readsIf : Text → Bool :=
  reads "if".toList fun rest => startsBlank rest && startsVisibly (trimStart rest)

theorem readsIf_iff_letters {t : Text} : t.readsIf = true ↔ ∃ i f rest, t = i :: f :: rest ∧
    (i = 'i' ∨ i = 'I') ∧ (f = 'f' ∨ f = 'F') ∧
      (Text.startsBlank rest && Text.startsVisibly (Text.trimStart rest)) = true := by
  rw [Text.readsIf, Text.reads_iff (by decide)]
  simp only [asciiLower_eq_if_iff]
  constructor
  · rintro ⟨word, rest, rfl, ⟨i, f, rfl, first, second⟩, follows⟩
    exact ⟨i, f, rest, rfl, first, second, follows⟩
  · rintro ⟨i, f, rest, rfl, first, second, follows⟩
    exact ⟨[i, f], rest, rfl, ⟨i, f, rfl, first, second⟩, follows⟩

theorem readsIf_iff {t : Text} : t.readsIf = true ↔ HeaderText t := by
  have gaps := Text.exists_some_blanks_iff Text.startsBlank_of_startsVisibly
  rw [readsIf_iff_letters]
  constructor
  · rintro ⟨i, f, rest, rfl, first, second, follows⟩
    obtain ⟨gap, rest, rfl, ⟨some, blank⟩, shown⟩ := (gaps rest).mpr follows
    obtain ⟨c, rest, rfl, visible⟩ := Text.startsVisibly_iff.mp shown
    exact .spelled first second some blank visible
  · rintro @⟨i, f, c, gap, rest, first, second, some, blank, visible⟩
    have shown := Text.startsVisibly_iff.mpr ⟨c, rest, rfl, visible⟩
    have follows := (gaps _).mp ⟨gap, c :: rest, rfl, ⟨some, blank⟩, shown⟩
    exact ⟨i, f, gap ++ c :: rest, rfl, first, second, follows⟩

/-! ### Headers of a scan -/

theorem opensWithIf_eq_readsIf (t : Text) : opensWithIf t = t.readsIf := by
  match t with
  | [] => rfl
  | [c] => exact (Bool.and_false _).symm
  | i :: f :: rest =>
    change (asciiLower i == 'i' && asciiLower f == 'f' && Text.startsBlank rest &&
      !(Text.trimStart rest).isEmpty) = (Text.spells 'i' i && (Text.spells 'f' f &&
        (Text.startsBlank rest && Text.startsVisibly (Text.trimStart rest))))
    rw [Text.spells_of_ne (by decide), Text.spells_of_ne (by decide),
      Text.startsVisibly_trimStart, Bool.and_assoc, Bool.and_assoc]

theorem opensWithIf_of_sameAscii {t : Text}
    (same : Text.sameAscii t "If Show Variant".toList = true) : opensWithIf t = true := by
  rw [← opensWithIf_asciiLower, eq_of_beq same]
  decide

theorem isHeader_eq_opensWithIf (t : Text) : isHeader t = opensWithIf t :=
  Bool.or_eq_left_iff_imp.mpr opensWithIf_of_sameAscii

theorem isHeader_iff {t : Text} : isHeader t = true ↔ HeaderText t := by
  rw [isHeader_eq_opensWithIf, opensWithIf_eq_readsIf, readsIf_iff]

/-- In a text that does not end with a blank, something visible follows every blank. -/
theorem headerText_iff_of_trim {t : Text} (trimmed : Text.trim t = t) :
    HeaderText t ↔ ∃ i f b rest, t = i :: f :: b :: rest ∧ (i = 'i' ∨ i = 'I') ∧
      (f = 'f' ∨ f = 'F') ∧ isBlank b = true := by
  constructor
  · rintro @⟨i, f, c, gap, rest, first, second, some, blank, -⟩
    obtain ⟨b, gap, rfl⟩ := List.exists_cons_of_ne_nil some
    exact ⟨i, f, b, gap ++ c :: rest, rfl, first, second, blank b List.mem_cons_self⟩
  · rintro ⟨i, f, b, rest, rfl, first, second, blank⟩
    have ends : Section.EndsVisibly (b :: rest) :=
      (Section.endsVisibly_of_trim trimmed).of_append (a := [i, f])
    have shown : Text.startsVisibly (Text.trimStart (b :: rest)) = true := by
      rw [Text.startsVisibly_trimStart, Bool.not_eq_true', List.isEmpty_eq_false_iff]
      exact fun none => List.cons_ne_nil _ _ (ends.eq_nil none)
    have starts : Text.startsBlank (b :: rest) = true := blank
    rw [← readsIf_iff, readsIf_iff_letters]
    exact ⟨i, f, b :: rest, rfl, first, second, Bool.and_eq_true_iff.mpr ⟨starts, shown⟩⟩

/-! ### The pattern of headers -/

section

open Pattern Pattern.Regex

def headerPattern : Regex :=
  concat (empty :: lineStart :: (letters "if".toList ++ [blanks 1, one fun c => !isBlank c]))

theorem reads_visible :
    (concat [one fun c => !isBlank c]).Reads (fun _ => true) Text.startsVisibly := by
  intro before t
  refine (reads_one before t).trans ?_
  cases t <;> simp [Text.startsVisibly]

theorem isMatch_headerPattern (t : Text) : headerPattern.isMatch t = isHeader t := by
  have gap := reads_visible.some_blanks Text.startsBlank_of_startsVisibly
  rw [isHeader_eq_opensWithIf, opensWithIf_eq_readsIf]
  exact isMatch_empty_lineStart (gap.letters (by decide)) t

end

/-! ### Headers and other lines -/

theorem startsWithAscii_eq_false_of_isHeader {t s : Text} {k : Char} (opens : isHeader t = true)
    (other : asciiLower k ≠ 'i') : Text.startsWithAscii t (k :: s) = false := by
  apply Text.startsWithAscii_eq_false
  rw [head?_asciiLower_of_isHeader opens]
  exact fun same => other (Option.some.inj same).symm

theorem isMetadata_eq_false_of_isHeader {t : Text} (opens : isHeader t = true) :
    isMetadata t = false := by
  have variants : Text.startsWithAscii t "variants:".toList = false :=
    startsWithAscii_eq_false_of_isHeader (k := 'v') opens (by decide)
  have option : Text.startsWithAscii t "option".toList = false :=
    startsWithAscii_eq_false_of_isHeader (k := 'o') opens (by decide)
  rw [isMetadata, variants, option]
  rfl

/-- Headers are the texts of one grammar, and those in which the pattern is found; the special
header is one of them. Of the texts without blanks around them they are those that begin with `if`
and a blank. No header ends a conditional, begins a part of one or describes its options. -/
theorem isHeader_exact :
    (∀ t, isHeader t = true ↔ HeaderText t) ∧
    (Pattern.compile "(?i)^if\\s+\\S".toList = .ok headerPattern ∧
      ∀ t, headerPattern.isMatch t = isHeader t) ∧
    (∀ t, Text.trim t = t → (isHeader t = true ↔ ∃ i f b rest, t = i :: f :: b :: rest ∧
      (i = 'i' ∨ i = 'I') ∧ (f = 'f' ∨ f = 'F') ∧ isBlank b = true)) ∧
    (∀ t, Text.sameAscii t "If Show Variant".toList = true → opensWithIf t = true) ∧
    ∀ t, isHeader t = true →
      isEnd t = false ∧ Part.begunBy? t = none ∧ isMetadata t = false := by
  refine ⟨fun t => isHeader_iff, ⟨rfl, isMatch_headerPattern⟩, fun t trimmed => ?_,
    fun t => opensWithIf_of_sameAscii, fun t opens => ⟨?_, ?_, ?_⟩⟩
  · rw [isHeader_iff, headerText_iff_of_trim trimmed]
  · exact isEnd_eq_false_of_isHeader opens
  · exact begunBy?_of_isHeader opens
  · exact isMetadata_eq_false_of_isHeader opens

/-- The gap of a header may be any blanks, and a marker may follow it. -/
theorem isHeader_exact_wide :
    let t := "iF\u3000\u00A0endif".toList
    Text.trim t = t ∧ Text.sameAscii "IF SHOW variant".toList "If Show Variant".toList = true ∧
      opensWithIf "IF SHOW variant".toList = true ∧ headerPattern.isMatch t = true ∧
      isHeader t = true ∧ isEnd t = false ∧ Part.begunBy? t = none ∧ isMetadata t = false := by
  obtain ⟨-, ⟨-, searched⟩, opened, special, apart⟩ := isHeader_exact
  have trimmed : Text.trim "iF\u3000\u00A0endif".toList = "iF\u3000\u00A0endif".toList := by decide
  have opens := (opened _ trimmed).mpr ⟨'i', 'F', '\u3000', _, rfl, .inl rfl, .inr rfl, by decide⟩
  have same : Text.sameAscii "IF SHOW variant".toList "If Show Variant".toList = true := by decide
  exact ⟨trimmed, same, special _ same, (searched _).trans opens, opens, apart _ opens⟩

/-- A dotted capital I is another letter, and blanks alone are not enough. -/
example : isHeader "\u0130f x".toList = false ∧ isHeader "if \u00A0".toList = false := by decide

end Storygraph
