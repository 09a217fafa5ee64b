import Storygraph.Proofs.Json.Reading

/-!
# Texts without blanks between tokens

Taking the blanks outside strings from a text of a value leaves the compact text of the value, however
the text is laid out (`squeeze_written`).
-/

namespace Storygraph.Json

inductive Standing where
  | between | inside | escaped
deriving DecidableEq

def Standing.after (c : Char) : Standing → Standing
  | between => if c = '"' then inside else between
  | inside => if c = '"' then between else if c = '\\' then escaped else inside
  | escaped => inside

/-- The text without blanks outside strings, from a character that stands somewhere. -/
def squeezeFrom : Standing → Text → Text
  | _, [] => []
  | standing, c :: t =>
    if standing = .between ∧ Source.isSpace c then squeezeFrom standing t
    else c :: squeezeFrom (standing.after c) t

def squeeze (t : Text) : Text := squeezeFrom .between t

/-! ### Tokens -/

theorem squeeze_blank {blanks : Text} (blank : Blank blanks) (t : Text) :
    squeeze (blanks ++ t) = squeeze t := by
  induction blanks with
  | nil => rfl
  | cons c blanks ih =>
    have space := blank c List.mem_cons_self
    rw [List.cons_append, squeeze, squeezeFrom, if_pos ⟨rfl, space⟩]
    exact ih fun d member => blank d (List.mem_cons_of_mem _ member)

theorem squeeze_visible {c : Char} (visible : Source.isSpace c = false) (plain : c ≠ '"')
    (t : Text) : squeeze (c :: t) = c :: squeeze t := by
  simp [squeeze, squeezeFrom, Standing.after, visible, plain]

theorem squeeze_ofNat (n : Nat) (t : Text) :
    squeeze (Text.ofNat n ++ t) = Text.ofNat n ++ squeeze t := by
  have digits := Text.isAsciiDigit_of_mem_ofNat n
  generalize Text.ofNat n = numeral at digits ⊢
  induction numeral with
  | nil => rfl
  | cons c rest ih =>
    have digit := digits c List.mem_cons_self
    rw [List.cons_append, squeeze_visible (Reader.isSpace_of_isAsciiDigit digit)
      (Reader.ne_of_isAsciiDigit '"' digit rfl),
      ih fun d member => digits d (List.mem_cons_of_mem _ member)]
    rfl

theorem digitChar_plain : ∀ d < 16, digitChar d ≠ '"' ∧ digitChar d ≠ '\\' := by decide

theorem squeezeFrom_inside {c : Char} (quote : c ≠ '"') (backslash : c ≠ '\\') (t : Text) :
    squeezeFrom .inside (c :: t) = c :: squeezeFrom .inside t := by
  simp [squeezeFrom, Standing.after, quote, backslash]

/-- An escaped character stands inside its string as a whole. -/
theorem squeezeFrom_escapeChar (c : Char) (t : Text) :
    squeezeFrom .inside (escapeChar c ++ t) = escapeChar c ++ squeezeFrom .inside t := by
  unfold escapeChar
  split
  · rfl
  rename_i quote
  split
  · rfl
  rename_i backslash
  iterate 5
    split
    · rfl
  split
  · rename_i control
    obtain ⟨quote, backslash⟩ := digitChar_plain (c.toNat / 16) (by omega)
    obtain ⟨quote', backslash'⟩ := digitChar_plain (c.toNat % 16) (by omega)
    have digits : squeezeFrom .inside (digitChar (c.toNat / 16) :: digitChar (c.toNat % 16) :: t) =
        digitChar (c.toNat / 16) :: digitChar (c.toNat % 16) :: squeezeFrom .inside t := by
      rw [squeezeFrom_inside quote backslash, squeezeFrom_inside quote' backslash']
    simp only [List.cons_append, List.nil_append, ← digits]
    rfl
  · exact squeezeFrom_inside quote backslash t

theorem squeezeFrom_flatMap (text t : Text) :
    squeezeFrom .inside (text.flatMap escapeChar ++ '"' :: t) =
      text.flatMap escapeChar ++ '"' :: squeeze t := by
  induction text with
  | nil => rfl
  | cons c text ih =>
    rw [List.flatMap_cons, List.append_assoc, squeezeFrom_escapeChar, ih, List.append_assoc]

theorem squeeze_quote (text t : Text) : squeeze (quote text ++ t) = quote text ++ squeeze t := by
  have inside := squeezeFrom_flatMap text t
  simp only [quote, List.cons_append, List.append_assoc, List.nil_append]
  rw [← inside]
  rfl

/-! ### Values -/

section

variable {α : Type} {part : α → Text → Prop} {close : Char} {print : α → Text}

/-- Parts between brackets lose the blanks around them, and keep the commas. -/
theorem squeeze_separated {parts : List α} {atFirst : Bool} {t : Text}
    (separated : Separated part close atFirst parts t)
    (keeps : ∀ a ∈ parts, ∀ t, part a t → ∀ rest, squeeze (t ++ rest) = print a ++ squeeze rest)
    (visible : Source.isSpace close = false) (plain : close ≠ '"') (rest : Text) :
    squeeze (t ++ rest) =
      (if atFirst then Text.join [','] (parts.map print) else parts.flatMap (',' :: print ·)) ++
        close :: squeeze rest := by
  induction separated with
  | nothing blank =>
    rw [List.append_assoc, squeeze_blank blank, List.singleton_append,
      squeeze_visible visible plain]
    split <;> rfl
  | first blank written _ ih =>
    have here := keeps _ List.mem_cons_self _ written
    have others := ih fun b member => keeps b (List.mem_cons_of_mem _ member)
    rw [List.append_assoc, squeeze_blank blank, List.append_assoc, here, others]
    simp [Text.join_cons, List.flatMap_map]
  | next blank blank' written _ ih =>
    have here := keeps _ List.mem_cons_self _ written
    have others := ih fun b member => keeps b (List.mem_cons_of_mem _ member)
    rw [List.append_assoc, squeeze_blank blank, List.cons_append,
      squeeze_visible rfl (by decide), List.append_assoc, squeeze_blank blank', List.append_assoc,
      here, others]
    simp

end

theorem squeeze_written {value : Json} {t : Text} (written : Written value t) (rest : Text) :
    squeeze (t ++ rest) = value.compact ++ squeeze rest := by
  induction value using induction_on_parts generalizing t rest with
  | natural n =>
    cases written
    rw [compact, squeeze_ofNat]
  | text text =>
    cases written
    rw [compact, squeeze_quote]
  | list items ih =>
    cases written with
    | list separated =>
      have inner := squeeze_separated separated (fun item member t written rest =>
        ih item member written rest) rfl (by decide) rest
      rw [List.cons_append, squeeze_visible rfl (by decide), inner, if_pos rfl, compact,
        compactItems_eq]
      simp
  | record members ih =>
    cases written with
    | record separated =>
      have keeps : ∀ m ∈ members, ∀ t, MemberWritten Written m t → ∀ rest,
          squeeze (t ++ rest) = (quote m.1 ++ ':' :: compact m.2) ++ squeeze rest := by
        intro m member t written rest
        obtain ⟨before, after, written⟩ := written
        rw [List.append_assoc, squeeze_quote, List.append_assoc, squeeze_blank before,
          List.cons_append, squeeze_visible rfl (by decide), List.append_assoc,
          squeeze_blank after, ih _ member written]
        simp
      have inner := squeeze_separated separated keeps rfl (by decide) rest
      rw [List.cons_append, squeeze_visible rfl (by decide), inner, if_pos rfl, compact,
        compactMembers_eq]
      simp

theorem squeeze_indented (value : Json) (t : Text) :
    squeeze (value.indented ++ t) = value.compact ++ squeeze t :=
  squeeze_written (written_indented value) t

end Storygraph.Json
