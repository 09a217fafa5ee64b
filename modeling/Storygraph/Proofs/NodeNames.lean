import Storygraph.Proofs.Codec

/-!
# Names of nodes

Which texts are read as the name of a node, which of them is written for it, and what is told of any
other text (`names_exact`).
-/

namespace Storygraph

open Json (Reader Written)
open Json.Reader (Takes accepts_text delimited_of_blank)

namespace NodeId

def Signed (sign digits : Text) : Prop :=
  (sign = [] ∨ sign = ['+']) ∧ digits ≠ [] ∧ ∀ c ∈ digits, isAsciiDigit c = true

def valueOf (digits : Text) : Nat :=
  Nat.ofDigits 10 (digits.reverse.map fun c => c.toNat - '0'.toNat)

theorem dropSign_eq {sign digits : Text} (signed : Signed sign digits) :
    (Text.dropPrefix? ['+'] (sign ++ digits)).getD (sign ++ digits) = digits := by
  obtain ⟨rfl | rfl, nonempty, all⟩ := signed
  · obtain ⟨c, rest, rfl⟩ := List.exists_cons_of_ne_nil nonempty
    have other := Json.Reader.ne_of_isAsciiDigit '+' (all c List.mem_cons_self) rfl
    rw [List.nil_append, Text.dropPrefix?, if_neg other.symm]
    rfl
  · rw [Text.dropPrefix?_append]
    rfl

theorem exists_sign (t : Text) :
    ∃ sign, (sign = [] ∨ sign = ['+']) ∧ t = sign ++ (Text.dropPrefix? ['+'] t).getD t := by
  cases found : Text.dropPrefix? ['+'] t with
  | none => exact ⟨[], .inl rfl, rfl⟩
  | some rest => exact ⟨['+'], .inr rfl, Text.dropPrefix?_eq_some_iff.mp found⟩

theorem ofText?_eq_some_iff {t : Text} {id : NodeId} :
    ofText? t = some id ↔ ∃ sign digits, Signed sign digits ∧ t = "n_".toList ++ (sign ++ digits) ∧
      id.index = valueOf digits ∧ id.index ≤ maxNatural := by
  constructor
  · intro named
    rw [ofText?] at named
    obtain ⟨numeral, front, named⟩ := Option.bind_eq_some_iff.mp named
    obtain ⟨n, read, named⟩ := Option.bind_eq_some_iff.mp named
    obtain ⟨nonempty, digits, value⟩ := Text.toNat?_eq_some_iff.mp read
    obtain ⟨sign, plus, shape⟩ := exists_sign numeral
    split at named
    · rename_i small
      obtain rfl := Option.some.inj named
      refine ⟨sign, _, ⟨plus, nonempty, digits⟩, ?_, ?_, small⟩
      · rw [← shape]
        exact Text.dropPrefix?_eq_some_iff.mp front
      · rw [valueOf, ← Text.valueFrom_eq_ofDigits digits]
        exact value.symm
    · cases named
  · rintro ⟨sign, digits, signed, rfl, value, small⟩
    have read : Text.toNat? digits = some id.index :=
      Text.toNat?_eq_some_iff.mpr
        ⟨signed.2.1, signed.2.2, (Text.valueFrom_eq_ofDigits signed.2.2).trans value.symm⟩
    rw [ofText?, Text.dropPrefix?_append]
    change (Text.toNat? ((Text.dropPrefix? ['+'] (sign ++ digits)).getD
      (sign ++ digits))).bind _ = _
    rw [dropSign_eq signed, read]
    exact if_pos small

/-- Of the texts that name a node, one is written: that without a sign and needless zeros. -/
theorem toText_eq_iff {t : Text} {id : NodeId} (named : ofText? t = some id) :
    id.toText = t ↔ '+' ∉ t ∧ ("n_0".toList <+: t → t = "n_0".toList) := by
  obtain ⟨sign, digits, ⟨plus, nonempty, all⟩, rfl, value, -⟩ := ofText?_eq_some_iff.mp named
  have index : id.index = Text.valueFrom 0 digits :=
    value.trans (Text.valueFrom_eq_ofDigits all).symm
  constructor
  · intro written
    have numeral : Text.ofNat id.index = sign ++ digits := List.append_cancel_left written
    have unsigned : '+' ∉ sign ++ digits := by
      rw [← numeral]
      intro member
      nomatch Text.isAsciiDigit_of_mem_ofNat _ _ member
    refine ⟨fun member => ?_, fun zero => ?_⟩
    · rcases List.mem_append.mp member with front | behind
      · revert front
        decide
      · exact unsigned behind
    · have front : ['0'] <+: sign ++ digits := (List.prefix_append_right_inj "n_".toList).mp zero
      obtain ⟨rest, zero⟩ := front
      have first := Text.head?_ofNat id.index (by rw [numeral, ← zero]; rfl)
      rw [← numeral, first, Text.ofNat_of_lt (by decide)]
      rfl
  · rintro ⟨unsigned, plain⟩
    rcases plus with rfl | rfl
    · rw [toText, index, Text.ofNat_valueFrom nonempty all]
      · rfl
      · intro zero
        obtain ⟨c, rest, rfl⟩ := List.exists_cons_of_ne_nil nonempty
        obtain rfl := Option.some.inj zero
        exact List.append_cancel_left (plain ⟨rest, rfl⟩)
    · exact absurd (by simp) unsigned

theorem run_read_of_none {t written : Text} (unnamed : ofText? t = none)
    (spelled : Written (.text t) written) :
    ∃ place, Json.Reader.run read written = .error ⟨.refused (refusal t), place⟩ := by
  have reads : Takes Json.Reader.text ([] ++ (written ++ [])) t [] :=
    accepts_text t Json.blank_nil spelled (delimited_of_blank Json.blank_nil)
  obtain ⟨s, taken, -⟩ :=
    reads (.start written) ⟨by simp [Json.Source.start], by simp [Json.Source.start]⟩
  refine ⟨s.place, Json.Reader.run_of_floating ?_⟩
  rw [read]
  change Except.bind (Json.Reader.text (.start written)) _ = _
  rw [taken]
  simp only [Except.bind, unnamed]
  rfl

/-- A text is read as the name of a node if and only if it is `n_`, perhaps a plus sign, and digits
of a number in range, and the node is the one with this number. What is told of any other text
quotes it as it is. The text that is written for a node is read as its name, and no other text
without a sign and without needless zeros is. -/
theorem names_exact :
    (∀ t id, ofText? t = some id ↔ ∃ sign digits, Signed sign digits ∧
      t = "n_".toList ++ (sign ++ digits) ∧ id.index = valueOf digits ∧ id.index ≤ maxNatural) ∧
    (∃ before after, (∀ t, refusal t = before ++ t ++ after) ∧
      ∀ t, ofText? t = none → ∀ written, Written (.text t) written →
        ∃ place, Json.Reader.run read written = .error ⟨.refused (refusal t), place⟩) ∧
    (∀ id : NodeId, id.index ≤ maxNatural → ofText? id.toText = some id) ∧
    ∀ t id, ofText? t = some id →
      (id.toText = t ↔ '+' ∉ t ∧ ("n_0".toList <+: t → t = "n_0".toList)) := by
  refine ⟨fun _ _ => ofText?_eq_some_iff, ⟨_, _, fun _ => rfl, ?_⟩, ?_, ?_⟩
  · exact fun t unnamed written spelled => run_read_of_none unnamed spelled
  · exact fun id small => ofText?_toText small
  · exact fun t id named => toText_eq_iff named

/-- A plus sign and zeros do not matter, but are not written again. One more than the greatest
number is no name. -/
theorem names_exact_padded :
    ofText? "n_+0018446744073709551615".toList = some ⟨maxNatural⟩ ∧
      (NodeId.mk maxNatural).toText ≠ "n_+0018446744073709551615".toList ∧
      ofText? (NodeId.mk maxNatural).toText = some ⟨maxNatural⟩ ∧
      ∃ place, Json.Reader.run read (Json.quote "n_18446744073709551616".toList) =
        .error ⟨.refused (refusal "n_18446744073709551616".toList), place⟩ := by
  obtain ⟨reads, ⟨before, after, -, refuses⟩, rereads, writes⟩ := names_exact
  have padded : ofText? "n_+0018446744073709551615".toList = some ⟨maxNatural⟩ := by
    refine (reads _ _).mpr ⟨['+'], "0018446744073709551615".toList, ?_, rfl, ?_, Nat.le_refl _⟩
    · exact ⟨.inr rfl, by decide, List.all_eq_true.mp rfl⟩
    · decide
  refine ⟨padded, fun same => ?_, rereads _ (Nat.le_refl _), ?_⟩
  · exact ((writes _ _ padded).mp same).1 (by decide)
  · exact refuses _ (by decide +kernel) _ (.text _)

end NodeId

end Storygraph
