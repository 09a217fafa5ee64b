import Mathlib.Data.List.Induction
import Mathlib.Data.Nat.Digits.Defs
import Storygraph.Text.Decimal

/-!
# Decimal numerals

The numeral of a number is a text of digits without leading zeros, and reading it gives the number
back (`toNat?_ofNat`). `toNat?_eq_some_iff` says what else is read as the number, and
`ofNat_valueFrom` that it has leading zeros.
-/

namespace Storygraph

theorem digitChar_spec : ∀ d < 10, isAsciiDigit (digitChar d) = true ∧
    digitValue? (digitChar d) = some d ∧ (digitChar d = '0' ↔ d = 0) := by
  decide

namespace Text

theorem ofNat_of_lt {n : Nat} (small : n < 10) : ofNat n = [digitChar n] := by
  rw [ofNat, ofNatBase, if_pos (Or.inl small)]

theorem ofNat_of_le {n : Nat} (large : 10 ≤ n) :
    ofNat n = ofNat (n / 10) ++ [digitChar (n % 10)] := by
  rw [ofNat, ofNatBase, if_neg (by omega), ofNat]

theorem ofNat_induction {motive : Nat → Text → Prop}
    (digit : ∀ n < 10, motive n [digitChar n])
    (more : ∀ n, 10 ≤ n → motive (n / 10) (ofNat (n / 10)) →
      motive n (ofNat (n / 10) ++ [digitChar (n % 10)]))
    (n : Nat) : motive n (ofNat n) := by
  induction n using Nat.strongRecOn with
  | _ n ih =>
    rcases Nat.lt_or_ge n 10 with small | large
    · rw [ofNat_of_lt small]
      exact digit n small
    · rw [ofNat_of_le large]
      exact more n large (ih (n / 10) (by omega))

theorem isAsciiDigit_of_mem_ofNat (n : Nat) : ∀ c ∈ ofNat n, isAsciiDigit c = true := by
  refine ofNat_induction (motive := fun _ t => ∀ c ∈ t, isAsciiDigit c = true) ?_ ?_ n
  · intro n small c member
    rw [List.mem_singleton.mp member]
    exact (digitChar_spec n small).1
  · intro n _ front c member
    rcases List.mem_append.mp member with here | last
    · exact front c here
    · rw [List.mem_singleton.mp last]
      exact (digitChar_spec (n % 10) (by omega)).1

theorem ofNat_ne_nil (n : Nat) : ofNat n ≠ [] := by
  refine ofNat_induction (motive := fun _ t => t ≠ []) ?_ ?_ n
  · exact fun n _ => List.cons_ne_nil _ _
  · exact fun n _ _ => List.append_ne_nil_of_right_ne_nil _ (List.cons_ne_nil _ _)

theorem head?_ofNat (n : Nat) : (ofNat n).head? = some '0' → n = 0 := by
  refine ofNat_induction (motive := fun n t => t.head? = some '0' → n = 0) ?_ ?_ n
  · intro n small first
    exact (digitChar_spec n small).2.2.mp (Option.some.inj first)
  · intro n large front first
    obtain ⟨c, rest, shape⟩ := List.exists_cons_of_ne_nil (ofNat_ne_nil (n / 10))
    rw [shape] at front first
    have := front first
    omega

/-- The number that digits make after those that made `m`. -/
def valueFrom (m : Nat) (ds : Text) : Nat :=
  ds.foldl (fun m c => 10 * m + (digitValue? c).getD 0) m

theorem valueFrom_cons (m : Nat) (c : Char) (ds : Text) :
    valueFrom m (c :: ds) = valueFrom (10 * m + (digitValue? c).getD 0) ds := rfl

theorem valueFrom_append (m : Nat) (ds es : Text) :
    valueFrom m (ds ++ es) = valueFrom (valueFrom m ds) es := List.foldl_append

theorem valueFrom_ofNat (n : Nat) : valueFrom 0 (ofNat n) = n := by
  refine ofNat_induction (motive := fun n t => valueFrom 0 t = n) ?_ ?_ n
  · intro n small
    simp [valueFrom, (digitChar_spec n small).2.1]
  · intro n _ front
    have last := (digitChar_spec (n % 10) (by omega)).2.1
    rw [valueFrom_append, front, valueFrom_cons, last, Option.getD_some]
    change 10 * (n / 10) + n % 10 = n
    omega

theorem le_valueFrom (m : Nat) (ds : Text) : m ≤ valueFrom m ds := by
  induction ds generalizing m with
  | nil => exact Nat.le_refl m
  | cons c ds ih =>
    have := ih (10 * m + (digitValue? c).getD 0)
    rw [valueFrom_cons]
    omega

theorem foldlM_digits {ds : Text} (digits : ∀ c ∈ ds, isAsciiDigit c = true) (m : Nat) :
    ds.foldlM (fun n c => (digitValue? c).map (10 * n + ·)) m = some (valueFrom m ds) := by
  induction ds generalizing m with
  | nil => rfl
  | cons c ds ih =>
    have value : digitValue? c = some (c.toNat - 48) := if_pos (digits c List.mem_cons_self)
    rw [List.foldlM_cons, valueFrom_cons, value]
    exact ih (fun d member => digits d (List.mem_cons_of_mem _ member)) _

theorem isAsciiDigit_of_foldlM {ds : Text} {m n : Nat}
    (read : ds.foldlM (fun n c => (digitValue? c).map (10 * n + ·)) m = some n) :
    ∀ c ∈ ds, isAsciiDigit c = true := by
  induction ds generalizing m with
  | nil => nofun
  | cons c ds ih =>
    obtain ⟨next, first, later⟩ := Option.bind_eq_some_iff.mp read
    refine List.forall_mem_cons.mpr ⟨?_, ih later⟩
    obtain ⟨d, value, -⟩ := Option.map_eq_some_iff.mp first
    by_contra other
    nomatch value.symm.trans (if_neg other)

/-- The texts that are read as a number are the digits whose value it is. -/
theorem toNat?_eq_some_iff {t : Text} {n : Nat} :
    toNat? t = some n ↔ t ≠ [] ∧ (∀ c ∈ t, isAsciiDigit c = true) ∧ valueFrom 0 t = n := by
  rw [toNat?, readDigits?]
  split
  · rename_i empty
    exact ⟨nofun, fun numeral => absurd empty numeral.1⟩
  · rename_i nonempty
    constructor
    · intro read
      have digits := isAsciiDigit_of_foldlM read
      rw [foldlM_digits digits] at read
      exact ⟨nonempty, digits, Option.some.inj read⟩
    · rintro ⟨-, digits, rfl⟩
      exact foldlM_digits digits 0

theorem toNat?_ofNat (n : Nat) : toNat? (ofNat n) = some n := by
  exact toNat?_eq_some_iff.mpr ⟨ofNat_ne_nil n, isAsciiDigit_of_mem_ofNat n, valueFrom_ofNat n⟩

theorem ofNat_injective : Function.Injective ofNat := by
  intro m n same
  rw [← valueFrom_ofNat m, same, valueFrom_ofNat]

theorem digitChar_toNat : ∀ k < 10, digitChar k = Char.ofNat (k + 48) := by decide

theorem exists_digitChar_eq {c : Char} (digit : isAsciiDigit c = true) :
    ∃ d < 10, c = digitChar d ∧ digitValue? c = some d ∧ c.toNat - '0'.toNat = d := by
  have value : digitValue? c = some (c.toNat - 48) := if_pos digit
  simp only [isAsciiDigit, Bool.and_eq_true, decide_eq_true_eq] at digit
  obtain ⟨low, high⟩ := digit
  have low : 48 ≤ c.toNat := low
  have high : c.toNat ≤ 57 := high
  refine ⟨c.toNat - 48, by omega, ?_, value, rfl⟩
  rw [digitChar_toNat _ (by omega), Nat.sub_add_cancel low, Char.ofNat_toNat]

/-- The value of digits, the last of which counts ones. -/
theorem valueFrom_eq_ofDigits {ds : Text} (digits : ∀ c ∈ ds, isAsciiDigit c = true) :
    valueFrom 0 ds = Nat.ofDigits 10 (ds.reverse.map fun c => c.toNat - '0'.toNat) := by
  induction ds using List.reverseRecOn with
  | nil => rfl
  | append_singleton ds c ih =>
    obtain ⟨d, -, -, value, ones⟩ := exists_digitChar_eq (digits c (by simp))
    have front := ih fun e member => digits e (List.mem_append_left _ member)
    rw [valueFrom_append, front, valueFrom_cons, value, List.reverse_append, List.reverse_singleton,
      List.singleton_append, List.map_cons, ones, Nat.ofDigits_cons, Nat.add_comm]
    rfl

/-- Digits without a leading zero, or zero alone, are the numeral of their value. -/
theorem ofNat_valueFrom {ds : Text} (nonempty : ds ≠ [])
    (digits : ∀ c ∈ ds, isAsciiDigit c = true) (plain : ds.head? = some '0' → ds = ['0']) :
    ofNat (valueFrom 0 ds) = ds := by
  induction ds using List.reverseRecOn with
  | nil => exact absurd rfl nonempty
  | append_singleton ds c ih =>
    obtain ⟨d, small, rfl, value, -⟩ := exists_digitChar_eq (digits c (by simp))
    have last : valueFrom 0 (ds ++ [digitChar d]) = 10 * valueFrom 0 ds + d := by
      rw [valueFrom_append, valueFrom_cons, value]
      rfl
    rw [last]
    by_cases single : ds = []
    · subst single
      rw [List.nil_append, ← ofNat_of_lt small]
      congr 1
      exact Nat.zero_add d
    · have front := ih single (fun e member => digits e (List.mem_append_left _ member)) ?_
      -- The digits before the last one are the numeral of a number that is not zero.
      · have positive : valueFrom 0 ds ≠ 0 := by
          intro zero
          rw [zero, ofNat_of_lt (by decide)] at front
          rw [← front] at plain
          nomatch plain rfl
        rw [ofNat_of_le (by omega), show (10 * valueFrom 0 ds + d) / 10 = valueFrom 0 ds by omega,
          show (10 * valueFrom 0 ds + d) % 10 = d by omega, front]
      · intro zero
        have whole := plain (by rw [List.head?_append, zero]; rfl)
        rw [List.append_eq_singleton_iff] at whole
        rcases whole with ⟨none, -⟩ | ⟨front, -⟩
        · exact absurd none single
        · exact front

end Text

end Storygraph
