import Storygraph.Proofs.Json.Steps
import Storygraph.Proofs.Outcomes

/-!
# Strings

A text may be spelled in many ways between the quotation marks of a string. Each of them is read as
the text (`takes_readText`), and it is written in one of them (`spells_escaped`). A string with half
a surrogate pair in it spells no text. It can be passed over (`takes_skipText`), and where it is
read, nothing behind it is (`settles_readText`).
-/

namespace Storygraph.Json

def HexUnit (digits : Text) (n : Nat) : Prop :=
  digits.length = 4 ∧ Text.readDigits? hexValue? 16 digits = some n

/-- What may follow a backslash, and the character that it stands for. -/
inductive Escapes : Text → Char → Prop
  | simple {e c : Char} : simpleEscape? e = some c → Escapes [e] c
  | unit {digits : Text} {n : Nat} : HexUnit digits n → isLeading n = false →
      isTrailing n = false → Escapes ('u' :: digits) (Char.ofNat n)
  | pair {first second : Text} {m n : Nat} : HexUnit first m → isLeading m = true →
      HexUnit second n → isTrailing n = true →
      Escapes ('u' :: (first ++ '\\' :: 'u' :: second))
        (Char.ofNat ((m - 0xD800) * 0x400 + (n - 0xDC00) + 0x10000))

def IsPlain (c : Char) : Prop := c ≠ '"' ∧ c ≠ '\\' ∧ ¬c.toNat < 0x20

/-- What stands between the quotation marks of a string, and the text that it is read as. -/
inductive Spells : Text → Text → Prop
  | nothing : Spells [] []
  | plain {c : Char} {literal t : Text} : IsPlain c → Spells literal t →
      Spells (c :: literal) (c :: t)
  | escape {code literal t : Text} {c : Char} : Escapes code c → Spells literal t →
      Spells ('\\' :: (code ++ literal)) (c :: t)

/-- What may stand between the quotation marks of a string, if code units need not be paired. -/
inductive Literal : Text → Prop
  | nothing : Literal []
  | plain {c : Char} {literal : Text} : IsPlain c → Literal literal → Literal (c :: literal)
  | simple {e : Char} {literal : Text} : (simpleEscape? e).isSome → Literal literal →
      Literal ('\\' :: e :: literal)
  | unit {digits literal : Text} {n : Nat} : HexUnit digits n → Literal literal →
      Literal ('\\' :: 'u' :: (digits ++ literal))

theorem Spells.literal {literal t : Text} (spells : Spells literal t) : Literal literal := by
  induction spells with
  | nothing => exact .nothing
  | plain plain _ ih => exact .plain plain ih
  | escape escapes _ ih =>
    cases escapes with
    | simple known => exact .simple (by rw [known]; rfl) ih
    | unit unit _ _ => exact .unit unit ih
    | pair first _ second _ => simpa using Literal.unit first (.unit second ih)

/-! ### Writing -/

theorem hexUnit_control : ∀ n < 0x20,
    HexUnit ['0', '0', digitChar (n / 16), digitChar (n % 16)] n ∧ isLeading n = false ∧
      isTrailing n = false := by
  unfold HexUnit
  decide

theorem Spells.escapeChar {literal t : Text} (spells : Spells literal t) (c : Char) :
    Spells (escapeChar c ++ literal) (c :: t) := by
  have simple : ∀ e, simpleEscape? e = some c → Spells (['\\', e] ++ literal) (c :: t) :=
    fun e known => .escape (.simple known) spells
  unfold Json.escapeChar
  split
  · rename_i same
    exact simple '"' (by rw [same]; rfl)
  rename_i quote
  split
  · rename_i same
    exact simple '\\' (by rw [same]; rfl)
  rename_i backslash
  split
  · rename_i same
    exact simple 'b' (by rw [same]; rfl)
  split
  · rename_i same
    exact simple 't' (by rw [same]; rfl)
  split
  · rename_i same
    exact simple 'n' (by rw [same]; rfl)
  split
  · rename_i same
    exact simple 'f' (by rw [same]; rfl)
  split
  · rename_i same
    exact simple 'r' (by rw [same]; rfl)
  split
  · rename_i control
    obtain ⟨unit, leading, trailing⟩ := hexUnit_control c.toNat control
    have escaped := Spells.escape (.unit unit leading trailing) spells
    rwa [Char.ofNat_toNat] at escaped
  · rename_i high
    exact .plain ⟨quote, backslash, high⟩ spells

theorem spells_escaped (t : Text) : Spells (t.flatMap escapeChar) t := by
  induction t with
  | nil => exact .nothing
  | cons c t ih => exact ih.escapeChar c

/-! ### Escapes -/

theorem length_le_byteSize (t : Text) : t.length ≤ Text.byteSize t := by
  induction t with
  | nil => exact Nat.le_refl 0
  | cons c t ih =>
    have := c.utf8Size_pos
    rw [List.length_cons, Text.byteSize]
    omega

theorem hexUnit_eq {digits rest : Text} {n : Nat} (unit : HexUnit digits n) {s : Source}
    (here : s.rest = digits ++ rest) : hexUnit s = .ok n := by
  obtain ⟨length, value⟩ := unit
  have enough : ¬Text.byteSize digits < 4 := by
    have := length_le_byteSize digits
    omega
  simp only [hexUnit, here, ← length, List.take_left, value]
  rw [length, if_neg enough]

theorem isTrailing_of_isLeading {n : Nat} (leading : isLeading n = true) :
    isTrailing n = false := by
  simp only [isLeading, isTrailing, Bool.and_eq_true, decide_eq_true_eq] at *
  rw [decide_eq_false (by omega), Bool.false_and]

theorem unicodeEscape_eq {s : Source} {m : Nat} (first : hexUnit s = .ok m) :
    unicodeEscape s =
      if isTrailing m then .error (.placed ⟨.loneSurrogate, (s.drop 4).place⟩)
      else if isLeading m then do
        expectInPair '\\' (s.drop 4)
        expectInPair 'u' (s.drop 4).next
        let second ← hexUnit ((s.drop 4).drop 2)
        if isTrailing second then
          return (Char.ofNat ((m - 0xD800) * 0x400 + (second - 0xDC00) + 0x10000), 10)
        else .error (.placed ⟨.loneSurrogate, ((s.drop 4).drop 6).place⟩)
      else .ok (Char.ofNat m, 4) := by
  rw [unicodeEscape, first]
  rfl

theorem expectInPair_eq {s : Source} {c d : Char} {rest : Text} (here : s.rest = d :: rest) :
    expectInPair c s = if d = c then .ok () else .error (.placed ⟨.unpairedEscape, s.ahead⟩) := by
  simp only [expectInPair, here]

theorem escape_unit {s : Source} {rest : Text} (here : s.rest = 'u' :: rest) :
    escape s = (unicodeEscape s.next).map fun (d, n) => (d, n + 1) := by
  simp only [escape, here, if_true]

theorem escape_simple {s : Source} {e c : Char} {rest : Text} (known : simpleEscape? e = some c)
    (here : s.rest = e :: rest) : escape s = .ok (c, 1) := by
  have other : e ≠ 'u' := by
    rintro rfl
    nomatch known
  simp only [escape, here, other, if_false, known]

theorem escape_eq {code : Text} {c : Char} (escapes : Escapes code c) {s : Source} {rest : Text}
    (here : s.rest = code ++ rest) : escape s = .ok (c, code.length) := by
  cases escapes with
  | simple known => exact escape_simple known here
  | @unit digits n unit leading trailing =>
    have digits : s.next.rest = digits ++ rest := by rw [Source.rest_next, here]; rfl
    rw [escape_unit here, unicodeEscape_eq (hexUnit_eq unit digits), leading, trailing,
      List.length_cons, unit.1]
    rfl
  | @pair first second m n unit leading unit' trailing =>
    have digits : s.next.rest = first ++ '\\' :: 'u' :: (second ++ rest) := by
      rw [Source.rest_next, here]
      simp
    have after : (s.next.drop 4).rest = '\\' :: 'u' :: (second ++ rest) := by
      rw [Source.rest_drop, digits, ← unit.1, List.drop_left]
    have value : hexUnit ((s.next.drop 4).drop 2) = .ok n :=
      hexUnit_eq unit' (by rw [Source.rest_drop, after]; rfl)
    rw [escape_unit here, unicodeEscape_eq (hexUnit_eq unit digits),
      isTrailing_of_isLeading leading, leading, expectInPair_eq after, expectInPair_eq (by rw [Source.rest_next, after]; rfl), value]
    change Except.map _ (if isTrailing n = true then _ else _) = _
    have length : ('u' :: (first ++ '\\' :: 'u' :: second)).length = 11 := by
      simp [unit.1, unit'.1]
    rw [trailing, if_pos rfl, length]
    rfl

theorem exists_of_expectInPair {s : Source} {c : Char} (expected : expectInPair c s = .ok ()) :
    ∃ rest, s.rest = c :: rest := by
  cases here : s.rest with
  | nil =>
    simp only [expectInPair, here] at expected
    nomatch expected
  | cons d rest =>
    rw [expectInPair_eq here] at expected
    split at expected
    · rename_i same
      exact ⟨rest, by rw [same]⟩
    · nomatch expected

theorem eq_of_escape_single {s : Source} {digits rest : Text} {m n : Nat} {c : Char}
    (unit : HexUnit digits m) (single : isLeading m = false)
    (here : s.rest = 'u' :: (digits ++ rest)) (escaped : escape s = .ok (c, n)) : n = 5 := by
  have digits : s.next.rest = digits ++ rest := by rw [Source.rest_next, here]; rfl
  rw [escape_unit here, unicodeEscape_eq (hexUnit_eq unit digits), single] at escaped
  obtain ⟨⟨d, k⟩, alone, shape⟩ := map_ok escaped
  split at alone
  · nomatch alone
  · obtain ⟨-, rfl⟩ := Prod.mk.inj (Except.ok.inj alone)
    exact (Prod.mk.inj shape).2.symm

/-- The first half of a pair is an escape only together with another code unit. -/
theorem exists_of_escape_leading {s : Source} {digits rest : Text} {m n : Nat} {c : Char}
    (unit : HexUnit digits m) (leading : isLeading m = true)
    (here : s.rest = 'u' :: (digits ++ rest)) (escaped : escape s = .ok (c, n)) :
    n = 11 ∧ ∃ behind, rest = '\\' :: 'u' :: behind := by
  have digits : s.next.rest = digits ++ rest := by rw [Source.rest_next, here]; rfl
  have after : (s.next.drop 4).rest = rest := by
    rw [Source.rest_drop, digits, ← unit.1, List.drop_left]
  rw [escape_unit here, unicodeEscape_eq (hexUnit_eq unit digits), isTrailing_of_isLeading leading,
    leading] at escaped
  obtain ⟨⟨d, k⟩, pair, shape⟩ := map_ok escaped
  rw [if_neg Bool.false_ne_true, if_pos rfl] at pair
  obtain ⟨⟨⟩, backslash, pair⟩ := bind_ok pair
  obtain ⟨⟨⟩, letter, pair⟩ := bind_ok pair
  obtain ⟨second, -, pair⟩ := bind_ok pair
  obtain ⟨behind, first⟩ := exists_of_expectInPair backslash
  obtain ⟨behind', next⟩ := exists_of_expectInPair letter
  rw [after] at first
  rw [Source.rest_next, after, first, List.tail_cons] at next
  split at pair
  · obtain ⟨-, rfl⟩ := Prod.mk.inj (Except.ok.inj pair)
    obtain ⟨-, rfl⟩ := Prod.mk.inj shape
    exact ⟨rfl, behind', by rw [first, next]⟩
  · nomatch pair

theorem skippedEscape_unit {s : Source} {digits rest : Text} {n : Nat} (unit : HexUnit digits n)
    (here : s.rest = 'u' :: (digits ++ rest)) : skippedEscape s = .ok 5 := by
  have value : hexUnit s.next = .ok n := hexUnit_eq unit (by rw [Source.rest_next, here]; rfl)
  simp only [skippedEscape, here, if_true, value]
  rfl

theorem skippedEscape_simple {s : Source} {e : Char} {rest : Text}
    (known : (simpleEscape? e).isSome = true) (here : s.rest = e :: rest) :
    skippedEscape s = .ok 1 := by
  have other : e ≠ 'u' := by
    rintro rfl
    nomatch known
  simp only [skippedEscape, here, other, if_false, known, if_true]

/-! ### Reading -/

theorem stringRest_cons {s : Source} {c : Char} {t : Text} (here : s.rest = c :: t) :
    stringRest s =
      if c = '"' then .ok ([], s.next)
      else if c = '\\' then do
        let (d, n) ← escape s.next
        let (u, s) ← stringRest (s.drop (n + 1))
        return (d :: u, s)
      else if c.toNat < 0x20 then .error (.placed ⟨.controlCharacter, s.ahead⟩)
      else do
        let (u, s) ← stringRest s.next
        return (c :: u, s) := by
  rw [stringRest]
  split
  · rename_i empty
    exact absurd (here.symm.trans empty) (List.cons_ne_nil c t)
  · rename_i d u shape
    obtain ⟨rfl, rfl⟩ := List.cons.inj (here.symm.trans shape)
    rfl

theorem skippedString_cons {s : Source} {c : Char} {t : Text} (here : s.rest = c :: t) :
    skippedString s =
      if c = '"' then .ok s.next
      else if c = '\\' then do
        let n ← skippedEscape s.next
        skippedString (s.drop (n + 1))
      else if c.toNat < 0x20 then .error (.placed ⟨.controlCharacter, s.place⟩)
      else skippedString s.next := by
  rw [skippedString]
  split
  · rename_i empty
    exact absurd (here.symm.trans empty) (List.cons_ne_nil c t)
  · rename_i d u shape
    obtain ⟨rfl, rfl⟩ := List.cons.inj (here.symm.trans shape)
    rfl

namespace Reader

variable {literal text : Text}

theorem takes_readText (spells : Spells literal text) (t : Text) :
    Takes readText (literal ++ '"' :: t) text t := by
  induction spells with
  | nothing =>
    intro s holds
    refine ⟨s.next, ?_, holds.next⟩
    rw [readText, stringRest_cons holds.rest]
    exact if_pos rfl
  | plain plain _ ih =>
    obtain ⟨inside, unescaped, high⟩ := plain
    intro s holds
    obtain ⟨s', runs, left⟩ := ih s.next holds.next
    refine ⟨s', ?_, left⟩
    rw [readText] at runs ⊢
    rw [stringRest_cons holds.rest, if_neg inside, if_neg unescaped, if_neg high, runs]
    rfl
  | @escape code literal text c escapes _ ih =>
    rw [List.cons_append, List.append_assoc]
    intro s holds
    obtain ⟨s', runs, left⟩ := ih _ holds.next.drop
    refine ⟨s', ?_, left⟩
    rw [readText] at runs ⊢
    rw [stringRest_cons holds.rest, if_neg (by decide), if_pos rfl,
      escape_eq escapes holds.next.rest]
    change Except.bind (stringRest (s.next.drop code.length)) _ = _
    rw [runs]
    rfl

theorem takes_skipText_escape (code : Text) {rest t' : Text} {n : Nat} (length : code.length = n)
    (skips : ∀ s : Source, s.rest = code ++ rest → skippedEscape s = .ok n)
    (goesOn : Takes skipText rest () t') : Takes skipText ('\\' :: (code ++ rest)) () t' := by
  intro s holds
  obtain ⟨s', runs, left⟩ := goesOn _ holds.next.drop
  refine ⟨s', ?_, left⟩
  rw [skipText] at runs ⊢
  rw [skippedString_cons holds.rest, if_neg (by decide), if_pos rfl, skips _ holds.next.rest,
    ← length]
  exact runs

/-- A string can be passed over even if it spells no text. -/
theorem takes_skipText (valid : Literal literal) (t : Text) :
    Takes skipText (literal ++ '"' :: t) () t := by
  induction valid with
  | nothing =>
    intro s holds
    refine ⟨s.next, ?_, holds.next⟩
    rw [skipText, skippedString_cons holds.rest]
    rfl
  | plain plain _ ih =>
    obtain ⟨inside, unescaped, high⟩ := plain
    intro s holds
    obtain ⟨s', runs, left⟩ := ih s.next holds.next
    refine ⟨s', ?_, left⟩
    rw [skipText] at runs ⊢
    rw [skippedString_cons holds.rest, if_neg inside, if_neg unescaped, if_neg high]
    exact runs
  | @simple e literal known _ ih =>
    exact takes_skipText_escape [e] rfl (fun s => skippedEscape_simple known) ih
  | @unit digits literal n unit _ ih =>
    have whole : '\\' :: 'u' :: (digits ++ literal) ++ '"' :: t =
        '\\' :: ('u' :: digits ++ (literal ++ '"' :: t)) := by simp
    rw [whole]
    exact takes_skipText_escape _ (congrArg (· + 1) unit.1) (fun s => skippedEscape_unit unit) ih

theorem settles_readText_escape (code : Text) {rest t : Text}
    (escapes : ∀ s : Source, s.rest = code ++ rest → ∀ d n, escape s = .ok (d, n) →
      n = code.length) (goesOn : Settles readText rest fun _ u => u = t) :
    Settles readText ('\\' :: (code ++ rest)) fun _ u => u = t := by
  intro s here a s' answers
  rw [readText, stringRest_cons here.rest, if_neg (by decide), if_pos rfl] at answers
  obtain ⟨⟨d, n⟩, escaped, answers⟩ := bind_ok answers
  obtain ⟨⟨u, s''⟩, runs, answers⟩ := bind_ok answers
  cases answers
  obtain rfl := escapes _ here.next.rest d n escaped
  exact goesOn _ here.next.drop u s' runs

/-- What follows a string is left when the string has been read, be its code units paired or not. -/
theorem settles_readText (valid : Literal literal) (t : Text) :
    Settles readText (literal ++ '"' :: t) fun _ u => u = t := by
  -- An escaped pair takes two units at once, so the induction is on the length.
  induction size : literal.length using Nat.strong_induction_on generalizing literal with
  | _ n ih =>
    cases valid with
    | nothing => exact (takes_readText .nothing t).settles rfl
    | @plain c literal plain valid =>
      obtain ⟨inside, unescaped, high⟩ := plain
      intro s here a s' answers
      rw [readText, stringRest_cons here.rest, if_neg inside, if_neg unescaped, if_neg high]
        at answers
      obtain ⟨⟨u, s''⟩, runs, answers⟩ := bind_ok answers
      cases answers
      exact ih _ (by simp at size; omega) valid rfl s.next here.next u s' runs
    | @simple e literal known valid =>
      obtain ⟨c, known⟩ := Option.isSome_iff_exists.mp known
      refine settles_readText_escape [e] (fun s here d n escaped => ?_)
        (ih _ (by simp at size; omega) valid rfl)
      cases (escape_simple known here).symm.trans escaped
      rfl
    | @unit digits literal m unit valid =>
      have whole : '\\' :: 'u' :: (digits ++ literal) ++ '"' :: t =
          '\\' :: ('u' :: digits ++ (literal ++ '"' :: t)) := by simp
      rw [whole]
      cases leading : isLeading m with
      | false =>
        refine settles_readText_escape _ (fun s here d n escaped => ?_)
          (ih _ (by simp at size; omega) valid rfl)
        rw [eq_of_escape_single unit leading here escaped, List.length_cons, unit.1]
      | true =>
        by_cases paired : ∃ behind, literal ++ '"' :: t = '\\' :: 'u' :: behind
        · obtain ⟨behind, paired⟩ := paired
          cases valid with
          | nothing => nomatch paired
          | plain plain _ => exact absurd (List.cons.inj paired).1 plain.2.1
          | simple known _ =>
            obtain ⟨-, paired⟩ := List.cons.inj paired
            rw [(List.cons.inj paired).1] at known
            nomatch known
          | @unit digits' literal m' unit' valid =>
            have both : 'u' :: digits ++ ('\\' :: 'u' :: (digits' ++ literal) ++ '"' :: t) =
                ('u' :: digits ++ '\\' :: 'u' :: digits') ++ (literal ++ '"' :: t) := by simp
            rw [both]
            refine settles_readText_escape _ (fun s here d n escaped => ?_)
              (ih _ (by simp at size; omega) valid rfl)
            rw [← both] at here
            rw [(exists_of_escape_leading unit leading here escaped).1]
            simp [unit.1, unit'.1]
        · refine settles_readText_escape _ (fun s here d n escaped => ?_)
            (ih _ (by simp at size; omega) valid rfl)
          exact absurd (exists_of_escape_leading unit leading here escaped).2 paired

end Reader

end Storygraph.Json
