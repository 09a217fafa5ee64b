import Storygraph.Proofs.Json.Reading

/-!
# Values of any kind

`IsValue v` says that `v` is the text of a JSON value: a word, a number of any size, a string, or a
list or record of such values, however deep. What is written of a value is such a text
(`isValue_of_written`), and each of them can be passed over (`admits_skipValue`).
-/

namespace Storygraph.Json

structure IsDigits (t : Text) : Prop where
  nonempty : t ≠ []
  digits : ∀ c ∈ t, isAsciiDigit c = true

inductive WholePart : Text → Prop
  | zero : WholePart ['0']
  | digits {t : Text} : IsDigits t → t.head? ≠ some '0' → WholePart t

inductive FractionPart : Text → Prop
  | none : FractionPart []
  | digits {t : Text} : IsDigits t → FractionPart ('.' :: t)

inductive ExponentPart : Text → Prop
  | none : ExponentPart []
  | digits {e : Char} {sign t : Text} : e = 'e' ∨ e = 'E' →
      sign = [] ∨ sign = ['+'] ∨ sign = ['-'] → IsDigits t → ExponentPart (e :: (sign ++ t))

inductive Unsigned : Text → Prop
  | parts {whole fraction exponent : Text} : WholePart whole → FractionPart fraction →
      ExponentPart exponent → Unsigned (whole ++ (fraction ++ exponent))

inductive Scalar : Text → Prop
  | null : Scalar "null".toList
  | true : Scalar "true".toList
  | false : Scalar "false".toList
  | number {t : Text} : Unsigned t → Scalar t
  | negative {t : Text} : Unsigned t → Scalar ('-' :: t)
  | text {literal : Text} : Literal literal → Scalar ('"' :: (literal ++ ['"']))

/-- The text of a JSON value of any kind, from its first character to its last. The members of a
record are pairs of what stands between the quotation marks of the key, and of the value's text. -/
inductive IsValue : Text → Prop
  | scalar {t : Text} : Scalar t → IsValue t
  | list {items : List Text} {t : Text} : (∀ v ∈ items, IsValue v) →
      Separated Eq ']' true items t → IsValue ('[' :: t)
  | record {members : List (Text × Text)} {t : Text} : (∀ m ∈ members, Literal m.1) →
      (∀ m ∈ members, IsValue m.2) → Separated (MemberOf Eq Eq) '\x7d' true members t →
      IsValue ('\x7b' :: t)

/-! ### Values written -/

section

variable {α : Type} {part : α → Text → Prop} {t : Text}

theorem isValue_quote (t : Text) : IsValue (quote t) :=
  .scalar (.text (spells_escaped t).literal)

theorem isValue_ofNat (n : Nat) : IsValue (Text.ofNat n) := by
  have whole : WholePart (Text.ofNat n) := by
    rcases Nat.eq_zero_or_pos n with rfl | positive
    · rw [Text.ofNat_of_lt (by decide)]
      exact .zero
    · refine .digits ⟨Text.ofNat_ne_nil n, Text.isAsciiDigit_of_mem_ofNat n⟩ fun first => ?_
      have := Text.head?_ofNat n first
      omega
  have number := Scalar.number (.parts whole .none .none)
  rw [List.append_nil, List.append_nil] at number
  exact .scalar number

theorem isValue_of_items {items : List α} (values : ∀ a ∈ items, ∀ v, part a v → IsValue v)
    (separated : Separated part ']' true items t) : IsValue ('[' :: t) := by
  have each : ∀ a ∈ items, ∀ v, part a v → ∃ v', IsValue v' ∧ v' = v :=
    fun a member v here => ⟨v, values a member v here, rfl⟩
  obtain ⟨vs, valid, separated⟩ := separated.exists_parts each
  exact .list valid separated

theorem isValue_of_members {members : List (Text × α)}
    (values : ∀ m ∈ members, ∀ v, part m.2 v → IsValue v)
    (separated : Separated (MemberOf Spells part) '\x7d' true members t) :
    IsValue ('\x7b' :: t) := by
  have each : ∀ m ∈ members, ∀ t, MemberOf Spells part m t →
      ∃ m', (Literal m'.1 ∧ IsValue m'.2) ∧ MemberOf Eq Eq m' t := by
    intro m member t here
    obtain @⟨literal, key, _, _, v, a, spells, before, after, here⟩ := here
    exact ⟨(literal, v), ⟨spells.literal, values (key, a) member v here⟩,
      .member rfl before after rfl⟩
  obtain ⟨ms, valid, separated⟩ := separated.exists_parts each
  exact .record (fun m member => (valid m member).1) (fun m member => (valid m member).2) separated

theorem isValue_of_written {j : Json} (written : Written j t) : IsValue t := by
  induction j using induction_on_parts generalizing t with
  | natural n =>
    cases written
    exact isValue_ofNat n
  | text u =>
    cases written
    exact isValue_quote u
  | list items ih =>
    cases written with
    | list separated => exact isValue_of_items (fun j member _ here => ih j member here) separated
  | record members ih =>
    cases written with
    | record separated =>
      exact isValue_of_members (fun m member _ here => ih m member here)
        (separated.imp fun _ _ => Reader.memberOf_of_written)

end

namespace Reader

variable {t t' tail : Text}

/-! ### Numbers -/

theorem takes_skipDigits {ds : Text} (digits : IsDigits ds)
    (stops : ∀ c ∈ t.head?, isAsciiDigit c = false) : Takes skipDigits (ds ++ t) () t := by
  intro s holds
  refine ⟨s.drop ds.length, ?_, holds.drop⟩
  rw [skipDigits, Source.skipWhile, holds.rest, takeWhile_append digits.digits stops]

theorem takes_digitNext (t : Text) : Takes digitNext t (t.head?.any isAsciiDigit) t :=
  (takes_peek? t).bind (takes_pure _ t)

theorem exists_cons_of_isDigits {ds : Text} (digits : IsDigits ds) (t : Text) :
    ∃ c rest, ds ++ t = c :: rest ∧ isAsciiDigit c = true := by
  obtain ⟨c, rest, rfl⟩ := List.exists_cons_of_ne_nil digits.nonempty
  exact ⟨c, rest ++ t, rfl, digits.digits c List.mem_cons_self⟩

theorem takes_digitNext_true {ds : Text} (digits : IsDigits ds) (t : Text) :
    Takes digitNext (ds ++ t) true (ds ++ t) := by
  have next := takes_digitNext (ds ++ t)
  obtain ⟨c, rest, shape, digit⟩ := exists_cons_of_isDigits digits t
  rw [shape] at next ⊢
  rwa [List.head?_cons, Option.any_some, digit] at next

theorem takes_digitNext_false (stops : ∀ c ∈ t.head?, isAsciiDigit c = false) :
    Takes digitNext t false t := by
  have next := takes_digitNext t
  cases first : t.head? with
  | none => rwa [first] at next
  | some c => rwa [first, Option.any_some, stops c first] at next

theorem takes_skipExponent {e : Char} {sign ds : Text}
    (signed : sign = [] ∨ sign = ['+'] ∨ sign = ['-']) (digits : IsDigits ds)
    (stops : ∀ c ∈ t.head?, isAsciiDigit c = false) :
    Takes skipExponent (e :: (sign ++ (ds ++ t))) () t := by
  have skips : Takes (do
      if ← digitNext then skipDigits else failAhead .invalidNumber) (ds ++ t) () t :=
    (takes_digitNext_true digits t).bind (takes_skipDigits digits stops)
  rw [skipExponent]
  refine (takes_advance e _).bind ((takes_peek? _).bind ((takes_peek? _).bind ?_))
  rcases signed with rfl | rfl | rfl
  · obtain ⟨c, rest, shape, digit⟩ := exists_cons_of_isDigits digits t
    have plus := ne_of_isAsciiDigit '+' digit rfl
    have minus := ne_of_isAsciiDigit '-' digit rfl
    rw [List.nil_append, if_neg (by simp [shape, plus, minus])]
    exact skips
  · exact (takes_advance '+' _).bind skips
  · exact (takes_advance '-' _).bind skips

theorem takes_skipOptionalExponent {exponent : Text} (valid : ExponentPart exponent)
    (delimited : Delimited t) : Takes skipOptionalExponent (exponent ++ t) () t := by
  rw [skipOptionalExponent]
  cases valid with
  | none =>
    refine (takes_peek? t).bind ?_
    split
    · rename_i first
      exact absurd rfl (delimited _ first).2.2.1
    · rename_i first
      exact absurd rfl (delimited _ first).2.2.2
    · exact takes_pure () t
  | @digits e _ _ letter signed digits =>
    rw [List.cons_append, List.append_assoc]
    refine (takes_peek? _).bind ?_
    have skips := takes_skipExponent (e := e) signed digits fun c first => (delimited c first).1
    rcases letter with rfl | rfl
    · exact skips
    · exact skips

/-- What follows the whole part of a number does not go on with it. -/
theorem stops_of_exponent {exponent : Text} (valid : ExponentPart exponent)
    (delimited : Delimited t) : ∀ c ∈ (exponent ++ t).head?, isAsciiDigit c = false ∧ c ≠ '.' := by
  intro c first
  cases valid with
  | none => exact ⟨(delimited c first).1, (delimited c first).2.1⟩
  | digits letter _ _ =>
    obtain rfl := Option.some.inj first
    rcases letter with rfl | rfl <;> decide

theorem stops_of_fraction {fraction exponent : Text} (valid : FractionPart fraction)
    (valid' : ExponentPart exponent) (delimited : Delimited t) :
    ∀ c ∈ (fraction ++ (exponent ++ t)).head?, isAsciiDigit c = false := by
  cases valid with
  | none => exact fun c first => (stops_of_exponent valid' delimited c first).1
  | digits digits =>
    intro c first
    obtain rfl := Option.some.inj first
    rfl

theorem takes_skipNumber {number : Text} (unsigned : Unsigned number) (delimited : Delimited t) :
    Takes skipNumber (number ++ t) () t := by
  obtain @⟨whole, fraction, exponent, valid, valid', valid''⟩ := unsigned
  have stops := stops_of_fraction valid' valid'' delimited
  have stops' := stops_of_exponent valid'' delimited
  have ends := takes_skipOptionalExponent valid'' delimited
  have parts : Takes (do
      if (← peek?) = some '.' then
        advance
        if ← digitNext then skipDigits else failAhead .invalidNumber
      skipOptionalExponent) (fraction ++ (exponent ++ t)) () t := by
    refine (takes_peek? _).bind ?_
    cases valid' with
    | none =>
      have other : (exponent ++ t).head? ≠ some '.' := fun first => (stops' _ first).2 rfl
      dsimp only
      rw [List.nil_append, if_neg other]
      exact ends
    | digits digits =>
      have skips := takes_skipDigits digits fun c first => (stops' c first).1
      exact (takes_advance '.' _).bind ((takes_digitNext_true digits _).bind (skips.bind ends))
  rw [List.append_assoc, List.append_assoc, skipNumber]
  refine (takes_peek? _).bind ?_
  cases valid with
  | zero => exact (takes_advance '0' _).bind ((takes_digitNext_false stops).bind parts)
  | digits digits nonzero =>
    have skips := takes_skipDigits digits stops
    obtain ⟨c, rest, shape, digit⟩ := exists_cons_of_isDigits digits (fraction ++ (exponent ++ t))
    dsimp only
    split
    · rename_i first
      rw [List.head?_append_of_ne_nil _ digits.nonempty] at first
      exact absurd first nonzero
    · rename_i d other first
      rw [shape] at first
      obtain rfl := Option.some.inj first
      rw [if_pos digit]
      exact skips.bind parts
    · rename_i first
      rw [shape] at first
      nomatch first

/-! ### Values inside brackets -/

theorem takes_readWord (word t : Text) : Takes (readWord word) (word ++ t) () t := by
  induction word with
  | nil => exact takes_pure () t
  | cons c word ih =>
    rw [readWord]
    refine (takes_peek? _).bind ?_
    change Takes (if c = c then _ else _) _ _ _
    rw [if_pos rfl]
    exact (takes_advance c _).bind ih

theorem takes_skipKey {blanks literal before : Text} (blank : Blank blanks)
    (valid : Literal literal) (blank' : Blank before) (t : Text) :
    Takes skipKey (blanks ++ '"' :: (literal ++ '"' :: (before ++ ':' :: t))) () t := by
  rw [skipKey]
  refine (takes_token? blank rfl).bind ((takes_advance '"' _).bind ?_)
  refine (takes_skipText valid _).bind ((takes_token? blank' rfl).bind ?_)
  exact takes_advance ':' t

theorem exists_cons_of_unsigned {number : Text} (unsigned : Unsigned number) :
    ∃ c rest, number = c :: rest ∧ isAsciiDigit c = true := by
  obtain @⟨whole, fraction, exponent, valid, -, -⟩ := unsigned
  cases valid with
  | zero => exact ⟨'0', _, rfl, rfl⟩
  | digits digits _ => exact exists_cons_of_isDigits digits _

theorem takes_skipStart_scalar {blanks v : Text} (blank : Blank blanks) (scalar : Scalar v)
    (delimited : Delimited t) : Takes skipStart (blanks ++ (v ++ t)) none t := by
  rw [skipStart]
  cases scalar with
  | null =>
    exact (takes_token? blank rfl).bind
      ((takes_advance 'n' _).bind ((takes_readWord _ t).bind (takes_pure none t)))
  | true =>
    exact (takes_token? blank rfl).bind
      ((takes_advance 't' _).bind ((takes_readWord _ t).bind (takes_pure none t)))
  | false =>
    exact (takes_token? blank rfl).bind
      ((takes_advance 'f' _).bind ((takes_readWord _ t).bind (takes_pure none t)))
  | number unsigned =>
    have skips := takes_skipNumber unsigned delimited
    obtain ⟨c, rest, rfl, digit⟩ := exists_cons_of_unsigned unsigned
    refine (takes_token? blank (isSpace_of_isAsciiDigit digit)).bind ?_
    dsimp only
    rw [if_pos digit]
    exact skips.bind (takes_pure none t)
  | negative unsigned =>
    exact (takes_token? blank rfl).bind ((takes_advance '-' _).bind
      ((takes_skipNumber unsigned delimited).bind (takes_pure none t)))
  | text valid =>
    rw [List.cons_append, List.append_assoc]
    exact (takes_token? blank rfl).bind ((takes_advance '"' _).bind
      ((takes_skipText valid t).bind (takes_pure none t)))

/-- Passing over the rest of what is open, from after an opening bracket or after a value. -/
def skipRest (afterValue : Bool) (fuel : Nat) (stack : List Bracket) : Reader Unit := do
  let stack ← skipClosing afterValue stack
  if stack.isEmpty then pure () else skipOpen fuel stack

def skipInside (fuel : Nat) (stack : List Bracket) : Reader Unit := do
  match ← skipStart with
  | some bracket => skipRest false fuel (bracket :: stack)
  | none => skipRest true fuel stack

theorem skipOpen_list (fuel : Nat) (stack : List Bracket) :
    skipOpen (fuel + 1) (.list :: stack) = skipInside fuel (.list :: stack) := by
  rw [skipOpen]
  rfl

theorem skipOpen_record (fuel : Nat) (stack : List Bracket) :
    skipOpen (fuel + 1) (.record :: stack) =
      skipKey >>= fun _ => skipInside fuel (.record :: stack) := by
  rw [skipOpen]
  rfl

/-- The rest of what is open is passed over, with a unit of fuel for each character left. -/
def Closes (stack : List Bracket) (t t' : Text) : Prop :=
  ∀ fuel, t.length ≤ fuel → Takes (skipRest true fuel stack) t () t'

theorem closes_nil (t : Text) : Closes [] t t := fun _ _ => takes_pure () t

def Passes (v : Text) : Prop :=
  ∀ ⦃fuel : Nat⦄ ⦃stack : List Bracket⦄ ⦃blanks tail t' : Text⦄, Blank blanks → Delimited tail →
    (v ++ tail).length ≤ fuel → Closes stack tail t' →
      Takes (skipInside fuel stack) (blanks ++ (v ++ tail)) () t'

structure PassesIn (bracket : Bracket) (p : Text) : Prop where
  begins : ∃ c rest, p = c :: rest ∧ Source.isSpace c = false ∧ c ≠ closing bracket
  passes : ∀ ⦃fuel : Nat⦄ ⦃stack : List Bracket⦄ ⦃blanks tail t' : Text⦄, Blank blanks →
    Delimited tail → (p ++ tail).length < fuel → Closes (bracket :: stack) tail t' →
      Takes (skipOpen fuel (bracket :: stack)) (blanks ++ (p ++ tail)) () t'

theorem passesIn_list {v : Text} (begins : Begins v) (passes : Passes v) : PassesIn .list v where
  begins := begins
  passes fuel stack blanks tail t' blank delimited enough closes := by
    obtain ⟨fuel, rfl⟩ := Nat.exists_eq_add_one_of_ne_zero (Nat.ne_zero_of_lt enough)
    rw [skipOpen_list]
    exact passes blank delimited (Nat.le_of_lt_succ enough) closes

theorem passesIn_record {literal v p : Text} (member : MemberOf Eq Eq (literal, v) p)
    (valid : Literal literal) (passes : Passes v) : PassesIn .record p where
  begins := by
    obtain ⟨rfl, before, after, rfl⟩ := member
    exact ⟨'"', _, rfl, rfl, by decide⟩
  passes fuel stack blanks tail t' blank delimited enough closes := by
    obtain ⟨fuel, rfl⟩ := Nat.exists_eq_add_one_of_ne_zero (Nat.ne_zero_of_lt enough)
    obtain ⟨rfl, before, after, rfl⟩ := member
    have enough' : (v ++ tail).length ≤ fuel := by
      simp at enough ⊢
      omega
    have value := passes after delimited enough' closes
    rw [skipOpen_record]
    have key := takes_skipKey blank valid before
    have both : Takes (skipKey >>= fun _ => skipInside fuel (.record :: stack)) _ () t' :=
      (key _).bind value
    simpa using both

theorem takes_skipRest_close {bracket : Bracket} {stack : List Bracket} {before : Text}
    {fuel : Nat} (afterValue : Bool) (blank : Blank before) (closes : Closes stack t t')
    (enough : t.length ≤ fuel) :
    Takes (skipRest afterValue fuel (bracket :: stack)) (before ++ closing bracket :: t) () t' := by
  have visible : Source.isSpace (closing bracket) = false := by cases bracket <;> rfl
  rw [skipRest, skipClosing, bind_assoc]
  refine (takes_token? blank visible).bind ?_
  dsimp only
  rw [if_pos rfl, bind_assoc]
  exact (takes_advance _ t).bind (closes fuel enough)

theorem takes_skipRest_next {bracket : Bracket} {stack : List Bracket} {before : Text}
    {fuel : Nat} (blank : Blank before)
    (goesOn : Takes (skipOpen fuel (bracket :: stack)) t () t') :
    Takes (skipRest true fuel (bracket :: stack)) (before ++ ',' :: t) () t' := by
  have other : ',' ≠ closing bracket := by cases bracket <;> decide
  rw [skipRest, skipClosing, bind_assoc]
  refine (takes_token? blank rfl).bind ?_
  dsimp only
  rw [if_neg other]
  change Takes ((advance >>= fun _ => pure (bracket :: stack)) >>= _) _ _ _
  rw [bind_assoc]
  exact (takes_advance ',' t).bind goesOn

theorem takes_skipRest_first {bracket : Bracket} {stack : List Bracket} {before : Text} {c : Char}
    {fuel : Nat} (blank : Blank before) (visible : Source.isSpace c = false)
    (other : c ≠ closing bracket)
    (goesOn : Takes (skipOpen fuel (bracket :: stack)) (c :: t) () t') :
    Takes (skipRest false fuel (bracket :: stack)) (before ++ c :: t) () t' := by
  rw [skipRest, skipClosing, bind_assoc]
  refine (takes_token? blank visible).bind ?_
  dsimp only
  rw [if_neg other]
  exact goesOn

section

variable {β : Type} {part : β → Text → Prop} {bracket : Bracket} {parts : List β}
variable {stack : List Bracket}

theorem endsNumeral_closing (bracket : Bracket) : EndsNumeral (closing bracket) := by
  cases bracket <;> decide

/-- The parts after the first are passed over, and with the closing bracket what they are in. -/
theorem closes_separated (separated : Separated part (closing bracket) false parts t)
    (each : ∀ b ∈ parts, ∀ p, part b p → PassesIn bracket p) (closes : Closes stack tail t') :
    Closes (bracket :: stack) (t ++ tail) t' := by
  -- What each part leaves to the stack is what the parts after it need.
  induction parts generalizing t with
  | nil =>
    cases separated with
    | nothing blank =>
      intro fuel enough
      have enough' : tail.length ≤ fuel := by
        simp at enough
        omega
      simpa using takes_skipRest_close true blank closes enough'
  | cons b parts ih =>
    cases separated with
    | @next _ _ before after p rest blank blank' here others =>
      intro fuel enough
      have goesOn := ih others fun c member => each c (List.mem_cons_of_mem b member)
      have ends := delimited_of_separated others (endsNumeral_closing bracket) tail
      have enough' : (p ++ (rest ++ tail)).length < fuel := by
        simp at enough ⊢
        omega
      have skips := (each b List.mem_cons_self p here).passes blank' ends enough' goesOn
      simpa using takes_skipRest_next blank skips

theorem takes_skipRest_separated (separated : Separated part (closing bracket) true parts t)
    (each : ∀ b ∈ parts, ∀ p, part b p → PassesIn bracket p) (closes : Closes stack tail t')
    {fuel : Nat} (enough : (t ++ tail).length < fuel) :
    Takes (skipRest false fuel (bracket :: stack)) (t ++ tail) () t' := by
  cases separated with
  | nothing blank =>
    have enough' : tail.length ≤ fuel := by
      simp at enough
      omega
    simpa using takes_skipRest_close false blank closes enough'
  | @first b parts before p rest blank here others =>
    obtain ⟨⟨c, more, rfl, visible, other⟩, passes⟩ := each b List.mem_cons_self p here
    have goesOn := closes_separated others
      (fun c member => each c (List.mem_cons_of_mem b member)) closes
    have ends := delimited_of_separated others (endsNumeral_closing bracket) tail
    have enough' : (c :: more ++ (rest ++ tail)).length < fuel := by
      simp at enough ⊢
      omega
    have skips := passes blank_nil ends enough' goesOn
    simpa using takes_skipRest_first blank visible other skips

end

theorem takes_skipStart_list {blanks : Text} (blank : Blank blanks) (t : Text) :
    Takes skipStart (blanks ++ '[' :: t) (some .list) t := by
  rw [skipStart]
  exact (takes_token? blank rfl).bind
    ((takes_advance _ t).bind (takes_pure (some Bracket.list) t))

theorem takes_skipStart_record {blanks : Text} (blank : Blank blanks) (t : Text) :
    Takes skipStart (blanks ++ '\x7b' :: t) (some .record) t := by
  rw [skipStart]
  exact (takes_token? blank rfl).bind
    ((takes_advance _ t).bind (takes_pure (some Bracket.record) t))

theorem begins_of_scalar {v : Text} (scalar : Scalar v) : Begins v := by
  cases scalar with
  | null => exact ⟨'n', _, rfl, rfl, by decide⟩
  | true => exact ⟨'t', _, rfl, rfl, by decide⟩
  | false => exact ⟨'f', _, rfl, rfl, by decide⟩
  | number unsigned =>
    obtain ⟨c, rest, rfl, digit⟩ := exists_cons_of_unsigned unsigned
    exact ⟨c, rest, rfl, isSpace_of_isAsciiDigit digit, ne_of_isAsciiDigit ']' digit rfl⟩
  | negative _ => exact ⟨'-', _, rfl, rfl, by decide⟩
  | text _ => exact ⟨'"', _, rfl, rfl, by decide⟩

theorem begins_of_isValue {v : Text} (value : IsValue v) : Begins v := by
  cases value with
  | scalar scalar => exact begins_of_scalar scalar
  | list _ _ => exact ⟨'[', _, rfl, rfl, by decide⟩
  | record _ _ _ => exact ⟨'\x7b', _, rfl, rfl, by decide⟩

theorem passes_of_isValue {v : Text} (value : IsValue v) : Passes v := by
  induction value with
  | scalar scalar =>
    intro fuel stack blanks tail t' blank delimited enough closes
    have enough' : tail.length ≤ fuel := by
      simp at enough
      omega
    exact (takes_skipStart_scalar blank scalar delimited).bind (closes fuel enough')
  | list values separated ih =>
    intro fuel stack blanks tail t' blank _ enough closes
    refine (takes_skipStart_list blank _).bind ?_
    have inside : Separated Eq (closing .list) true _ _ := separated
    refine takes_skipRest_separated inside ?_ closes enough
    rintro v member _ rfl
    exact passesIn_list (begins_of_isValue (values v member)) (ih v member)
  | record literals _ separated ih =>
    intro fuel stack blanks tail t' blank _ enough closes
    refine (takes_skipStart_record blank _).bind ?_
    have inside : Separated (MemberOf Eq Eq) (closing .record) true _ _ := separated
    refine takes_skipRest_separated inside ?_ closes enough
    exact fun m member p here => passesIn_record here (literals m member) (ih m member)

/-- A value of any kind is passed over, however deep it is. -/
theorem admits_skipValue {v : Text} (value : IsValue v) : Admits skipValue v () := by
  intro blanks tail blank delimited
  rw [skipValue]
  refine takes_size_bind fun n enough => ?_
  have enough' : (v ++ tail).length ≤ n := by
    simp at enough ⊢
    omega
  exact passes_of_isValue value blank delimited enough' (closes_nil tail)

end Reader

end Storygraph.Json
