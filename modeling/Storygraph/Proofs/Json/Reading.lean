import Mathlib.Data.List.Forall2
import Mathlib.Data.List.TakeWhile
import Storygraph.Proofs.Json.Strings
import Storygraph.Proofs.Numerals

/-!
# Reading what is written

A reader of values accepts a value when it gives the same answer for every text of the value,
whatever the blanks and whatever follows. `accepts_text`, `accepts_natural`, `accepts_list` and
`accepts_record` say so of the readers that others are made of. They come from what readers make
of a list or record whose parts they admit, however these are spelled (`admits_list`,
`admits_record`).
-/

namespace Storygraph.Json

namespace Reader

variable {α β : Type} {a : α} {b : β} {t t' t'' : Text}

/-! ### Values -/

def EndsNumeral (c : Char) : Prop := isAsciiDigit c = false ∧ c ≠ '.' ∧ c ≠ 'e' ∧ c ≠ 'E'

instance : DecidablePred EndsNumeral := fun _ => inferInstanceAs (Decidable (_ ∧ _))

/-- A numeral ends where `t` begins. -/
def Delimited (t : Text) : Prop := ∀ c ∈ t.head?, EndsNumeral c

theorem endsNumeral_of_isSpace {c : Char} (space : Source.isSpace c = true) : EndsNumeral c := by
  simp only [Source.isSpace, Bool.or_eq_true, beq_iff_eq] at space
  rcases space with ((rfl | rfl) | rfl) | rfl <;> decide

theorem delimited_append {blanks : Text} (blank : Blank blanks) {c : Char} (ends : EndsNumeral c)
    (t : Text) : Delimited (blanks ++ c :: t) := by
  intro d first
  cases blanks with
  | nil => exact Option.some.inj first ▸ ends
  | cons e blanks =>
    exact Option.some.inj first ▸ endsNumeral_of_isSpace (blank e List.mem_cons_self)

/-- Reading a text, with blanks before it and whatever may follow it, gives `a`. -/
def Admits (read : Reader α) (t : Text) (a : α) : Prop :=
  ∀ ⦃blanks tail : Text⦄, Blank blanks → Delimited tail →
    Takes read (blanks ++ (t ++ tail)) a tail

/-- Reading any text of a value, with blanks before it and whatever may follow it, gives `a`. -/
def Accepts (read : Reader α) (value : Json) (a : α) : Prop :=
  ∀ ⦃blanks t tail : Text⦄, Blank blanks → Written value t → Delimited tail →
    Takes read (blanks ++ (t ++ tail)) a tail

theorem Accepts.admits {read : Reader α} {value : Json} (accepts : Accepts read value a)
    (written : Written value t) : Admits read t a :=
  fun _ _ blank delimited => accepts blank written delimited

theorem Admits.bind {read : Reader α} (admits : Admits read t a) {next : α → Reader β}
    (stays : ∀ t, Takes (next a) t b t) : Admits (read >>= next) t b :=
  fun _ tail blank delimited => (admits blank delimited).bind (stays tail)

theorem Accepts.bind {read : Reader α} {value : Json} (accepts : Accepts read value a)
    {next : α → Reader β} (stays : ∀ t, Takes (next a) t b t) : Accepts (read >>= next) value b :=
  fun _ _ tail blank written delimited => (accepts blank written delimited).bind (stays tail)

def Begins (t : Text) : Prop :=
  ∃ c rest, t = c :: rest ∧ Source.isSpace c = false ∧ c ≠ ']'

inductive TextSpelled (text : Text) : Text → Prop
  | string {literal : Text} : Spells literal text →
      TextSpelled text ('"' :: (literal ++ ['"']))

theorem textSpelled_quote (t : Text) : TextSpelled t (quote t) :=
  .string (spells_escaped t)

theorem begins_of_textSpelled {text : Text} (spelled : TextSpelled text t) : Begins t := by
  obtain ⟨-⟩ := spelled
  exact ⟨'"', _, rfl, rfl, by decide⟩

theorem admits_text {u : Text} (spelled : TextSpelled u t) : Admits text t u := by
  intro blanks tail blank _
  obtain ⟨spells⟩ := spelled
  rw [List.cons_append, List.append_assoc, text]
  refine (takes_startOfValue blank rfl).bind ?_
  rw [if_pos rfl]
  exact (takes_advance _ _).bind (takes_readText spells tail)

theorem accepts_text (t : Text) : Accepts text (.text t) t := by
  intro blanks _ tail blank written delimited
  cases written
  exact admits_text (textSpelled_quote t) blank delimited

/-! ### Numbers -/

theorem fitting_digits (m : Nat) (ds : Text) (fits : Text.valueFrom m ds ≤ maxNatural) :
    fitting m ds = (ds.length, Text.valueFrom m ds) := by
  induction ds generalizing m with
  | nil => rfl
  | cons c ds ih =>
    rw [Text.valueFrom_cons] at fits ⊢
    have fitsHere := (Text.le_valueFrom _ ds).trans fits
    rw [fitting, if_pos fitsHere, ih _ fits]
    rfl

theorem takes_readWhole (n : Nat) {tail : Text} (delimited : Delimited tail) :
    Takes (readWhole false n) tail (.natural n) tail := by
  rw [readWhole]
  refine (takes_peek? tail).bind ?_
  cases first : tail.head? with
  | none => exact takes_pure _ _
  | some c =>
    obtain ⟨_, point, small, capital⟩ := delimited c first
    split
    · rename_i same
      exact absurd (Option.some.inj same) point
    · rename_i same
      exact absurd (Option.some.inj same) small
    · rename_i same
      exact absurd (Option.some.inj same) capital
    · exact takes_pure _ _

theorem takes_digitsAhead {digits tail : Text} (inside : ∀ c ∈ digits, isAsciiDigit c = true)
    (delimited : Delimited tail) : Takes digitsAhead (digits ++ tail) digits (digits ++ tail) := by
  intro s holds
  refine ⟨s, ?_, holds⟩
  rw [digitsAhead, holds.rest, takeWhile_append inside fun c first => (delimited c first).1]

theorem takes_readUnsigned {n : Nat} (fits : n ≤ maxNatural) {tail : Text}
    (delimited : Delimited tail) :
    Takes (readUnsigned false) (Text.ofNat n ++ tail) (.natural n) tail := by
  rw [readUnsigned]
  refine (takes_digitsAhead (Text.isAsciiDigit_of_mem_ofNat n) delimited).bind ?_
  -- A zero is read by itself, as no digit may come after it.
  rcases Nat.eq_zero_or_pos n with rfl | positive
  · rw [Text.ofNat_of_lt (by decide)]
    exact (takes_advance '0' tail).bind (takes_readWhole 0 delimited)
  · have reads := fitting_digits 0 (Text.ofNat n) (by rw [Text.valueFrom_ofNat]; exact fits)
    rw [Text.valueFrom_ofNat] at reads
    split
    · rename_i empty
      exact absurd empty (Text.ofNat_ne_nil n)
    · rename_i zeros shape
      have := Text.head?_ofNat n (by rw [shape]; rfl)
      omega
    · rw [reads]
      refine (takes_drop (Text.ofNat n) tail).bind ?_
      rw [if_pos rfl]
      exact takes_readWhole n delimited

theorem ne_of_isAsciiDigit {c : Char} (d : Char) (digit : isAsciiDigit c = true)
    (other : isAsciiDigit d = false) : c ≠ d := by
  rintro rfl
  exact absurd (digit.symm.trans other) (by decide)

theorem isSpace_of_isAsciiDigit {c : Char} (digit : isAsciiDigit c = true) :
    Source.isSpace c = false := by
  simp [Source.isSpace, ne_of_isAsciiDigit ' ' digit rfl, ne_of_isAsciiDigit '\n' digit rfl,
    ne_of_isAsciiDigit '\t' digit rfl, ne_of_isAsciiDigit '\r' digit rfl]

theorem exists_ofNat_eq_cons (n : Nat) :
    ∃ c more, Text.ofNat n = c :: more ∧ isAsciiDigit c = true := by
  obtain ⟨c, more, shape⟩ := List.exists_cons_of_ne_nil (Text.ofNat_ne_nil n)
  have member : c ∈ Text.ofNat n := by
    rw [shape]
    exact List.mem_cons_self
  exact ⟨c, more, shape, Text.isAsciiDigit_of_mem_ofNat n c member⟩

theorem takes_readNumber {n : Nat} (fits : n ≤ maxNatural) {tail : Text}
    (delimited : Delimited tail) :
    Takes readNumber (Text.ofNat n ++ tail) (.natural n) tail := by
  have reads := takes_readUnsigned fits delimited
  obtain ⟨c, more, shape, digit⟩ := exists_ofNat_eq_cons n
  rw [shape, List.cons_append] at reads ⊢
  rw [readNumber]
  refine (takes_peek? _).bind ?_
  rw [List.head?_cons, if_neg (by simpa using ne_of_isAsciiDigit '-' digit rfl)]
  exact reads

theorem accepts_natural {n : Nat} (fits : n ≤ maxNatural) : Accepts natural (.natural n) n := by
  intro blanks _ tail blank written delimited
  cases written
  have number := takes_readNumber fits delimited
  obtain ⟨c, more, shape, digit⟩ := exists_ofNat_eq_cons n
  rw [shape, List.cons_append] at number ⊢
  rw [natural]
  refine (takes_startOfValue blank (isSpace_of_isAsciiDigit digit)).bind ?_
  rw [if_pos (by rw [digit, Bool.or_true])]
  exact number.bind (takes_pure n tail)

/-! ### Lists -/

section

variable {part : β → Text → Prop} {close : Char} {atFirst : Bool} {parts : List β}

theorem delimited_of_separated (separated : Separated part close false parts t)
    (ends : EndsNumeral close) (tail : Text) : Delimited (t ++ tail) := by
  cases separated with
  | nothing blank =>
    rw [List.append_assoc]
    exact delimited_append blank ends tail
  | next blank _ _ _ =>
    rw [List.append_assoc]
    exact delimited_append blank (by decide) _

/-- Each part but the first has a comma before it, and a closing bracket comes last. -/
theorem length_le_of_separated (separated : Separated part close atFirst parts t) :
    parts.length + (if atFirst then 0 else 1) ≤ t.length := by
  induction separated with
  | nothing _ => split <;> simp
  | first _ _ _ ih => simp at ih ⊢; omega
  | next _ _ _ _ ih => simp at ih ⊢; omega

end

theorem begins_of_written {value : Json} (written : Written value t) : Begins t := by
  cases written with
  | natural n =>
    obtain ⟨c, more, shape, digit⟩ := exists_ofNat_eq_cons n
    exact ⟨c, more, shape, isSpace_of_isAsciiDigit digit, ne_of_isAsciiDigit ']' digit rfl⟩
  | text t => exact ⟨'"', _, rfl, rfl, by decide⟩
  | list _ => exact ⟨'[', _, rfl, rfl, by decide⟩
  | record _ => exact ⟨'\x7b', _, rfl, rfl, by decide⟩

theorem takes_nextItem_end (atFirst : Bool) {blanks : Text} (blank : Blank blanks) (t : Text) :
    Takes (nextItem atFirst) (blanks ++ ']' :: t) false (']' :: t) := by
  rw [nextItem]
  exact (takes_token? blank rfl).bind (takes_pure false _)

theorem takes_nextItem_first {blanks : Text} (blank : Blank blanks) (begins : Begins t)
    (tail : Text) : Takes (nextItem true) (blanks ++ (t ++ tail)) true (t ++ tail) := by
  obtain ⟨c, more, rfl, visible, goesOn⟩ := begins
  rw [nextItem]
  refine (takes_token? blank visible).bind ?_
  split
  · contradiction
  · rename_i same
    exact absurd (Option.some.inj same) goesOn
  · exact takes_pure true _

theorem takes_nextItem_next {before after : Text} (blank : Blank before) (blank' : Blank after)
    (begins : Begins t) (tail : Text) :
    Takes (nextItem false) (before ++ ',' :: (after ++ (t ++ tail))) true (t ++ tail) := by
  obtain ⟨c, more, rfl, visible, goesOn⟩ := begins
  rw [nextItem]
  refine (takes_token? blank rfl).bind ?_
  refine (takes_advance ',' _).bind ((takes_token? blank' visible).bind ?_)
  split
  · contradiction
  · rename_i same
    exact absurd (Option.some.inj same) goesOn
  · exact takes_pure true _

section

variable {part : β → Text → Prop} {atFirst : Bool} {b : β} {parts : List β}

theorem takes_nextItem_of_nil (separated : Separated part ']' atFirst [] t) (tail : Text) :
    Takes (nextItem atFirst) (t ++ tail) false (']' :: tail) := by
  cases separated with
  | nothing blank => simpa using takes_nextItem_end atFirst blank tail

theorem takes_nextItem_of_cons (separated : Separated part ']' atFirst (b :: parts) t)
    (begins : ∀ p, part b p → Begins p) (tail : Text) :
    ∃ p rest, part b p ∧ Separated part ']' false parts rest ∧
      Takes (nextItem atFirst) (t ++ tail) true (p ++ (rest ++ tail)) := by
  cases separated with
  | @first _ _ before p rest blank here others =>
    refine ⟨p, rest, here, others, ?_⟩
    simpa using takes_nextItem_first blank (begins p here) (rest ++ tail)
  | @next _ _ before after p rest blank blank' here others =>
    refine ⟨p, rest, here, others, ?_⟩
    simpa using takes_nextItem_next blank blank' (begins p here) (rest ++ tail)

def ItemFits (read : Reader α) (part : β → Text → Prop) (b : β) (a : α) : Prop :=
  ∀ ⦃t⦄, part b t → Begins t ∧ Admits read t a

theorem takes_items {read : Reader α} {as : List α}
    (fits : List.Forall₂ (ItemFits read part) parts as)
    (separated : Separated part ']' atFirst parts t) {fuel : Nat} (enough : parts.length < fuel)
    (tail : Text) : Takes (items read fuel atFirst) (t ++ tail) as (']' :: tail) := by
  -- Each item takes a unit of fuel, and seeing the closing bracket takes the last.
  induction fits generalizing t fuel atFirst with
  | nil =>
    obtain ⟨fuel, rfl⟩ := Nat.exists_eq_add_one_of_ne_zero (Nat.ne_of_gt enough)
    rw [items]
    exact (takes_nextItem_of_nil separated tail).bind (takes_pure [] _)
  | cons fit _ ih =>
    obtain ⟨fuel, rfl⟩ := Nat.exists_eq_add_one_of_ne_zero (Nat.ne_zero_of_lt enough)
    obtain ⟨p, rest, here, others, moves⟩ :=
      takes_nextItem_of_cons separated (fun p here => (fit here).1) tail
    have reads := (fit here).2 blank_nil (delimited_of_separated others (by decide) tail)
    rw [items]
    exact moves.bind (reads.bind
      ((ih others (Nat.lt_of_succ_lt_succ enough)).bind (takes_pure _ _)))

end

theorem takes_leaveList (tail : Text) : Takes leaveList (']' :: tail) () tail := by
  rw [leaveList]
  exact (takes_token? blank_nil rfl).bind (takes_advance ']' tail)

theorem admits_list {read : Reader α} {part : β → Text → Prop} {parts : List β}
    (separated : Separated part ']' true parts t) {as : List α}
    (fits : List.Forall₂ (ItemFits read part) parts as) : Admits (list read) ('[' :: t) as := by
  intro blanks tail blank _
  rw [list, List.cons_append]
  refine (takes_startOfValue blank rfl).bind ?_
  rw [if_pos rfl]
  refine (takes_advance '[' _).bind ?_
  refine takes_size_bind fun n enough => Takes.within ?_ (takes_leaveList tail)
  have length := length_le_of_separated separated
  rw [List.length_append] at enough
  exact takes_items fits separated (by omega) tail

theorem Accepts.itemFits {read : Reader α} {value : Json} (accepts : Accepts read value a) :
    ItemFits read Written value a :=
  fun _ written => ⟨begins_of_written written, accepts.admits written⟩

theorem accepts_list {read : Reader α} {values : List Json} {as : List α}
    (accepts : List.Forall₂ (Accepts read) values as) : Accepts (list read) (.list values) as := by
  intro blanks _ tail blank written delimited
  cases written with
  | list separated =>
    exact admits_list separated (accepts.imp fun _ _ accept => accept.itemFits) blank delimited

theorem accepts_list_map {read : Reader α} {toJson : α → Json} {as : List α}
    (accepts : ∀ a ∈ as, Accepts read (toJson a) a) :
    Accepts (list read) (.list (as.map toJson)) as :=
  accepts_list (List.forall₂_map_left_iff.mpr (List.forall₂_same.mpr accepts))

/-! ### Records -/

variable {σ : Type}

/-- The members set the state from `st` to `st'`: each belongs to a field that has not been read
before and accepts its value. -/
inductive Fills (fields : List (Field σ)) : List (Text × Json) → σ → σ → Prop
  | nothing (st : σ) : Fills fields [] st st
  | member {key : Text} {value : Json} {rest : List (Text × Json)} {field : Field σ}
    {st next st' : σ} : fields.find? (·.key.toList == key) = some field →
      field.isRead st = false → Accepts (field.read st) value next →
      Fills fields rest next st' → Fills fields ((key, value) :: rest) st st'

theorem takes_nextKey_end (atFirst : Bool) {blanks : Text} (blank : Blank blanks) (t : Text) :
    Takes (nextKey atFirst) (blanks ++ '\x7d' :: t) false ('\x7d' :: t) := by
  rw [nextKey]
  exact (takes_token? blank rfl).bind (takes_pure false _)

theorem takes_nextKey_first {blanks : Text} (blank : Blank blanks) (t : Text) :
    Takes (nextKey true) (blanks ++ '"' :: t) true t := by
  rw [nextKey]
  refine (takes_token? blank rfl).bind ?_
  exact (takes_advance '"' t).bind (takes_pure true t)

theorem takes_nextKey_next {before after : Text} (blank : Blank before) (blank' : Blank after)
    (t : Text) : Takes (nextKey false) (before ++ ',' :: (after ++ '"' :: t)) true t := by
  rw [nextKey]
  refine (takes_token? blank rfl).bind ?_
  refine (takes_advance ',' _).bind ((takes_token? blank' rfl).bind ?_)
  exact (takes_advance '"' t).bind (takes_pure true t)

section

variable {keyed : Text → Text → Prop} {part : β → Text → Prop} {atFirst : Bool} {key : Text}
variable {b : β} {values : List (Text × β)}

theorem takes_nextKey_of_nil (separated : Separated (MemberOf keyed part) '\x7d' atFirst [] t)
    (tail : Text) : Takes (nextKey atFirst) (t ++ tail) false ('\x7d' :: tail) := by
  cases separated with
  | nothing blank => simpa using takes_nextKey_end atFirst blank tail

theorem takes_nextKey_of_cons
    (separated : Separated (MemberOf keyed part) '\x7d' atFirst ((key, b) :: values) t)
    (tail : Text) :
    ∃ literal before after p rest, keyed literal key ∧ Blank before ∧ Blank after ∧ part b p ∧
      Separated (MemberOf keyed part) '\x7d' false values rest ∧
      Takes (nextKey atFirst) (t ++ tail) true
        (literal ++ '"' :: (before ++ ':' :: (after ++ (p ++ (rest ++ tail))))) := by
  cases separated with
  | first blank member others =>
    obtain ⟨keyed, before, after, here⟩ := member
    refine ⟨_, _, _, _, _, keyed, before, after, here, others, ?_⟩
    have moves := takes_nextKey_first blank
    simpa using moves _
  | next blank blank' member others =>
    obtain ⟨keyed, before, after, here⟩ := member
    refine ⟨_, _, _, _, _, keyed, before, after, here, others, ?_⟩
    have moves := takes_nextKey_next blank blank'
    simpa using moves _

end

theorem takes_colon {blanks : Text} (blank : Blank blanks) (t : Text) :
    Takes colon (blanks ++ ':' :: t) () t := by
  rw [colon]
  exact (takes_token? blank rfl).bind (takes_advance ':' t)

/-- The members set the state from `st` to `st'`, each read from any text of its value: it belongs
to a field that has not been read before, or to none. -/
inductive Gathers (part : β → Text → Prop) (fields : List (Field σ)) :
    List (Text × β) → σ → σ → Prop
  | nothing (st : σ) : Gathers part fields [] st st
  | known {key : Text} {b : β} {rest : List (Text × β)} {field : Field σ} {st next st' : σ} :
      fields.find? (·.key.toList == key) = some field → field.isRead st = false →
      (∀ ⦃t⦄, part b t → Admits (field.read st) t next) →
      Gathers part fields rest next st' → Gathers part fields ((key, b) :: rest) st st'
  | unknown {key : Text} {b : β} {rest : List (Text × β)} {st st' : σ} :
      fields.find? (·.key.toList == key) = none → (∀ ⦃t⦄, part b t → Admits skipValue t ()) →
      Gathers part fields rest st st' → Gathers part fields ((key, b) :: rest) st st'

theorem Fills.gathers {fields : List (Field σ)} {values : List (Text × Json)} {st st' : σ}
    (fills : Fills fields values st st') : Gathers Written fields values st st' := by
  induction fills with
  | nothing st => exact .nothing st
  | member known unread accepts _ ih =>
    exact .known known unread (fun _ written => accepts.admits written) ih

section

variable {part : β → Text → Prop} {fields : List (Field σ)} {st st' : σ} {atFirst : Bool}
variable {values : List (Text × β)}

theorem takes_members (separated : Separated (MemberOf Spells part) '\x7d' atFirst values t)
    (gathers : Gathers part fields values st st') {fuel : Nat} (enough : values.length < fuel)
    (tail : Text) :
    Takes (members fields fuel atFirst st) (t ++ tail) st' ('\x7d' :: tail) := by
  induction gathers generalizing t fuel atFirst with
  | nothing st =>
    obtain ⟨fuel, rfl⟩ := Nat.exists_eq_add_one_of_ne_zero (Nat.ne_of_gt enough)
    rw [members]
    exact (takes_nextKey_of_nil separated tail).bind (takes_pure st _)
  | @known key b rest field st next st' known unread admits _ ih =>
    obtain ⟨fuel, rfl⟩ := Nat.exists_eq_add_one_of_ne_zero (Nat.ne_zero_of_lt enough)
    obtain ⟨literal, before, after, p, left, spells, blank, blank', here, others, moves⟩ :=
      takes_nextKey_of_cons separated tail
    have reads := admits here blank' (delimited_of_separated others (by decide) tail)
    rw [members]
    refine moves.bind ((takes_readText spells _).bind ?_)
    rw [known]
    change Takes (if field.isRead st = true then _ else _) _ _ _
    rw [if_neg (by rw [unread]; exact Bool.false_ne_true)]
    exact (takes_colon blank _).bind (reads.bind (ih others (Nat.lt_of_succ_lt_succ enough)))
  | unknown unknown passes _ ih =>
    obtain ⟨fuel, rfl⟩ := Nat.exists_eq_add_one_of_ne_zero (Nat.ne_zero_of_lt enough)
    obtain ⟨literal, before, after, p, left, spells, blank, blank', here, others, moves⟩ :=
      takes_nextKey_of_cons separated tail
    have skips := passes here blank' (delimited_of_separated others (by decide) tail)
    rw [members]
    refine moves.bind ((takes_readText spells _).bind ?_)
    rw [unknown]
    exact (takes_colon blank _).bind (skips.bind (ih others (Nat.lt_of_succ_lt_succ enough)))

end

theorem takes_leaveRecord (tail : Text) : Takes leaveRecord ('\x7d' :: tail) () tail := by
  rw [leaveRecord]
  exact (takes_token? blank_nil rfl).bind (takes_advance '\x7d' tail)

theorem admits_record {shape : Shape σ α} {part : β → Text → Prop} {values : List (Text × β)}
    (separated : Separated (MemberOf Spells part) '\x7d' true values t) (st : σ)
    (gathers : Gathers part shape.fields values shape.start st)
    (finishes : shape.finish st = .ok a) : Admits (record shape) ('\x7b' :: t) a := by
  intro blanks tail blank _
  rw [record, List.cons_append]
  refine (takes_startOfValue blank rfl).bind ?_
  refine (takes_advance '\x7b' _).bind ?_
  refine Takes.within (takes_size_bind fun n enough => ?_) (takes_leaveRecord tail)
  have length := length_le_of_separated separated
  rw [List.length_append] at enough
  refine (takes_members separated gathers (by omega) tail).bind ?_
  rw [Shape.value, finishes]
  exact takes_pure a _

theorem memberOf_of_written {m : Text × Json} (written : MemberWritten Written m t) :
    MemberOf Spells Written m t := by
  obtain ⟨before, after, written⟩ := written
  simpa [quote] using MemberOf.member (spells_escaped _) before after written

theorem accepts_record {shape : Shape σ α} {values : List (Text × Json)} (st : σ)
    (fills : Fills shape.fields values shape.start st) (finishes : shape.finish st = .ok a) :
    Accepts (record shape) (.record values) a := by
  intro blanks _ tail blank written delimited
  cases written with
  | record separated =>
    exact admits_record (separated.imp fun _ _ => memberOf_of_written) st fills.gathers finishes
      blank delimited

theorem delimited_of_blank {blanks : Text} (blank : Blank blanks) : Delimited blanks :=
  fun c first => endsNumeral_of_isSpace (blank c (List.mem_of_mem_head? first))

/-- What a reader admits, it reads from the text with nothing but blanks around it. -/
theorem run_of_admits {read : Reader α} (admits : Admits read t a) {before after : Text}
    (blank : Blank before) (blank' : Blank after) : run read (before ++ (t ++ after)) = .ok a := by
  have whole : Takes (do
      let a ← read
      if (← token?).isSome then failAhead .trailingCharacters else return a) _ a [] :=
    (admits blank (delimited_of_blank blank')).bind
      ((takes_token?_end blank').bind (takes_pure a []))
  obtain ⟨s, runs, _⟩ := whole (.start (before ++ (t ++ after))) ⟨rfl, Nat.le_refl _⟩
  simp only [run]
  rw [runs]

/-- What a reader accepts, it reads from any text of the value with nothing but blanks after it. -/
theorem run_of_accepts_append {read : Reader α} {value : Json} (accepts : Accepts read value a)
    (written : Written value t) {blanks : Text} (blank : Blank blanks) :
    run read (t ++ blanks) = .ok a :=
  run_of_admits (accepts.admits written) blank_nil blank

theorem run_of_accepts {read : Reader α} {value : Json} (accepts : Accepts read value a)
    (written : Written value t) : run read t = .ok a := by
  simpa using run_of_accepts_append accepts written blank_nil

/-- A fault without a place gets the place where reading stops. -/
theorem run_of_floating {read : Reader α} {fault : Fault} {s : Source}
    (fails : read (.start t) = .error (.floating fault s)) :
    run read t = .error ⟨fault, s.place⟩ := by
  have stops : ∀ next : α → Reader α, (read >>= next) (.start t) = .error (.floating fault s) := by
    intro next
    change Except.bind (read (.start t)) _ = _
    rw [fails]
    rfl
  simp only [run]
  rw [stops]

end Reader

end Storygraph.Json
