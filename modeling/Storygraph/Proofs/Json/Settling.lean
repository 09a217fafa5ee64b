import Storygraph.Proofs.Json.Answers
import Storygraph.Proofs.Json.Skipping

/-!
# Where readers stop

A reader that answers where a value stands has read just the value, also if a value of another type
was wanted (`exact_text`, `exact_list`, `exact_record`). So whatever the values of its members are,
a record in which a field occurs twice is never read (`never_record_of_twice`), and neither is what
it is in (`never_list`, `never_record_of_member`).
-/

namespace Storygraph.Json

variable {t : Text}

/-! ### Values by their first character -/

theorem first_of_scalar {c : Char} (scalar : Scalar (c :: t)) :
    (c = '"' ∧ ∃ literal, Literal literal ∧ t = literal ++ ['"']) ∨ c ∈ ['n', 't', 'f', '-'] ∨
      isAsciiDigit c = true := by
  generalize shape : c :: t = v at scalar
  have head : ∀ {d : Char} {rest : Text}, c :: t = d :: rest → c = d :=
    fun shape => (List.cons.inj shape).1
  cases scalar with
  | number unsigned =>
    obtain ⟨d, rest, rfl, digit⟩ := Reader.exists_cons_of_unsigned unsigned
    exact .inr (.inr (head shape ▸ digit))
  | text valid => exact .inl ⟨head shape, _, valid, (List.cons.inj shape).2⟩
  | null => exact .inr (.inl (by simp [head (d := 'n') shape]))
  | true => exact .inr (.inl (by simp [head (d := 't') shape]))
  | false => exact .inr (.inl (by simp [head (d := 'f') shape]))
  | negative _ => exact .inr (.inl (by simp [head (d := '-') shape]))

theorem exists_of_isValue_text (value : IsValue ('"' :: t)) :
    ∃ literal, Literal literal ∧ t = literal ++ ['"'] := by
  cases value with
  | scalar scalar =>
    rcases first_of_scalar scalar with ⟨-, string⟩ | other | digit
    · exact string
    · exact absurd other (by decide)
    · nomatch digit

theorem exists_of_isValue_list (value : IsValue ('[' :: t)) :
    ∃ items, (∀ v ∈ items, IsValue v) ∧ Separated Eq ']' true items t := by
  cases value with
  | scalar scalar =>
    rcases first_of_scalar scalar with ⟨other, -⟩ | other | digit
    · nomatch other
    · exact absurd other (by decide)
    · nomatch digit
  | list values separated => exact ⟨_, values, separated⟩

theorem exists_of_isValue_record (value : IsValue ('\x7b' :: t)) :
    ∃ members, (∀ m ∈ members, Literal m.1) ∧ (∀ m ∈ members, IsValue m.2) ∧
      Separated (MemberOf Eq Eq) '\x7d' true members t := by
  cases value with
  | scalar scalar =>
    rcases first_of_scalar scalar with ⟨other, -⟩ | other | digit
    · nomatch other
    · exact absurd other (by decide)
    · nomatch digit
  | record literals values separated => exact ⟨_, literals, values, separated⟩

namespace Reader

variable {α σ : Type} {good : α → Text → Prop} {vs : List Text} {atFirst : Bool} {fuel : Nat}

theorem settles_of_ensures {read : Reader α} (never : Ensures read fun _ => False) :
    Settles read t good :=
  settles_of_never fun s a s' answers => never s a s' answers

theorem Settles.and {read : Reader α} {ok : α → Prop} (settles : Settles read t good)
    (ensures : Ensures read ok) : Settles read t fun a u => good a u ∧ ok a := by
  intro s here a s' answers
  obtain ⟨u, left, holds⟩ := settles s here a s' answers
  exact ⟨u, left, holds, ensures s a s' answers⟩

/-- Where a value of any kind stands, the reader reads just the value if it answers at all. -/
def Exact (read : Reader α) : Prop :=
  ∀ ⦃v : Text⦄, IsValue v → ∀ ⦃blanks tail : Text⦄, Blank blanks → Delimited tail →
    Settles read (blanks ++ (v ++ tail)) fun _ u => u = tail

def Never (read : Reader α) (v : Text) : Prop :=
  ∀ ⦃blanks tail : Text⦄, Blank blanks → Delimited tail →
    Settles read (blanks ++ (v ++ tail)) fun _ _ => False

theorem Exact.settles {read : Reader α} (exact : Exact read) {v : Text} (value : IsValue v)
    {blanks tail : Text} (blank : Blank blanks) (delimited : Delimited tail) :
    Settles read (blanks ++ (v ++ tail)) fun _ u => u = tail ∧ ¬Never read v := by
  by_cases never : Never read v
  · exact (never blank delimited).mono fun _ _ impossible => impossible.elim
  · exact (exact value blank delimited).mono fun _ _ left => ⟨left, never⟩

theorem Exact.bind_pure {β : Type} {read : Reader α} (exact : Exact read) (f : α → β) :
    Exact (do return f (← read)) :=
  fun _ value _ _ blank delimited =>
    (exact value blank delimited).bind fun _ _ left => settles_pure left

theorem Never.bind {β : Type} {read : Reader α} {v : Text} (never : Never read v)
    (next : α → Reader β) : Never (read >>= next) v :=
  fun _ _ blank delimited =>
    (never blank delimited).bind fun _ _ impossible => impossible.elim

theorem exact_text : Exact text := by
  intro v value blanks tail blank _
  obtain ⟨c, rest, rfl, visible, -⟩ := begins_of_isValue value
  rw [text]
  refine (takes_startOfValue blank visible).settles_bind ?_
  by_cases quote : c = '"'
  · subst quote
    obtain ⟨literal, valid, rfl⟩ := exists_of_isValue_text value
    rw [if_pos rfl]
    refine (takes_advance _ _).settles_bind ?_
    simpa using settles_readText valid tail
  · rw [if_neg quote]
    exact settles_of_ensures (ensures_failType _)

/-! ### Lists -/

theorem settles_items {read : Reader α} (exact : Exact read)
    (separated : Separated Eq ']' atFirst vs t) (values : ∀ v ∈ vs, IsValue v)
    (enough : vs.length < fuel) (tail : Text) :
    Settles (items read fuel atFirst) (t ++ tail) fun _ u =>
      u = ']' :: tail ∧ ∀ v ∈ vs, ¬Never read v := by
  induction vs generalizing t fuel atFirst with
  | nil =>
    obtain ⟨fuel, rfl⟩ := Nat.exists_eq_add_one_of_ne_zero (Nat.ne_of_gt enough)
    rw [items]
    exact (takes_nextItem_of_nil separated tail).settles_bind (settles_pure ⟨rfl, by simp⟩)
  | cons v vs ih =>
    obtain ⟨fuel, rfl⟩ := Nat.exists_eq_add_one_of_ne_zero (Nat.ne_zero_of_lt enough)
    obtain ⟨value, values⟩ := List.forall_mem_cons.mp values
    obtain ⟨_, rest, rfl, others, moves⟩ :=
      takes_nextItem_of_cons separated (fun _ same => same ▸ begins_of_isValue value) tail
    have ends := delimited_of_separated others (by decide) tail
    rw [items]
    refine moves.settles_bind ((exact.settles value blank_nil ends).bind fun a u here => ?_)
    obtain ⟨rfl, answers⟩ := here
    refine (ih others values (Nat.lt_of_succ_lt_succ enough)).bind fun as u later => ?_
    exact settles_pure ⟨later.1, List.forall_mem_cons.mpr ⟨answers, later.2⟩⟩

theorem settles_list {read : Reader α} (exact : Exact read)
    (separated : Separated Eq ']' true vs t) (values : ∀ v ∈ vs, IsValue v) {blanks : Text}
    (blank : Blank blanks) (tail : Text) :
    Settles (list read) (blanks ++ '[' :: (t ++ tail)) fun _ u =>
      u = tail ∧ ∀ v ∈ vs, ¬Never read v := by
  rw [list]
  refine (takes_startOfValue blank rfl).settles_bind ?_
  rw [if_pos rfl]
  refine (takes_advance _ _).settles_bind (settles_size_bind fun n enough => ?_)
  have length := length_le_of_separated separated
  have enough' : vs.length < n + 1 := by
    simp at enough length
    omega
  refine (settles_items exact separated values enough' tail).within fun _ u found => ?_
  obtain ⟨rfl, answers⟩ := found
  exact (takes_leaveList tail).settles ⟨rfl, answers⟩

theorem exact_list {read : Reader α} (exact : Exact read) : Exact (list read) := by
  intro v value blanks tail blank _
  obtain ⟨c, rest, rfl, visible, -⟩ := begins_of_isValue value
  by_cases bracket : c = '['
  · subst bracket
    obtain ⟨vs, values, separated⟩ := exists_of_isValue_list value
    exact (settles_list exact separated values blank tail).mono fun _ _ found => found.1
  · rw [list]
    refine (takes_startOfValue blank visible).settles_bind ?_
    rw [if_neg bracket]
    exact settles_of_ensures (ensures_failType _)

theorem never_list {read : Reader α} (exact : Exact read) (separated : Separated Eq ']' true vs t)
    (values : ∀ v ∈ vs, IsValue v) {v : Text} (member : v ∈ vs) (never : Never read v) :
    Never (list read) ('[' :: t) :=
  fun _ tail blank _ =>
    (settles_list exact separated values blank tail).mono fun _ _ found => found.2 v member never

/-! ### Records -/

theorem settles_leaveList (separated : Separated Eq ']' atFirst vs t)
    (values : ∀ v ∈ vs, IsValue v) (tail : Text) :
    Settles leaveList (t ++ tail) fun _ u => u = tail := by
  have refuses : ∀ {c : Char} {u : Text}, c ≠ ']' →
      Takes token? (t ++ tail) (some c) u → Settles leaveList (t ++ tail) fun _ u => u = tail := by
    intro c u other next
    rw [leaveList]
    refine next.settles_bind ?_
    split
    · rename_i same
      exact absurd (Option.some.inj same) other
    · exact settles_of_ensures (ensures_bind fun _ => ensures_bind fun _ =>
        ensures_ite (ensures_failAhead _) (ensures_failAhead _))
    · exact settles_of_ensures (ensures_failAhead _)
    · exact settles_of_ensures (ensures_failAhead _)
  cases separated with
  | nothing blank =>
    rw [leaveList]
    have next := takes_token? (t := tail) (c := ']') blank rfl
    rw [List.append_assoc]
    exact next.settles_bind ((takes_advance ']' tail).settles rfl)
  | @first v _ before _ rest blank same others =>
    obtain ⟨c, more, shape, visible, other⟩ := begins_of_isValue (values v List.mem_cons_self)
    refine refuses other (u := c :: (more ++ (rest ++ tail))) ?_
    have next := takes_token? (t := more ++ (rest ++ tail)) blank visible
    simpa [← same, shape] using next
  | @next _ _ _ after u rest blank _ _ _ =>
    have next := takes_token? (t := after ++ (u ++ (rest ++ tail))) (c := ',') blank rfl
    exact refuses (c := ',') (by decide) (by simpa using next)

/-- Fields read from a list leave the end of the list, or more of it than they read. -/
theorem settles_fieldsInOrder (shape : Shape σ α) {fields : List (Field σ)}
    (exact : ∀ field ∈ fields, ∀ st, Exact (field.read st)) (index : Nat) (st : σ)
    (separated : Separated Eq ']' (index == 0) vs t) (values : ∀ v ∈ vs, IsValue v) (tail : Text) :
    Settles (fieldsInOrder shape index fields st) (t ++ tail) fun _ u =>
      ∃ atFirst vs t, Separated Eq ']' atFirst vs t ∧ (∀ v ∈ vs, IsValue v) ∧ u = t ++ tail := by
  induction fields generalizing index st vs t with
  | nil => exact settles_pure ⟨_, vs, t, separated, values, rfl⟩
  | cons field fields ih =>
    obtain ⟨here, others⟩ := List.forall_mem_cons.mp exact
    rw [fieldsInOrder]
    cases vs with
    | nil =>
      refine (takes_nextItem_of_nil separated tail).settles_bind ?_
      rw [if_neg Bool.false_ne_true]
      split
      · exact ih others (index + 1) st (t := [']']) (.nothing blank_nil) (by simp)
      · exact settles_of_ensures (ensures_failAround _)
    | cons v vs =>
      obtain ⟨value, values⟩ := List.forall_mem_cons.mp values
      obtain ⟨_, rest, rfl, left, moves⟩ :=
        takes_nextItem_of_cons separated (fun _ same => same ▸ begins_of_isValue value) tail
      have ends := delimited_of_separated left (by decide) tail
      refine moves.settles_bind ((here st value blank_nil ends).bind fun next u after => ?_)
      subst after
      exact ih others (index + 1) next (by simpa using left) values

structure Field.Regular (fields : List (Field σ)) (field : Field σ) : Prop where
  exact : ∀ st, Exact (field.read st)
  marks : ∀ st, Ensures (field.read st) fun st' =>
    field.isRead st' = true ∧ ∀ other ∈ fields, other.isRead st = true → other.isRead st' = true

/-- No field occurs twice among the keys, or once if it has been read before. -/
def Once (fields : List (Field σ)) (st : σ) (keys : List Text) : Prop :=
  ∀ key field, fields.find? (·.key.toList == key) = some field →
    keys.count key ≤ if field.isRead st then 0 else 1

variable {fields : List (Field σ)} {field : Field σ} {st next : σ} {key : Text} {keys : List Text}

theorem Once.cons_known (known : fields.find? (·.key.toList == key) = some field)
    (unread : field.isRead st = false) (read : field.isRead next = true)
    (keeps : ∀ other ∈ fields, other.isRead st = true → other.isRead next = true)
    (once : Once fields next keys) : Once fields st (key :: keys) := by
  intro other found known'
  have others := once other found known'
  by_cases same : other = key
  · subst same
    obtain rfl := Option.some.inj (known.symm.trans known')
    rw [read, if_pos rfl] at others
    rw [unread, List.count_cons_self]
    simpa using others
  · rw [List.count_cons_of_ne (Ne.symm same)]
    cases before : found.isRead st with
    | false => exact others.trans (by split <;> decide)
    | true => rwa [keeps found (List.mem_of_find?_eq_some known') before] at others

theorem Once.cons_unknown (unknown : fields.find? (·.key.toList == key) = none)
    (once : Once fields st keys) : Once fields st (key :: keys) := by
  intro other found known
  have different : key ≠ other := by
    rintro rfl
    nomatch unknown.symm.trans known
  rw [List.count_cons_of_ne different]
  exact once other found known

def Answers (fields : List (Field σ)) (named : Text → Text → Prop) (m : Text × Text) (key : Text) :
    Prop :=
  named m.1 key ∧ ∀ field, fields.find? (·.key.toList == key) = some field →
    ∃ st, ¬Never (field.read st) m.2

/-- If the members of a record are read, they are read to its end, and no field occurs twice. What
is read of a key is `named` in the record. -/
theorem settles_members (regular : ∀ field ∈ fields, field.Regular fields)
    {keyed named : Text → Text → Prop} {ms : List (Text × Text)}
    (reads : ∀ m ∈ ms, ∀ literal, keyed literal m.1 → ∀ rest,
      Settles readText (literal ++ '"' :: rest) fun key u => u = rest ∧ named m.1 key)
    (separated : Separated (MemberOf keyed Eq) '\x7d' atFirst ms t)
    (values : ∀ m ∈ ms, IsValue m.2) (enough : ms.length < fuel) (st : σ) (tail : Text) :
    Settles (members fields fuel atFirst st) (t ++ tail) fun _ u => u = '\x7d' :: tail ∧
      ∃ keys, List.Forall₂ (Answers fields named) ms keys ∧ Once fields st keys := by
  induction ms generalizing t fuel atFirst st with
  | nil =>
    obtain ⟨fuel, rfl⟩ := Nat.exists_eq_add_one_of_ne_zero (Nat.ne_of_gt enough)
    rw [members]
    refine (takes_nextKey_of_nil separated tail).settles_bind (settles_pure ⟨rfl, [], .nil, ?_⟩)
    exact fun _ _ _ => Nat.zero_le _
  | cons m ms ih =>
    obtain ⟨fuel, rfl⟩ := Nat.exists_eq_add_one_of_ne_zero (Nat.ne_zero_of_lt enough)
    obtain ⟨value, values⟩ := List.forall_mem_cons.mp values
    obtain ⟨here, reads⟩ := List.forall_mem_cons.mp reads
    obtain ⟨literal, before, after, _, rest, keyed, blank, blank', rfl, others, moves⟩ :=
      takes_nextKey_of_cons separated tail
    have ends := delimited_of_separated others (by decide) tail
    have goesOn := ih reads others values (Nat.lt_of_succ_lt_succ enough)
    rw [members]
    refine moves.settles_bind ((here literal keyed _).bind fun key u both => ?_)
    obtain ⟨rfl, name⟩ := both
    split
    · rename_i field known
      split
      · exact settles_of_ensures (ensures_failAround _)
      · rename_i unread
        obtain ⟨exact, marks⟩ := regular field (List.mem_of_find?_eq_some known)
        refine (takes_colon blank _).settles_bind ?_
        refine (((exact st).settles value blank' ends).and (marks st)).bind fun next u all => ?_
        obtain ⟨⟨rfl, answers⟩, read, keeps⟩ := all
        refine (goesOn next).mono fun st' u found => ?_
        obtain ⟨left, keys, names, once⟩ := found
        refine ⟨left, key :: keys, .cons ⟨name, fun other known' => ?_⟩ names,
          once.cons_known known (Bool.eq_false_iff.mpr unread) read keeps⟩
        cases known.symm.trans known'
        exact ⟨st, answers⟩
    · rename_i unknown
      refine (takes_colon blank _).settles_bind ?_
      refine (admits_skipValue value blank' ends).settles_bind ?_
      refine (goesOn st).mono fun st' u found => ?_
      obtain ⟨left, keys, names, once⟩ := found
      refine ⟨left, key :: keys, .cons ⟨name, fun other known => ?_⟩ names,
        once.cons_unknown unknown⟩
      cases unknown.symm.trans known

theorem settles_value (shape : Shape σ α) (st : σ) (t : Text) :
    Settles (shape.value st) t fun _ u => u = t := by
  rw [Shape.value]
  split
  · exact settles_pure rfl
  · exact settles_of_ensures (ensures_failAround _)

section

variable {shape : Shape σ α} {keyed : Text → Text → Prop} {ms : List (Text × Text)}
variable {blanks : Text}

theorem settles_record (named : Text → Text → Prop)
    (regular : ∀ field ∈ shape.fields, field.Regular shape.fields)
    (reads : ∀ m ∈ ms, ∀ literal, keyed literal m.1 → ∀ rest,
      Settles readText (literal ++ '"' :: rest) fun key u => u = rest ∧ named m.1 key)
    (separated : Separated (MemberOf keyed Eq) '\x7d' true ms t) (values : ∀ m ∈ ms, IsValue m.2)
    (blank : Blank blanks) (tail : Text) :
    Settles (record shape) (blanks ++ '\x7b' :: (t ++ tail)) fun _ u => u = tail ∧
      ∃ keys, List.Forall₂ (Answers shape.fields named) ms keys ∧
        Once shape.fields shape.start keys := by
  rw [record]
  refine (takes_startOfValue blank rfl).settles_bind ((takes_advance _ _).settles_bind ?_)
  have inside : Settles (do
      shape.value (← members shape.fields ((← size) + 1) true shape.start)) (t ++ tail) fun _ u =>
        u = '\x7d' :: tail ∧ ∃ keys, List.Forall₂ (Answers shape.fields named) ms keys ∧
          Once shape.fields shape.start keys := by
    refine settles_size_bind fun n enough => ?_
    have length := length_le_of_separated separated
    have enough' : ms.length < n + 1 := by
      simp at enough length
      omega
    refine (settles_members regular reads separated values enough' _ tail).bind fun st u found => ?_
    exact (settles_value shape st u).mono fun _ w same => same ▸ found
  refine inside.within fun _ u found => ?_
  obtain ⟨rfl, once⟩ := found
  exact (takes_leaveRecord tail).settles ⟨rfl, once⟩

theorem exact_record (regular : ∀ field ∈ shape.fields, field.Regular shape.fields) :
    Exact (record shape) := by
  intro v value blanks tail blank _
  obtain ⟨c, rest, rfl, visible, -⟩ := begins_of_isValue value
  by_cases brace : c = '\x7b'
  · subst brace
    obtain ⟨ms, literals, values, separated⟩ := exists_of_isValue_record value
    refine (settles_record (fun _ _ => True) regular ?_ separated values blank tail).mono
      fun _ _ found => found.1
    rintro m member literal rfl rest
    exact (settles_readText (literals m member) rest).mono fun _ _ left => ⟨left, trivial⟩
  · rw [record]
    refine (takes_startOfValue blank visible).settles_bind ?_
    split
    · obtain ⟨vs, values, separated⟩ := exists_of_isValue_list value
      refine (takes_advance _ _).settles_bind ?_
      have inOrder := settles_fieldsInOrder shape
        (fun field member => (regular field member).exact) 0 shape.start separated values tail
      have inside := inOrder.bind fun st u left =>
        (settles_value shape st u).mono fun _ w same => same ▸ left
      refine inside.within fun _ u left => ?_
      obtain ⟨atFirst, vs, t, separated, values, rfl⟩ := left
      exact settles_leaveList separated values tail
    · contradiction
    · exact settles_of_ensures (ensures_failType _)

theorem settles_record_spelled (regular : ∀ field ∈ shape.fields, field.Regular shape.fields)
    (separated : Separated (MemberOf Spells Eq) '\x7d' true ms t) (values : ∀ m ∈ ms, IsValue m.2)
    (blank : Blank blanks) (tail : Text) :
    Settles (record shape) (blanks ++ ('\x7b' :: t ++ tail)) fun _ _ =>
      (∀ m ∈ ms, Answers shape.fields Eq m m.1) ∧
        Once shape.fields shape.start (ms.map Prod.fst) := by
  refine (settles_record Eq regular ?_ separated values blank tail).mono
    fun _ _ found => ?_
  · exact fun m _ literal spells rest => (takes_readText spells rest).settles ⟨rfl, rfl⟩
  · obtain ⟨-, keys, names, once⟩ := found
    obtain rfl : ms.map Prod.fst = keys := by
      rw [← List.forall₂_eq_eq_eq, List.forall₂_map_left_iff]
      exact names.imp fun _ _ here => here.1
    exact ⟨List.forall₂_same.mp (List.forall₂_map_right_iff.mp names), once⟩

/-- A record in which a field occurs twice is never read, whatever the values and wherever the
keys. -/
theorem never_record_of_twice (regular : ∀ field ∈ shape.fields, field.Regular shape.fields)
    (separated : Separated (MemberOf Spells Eq) '\x7d' true ms t) (values : ∀ m ∈ ms, IsValue m.2)
    (known : shape.fields.find? (·.key.toList == key) = some field)
    (twice : 2 ≤ (ms.map Prod.fst).count key) : Never (record shape) ('\x7b' :: t) := by
  intro blanks tail blank _
  refine (settles_record_spelled regular separated values blank tail).mono fun _ _ found => ?_
  have most := found.2 key field known
  split at most <;> omega

theorem never_record_of_member (regular : ∀ field ∈ shape.fields, field.Regular shape.fields)
    (separated : Separated (MemberOf Spells Eq) '\x7d' true ms t) (values : ∀ m ∈ ms, IsValue m.2)
    {v : Text} (member : (key, v) ∈ ms)
    (known : shape.fields.find? (·.key.toList == key) = some field)
    (never : ∀ st, Never (field.read st) v) : Never (record shape) ('\x7b' :: t) := by
  intro blanks tail blank _
  refine (settles_record_spelled regular separated values blank tail).mono fun _ _ found => ?_
  obtain ⟨st, answers⟩ := (found.1 _ member).2 field known
  exact answers (never st)

end

theorem exists_run_eq_error {read : Reader α} (never : Settles read t fun _ _ => False) :
    ∃ e, run read t = .error e := by
  cases answer : run read t with
  | error e => exact ⟨e, rfl⟩
  | ok a =>
    have whole : Settles (do
        let a ← read
        if (← token?).isSome then failAhead .trailingCharacters else return a) t fun _ _ => False :=
      never.bind fun _ _ impossible => impossible.elim
    simp only [run] at answer
    split at answer
    · rename_i b s ran
      obtain ⟨_, -, impossible⟩ := whole (.start t) ⟨rfl, Nat.le_refl _⟩ b s ran
      exact impossible.elim
    · cases answer
    · cases answer

end Reader

end Storygraph.Json
