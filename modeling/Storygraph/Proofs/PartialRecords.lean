import Mathlib.Data.List.Nodup
import Storygraph.Codec.Decode
import Storygraph.Proofs.Json.Settling

/-!
# Records with fields left out

A record of the fields of `Slots` is read from every object that has each of its fields once or not
at all, in any order and with other members of any kind between them (`Slots.admits_object`). It is
never read from an object with a field twice (`Slots.never_of_repeats`).
-/

namespace Storygraph

open Json (IsValue MemberOf Reader Separated Spells)
open Json.Reader

variable {α σ : Type}

namespace Json

def valuesOf (key : Text) (members : List (Text × Text)) : List Text :=
  (members.filter (·.1 == key)).map Prod.snd

/-- The text is an object with the members, each a key and the text of its value. -/
structure ObjectSpelled (members : List (Text × Text)) (v : Text) : Prop where
  values : ∀ m ∈ members, IsValue m.2
  spelled : ∃ t, v = '\x7b' :: t ∧ Separated (MemberOf Spells Eq) '\x7d' true members t

def ListSpelled (part : α → Text → Prop) (items : List α) (v : Text) : Prop :=
  ∃ t, v = '[' :: t ∧ Separated part ']' true items t

/-- What a field is given by the texts of its values: nothing where there is none. -/
inductive Given (spelled : α → Text → Prop) : Option α → List Text → Prop
  | omitted : Given spelled none []
  | once {a : α} {v : Text} : spelled a v → Given spelled (some a) [v]

def Repeats (fields : List (Reader.Field σ)) (v : Text) : Prop :=
  ∃ members, ObjectSpelled members v ∧
    ∃ field ∈ fields, 2 ≤ (valuesOf field.key.toList members).length

@[simp] theorem valuesOf_cons_self (key v : Text) (members : List (Text × Text)) :
    valuesOf key ((key, v) :: members) = v :: valuesOf key members := by
  simp [valuesOf]

theorem valuesOf_cons_of_ne {key other : Text} (different : other ≠ key) (v : Text)
    (members : List (Text × Text)) :
    valuesOf key ((other, v) :: members) = valuesOf key members := by
  simp [valuesOf, different]

theorem length_valuesOf (key : Text) (members : List (Text × Text)) :
    (valuesOf key members).length = (members.map Prod.fst).count key := by
  rw [valuesOf, List.length_map, ← List.countP_eq_length_filter, List.count, List.countP_map]
  rfl

theorem admits_listSpelled {read : Reader α} {part : α → Text → Prop}
    (each : ∀ a v, part a v → Begins v ∧ Admits read v a) {as : List α} {v : Text}
    (spelled : ListSpelled part as v) : Admits (Reader.list read) v as := by
  obtain ⟨t, rfl, separated⟩ := spelled
  exact admits_list separated (List.forall₂_same.mpr fun a _ => each a)

/-! ### Objects and lists as they are -/

def objectText (members : List (Text × Text)) : Text :=
  '\x7b' :: (Text.join [','] (members.map fun m => quote m.1 ++ ':' :: m.2) ++ ['\x7d'])

def listText (items : List Text) : Text := '[' :: (Text.join [','] items ++ [']'])

theorem objectSpelled_objectText {members : List (Text × Text)}
    (values : ∀ m ∈ members, IsValue m.2) : ObjectSpelled members (objectText members) := by
  refine ⟨values, _, rfl, ?_⟩
  have printed : ∀ m ∈ members, ∃ before t, Blank before ∧ MemberOf Spells Eq m t ∧
      quote m.1 ++ ':' :: m.2 = before ++ t := by
    refine fun m _ => ⟨[], _, blank_nil, ?_, rfl⟩
    simpa [quote] using
      MemberOf.member (spells_escaped m.1) blank_nil blank_nil (rfl : m.2 = m.2)
  exact separated_join printed blank_nil

theorem listSpelled_listText {part : α → Text → Prop} {items : List α} (print : α → Text)
    (printed : ∀ a ∈ items, part a (print a)) :
    ListSpelled part items (listText (items.map print)) := by
  have written : ∀ a ∈ items, ∃ before t, Blank before ∧ part a t ∧ print a = before ++ t :=
    fun a member => ⟨[], _, blank_nil, printed a member, rfl⟩
  exact ⟨_, rfl, separated_join written blank_nil⟩

theorem ObjectSpelled.isValue {members : List (Text × Text)} {v : Text}
    (object : ObjectSpelled members v) : IsValue v := by
  obtain ⟨values, t, rfl, separated⟩ := object
  refine isValue_of_members ?_ separated
  rintro m member _ rfl
  exact values m member

theorem isValue_listText {items : List Text} (values : ∀ v ∈ items, IsValue v) :
    IsValue (listText items) := by
  have spelled : ListSpelled Eq items (listText (items.map id)) :=
    listSpelled_listText id fun _ _ => rfl
  obtain ⟨t, shape, separated⟩ := spelled
  rw [List.map_id] at shape
  exact shape ▸ .list values separated

end Json

open Json

/-! ### Fields by what they set -/

/-- A field that is read into a part of the state, and the texts of its values. -/
structure Slot (σ : Type) where
  {α : Type}
  key : String
  get : σ → Option α
  set : σ → α → σ
  read : Reader α
  optional : Bool := false
  spelled : α → Text → Prop

def Slot.field (slot : Slot σ) : Reader.Field σ :=
  Storygraph.field slot.key slot.get slot.set slot.read slot.optional

/-- The slots have keys of their own, do not get in each other's way, and make up the state. What a
slot's texts spell, it reads. -/
structure Slots (σ : Type) where
  slots : List (Slot σ)
  distinct : (slots.map (·.key)).Nodup
  get_set : ∀ slot ∈ slots, ∀ st a, slot.get (slot.set st a) = some a
  get_other : ∀ slot ∈ slots, ∀ other ∈ slots, other.key ≠ slot.key →
    ∀ st a, other.get (slot.set st a) = other.get st
  ext : ∀ st st', (∀ slot ∈ slots, slot.get st = slot.get st') → st = st'
  admits : ∀ slot ∈ slots, ∀ a v, slot.spelled a v → Admits slot.read v a
  exact : ∀ slot ∈ slots, Exact slot.read

/-- What is still to come for a slot: nothing if it has been read, or what gives it its goal. -/
inductive Awaits (spelled : α → Text → Prop) : Option α → Option α → List Text → Prop
  | finished (a : α) : Awaits spelled (some a) (some a) []
  | pending {goal : Option α} {texts : List Text} : Given spelled goal texts →
      Awaits spelled none goal texts

theorem Awaits.eq_of_nil {spelled : α → Text → Prop} {now goal : Option α}
    (awaits : Awaits spelled now goal []) : now = goal := by
  cases awaits with
  | finished a => rfl
  | pending given =>
    cases given
    rfl

theorem Awaits.exists_of_cons {spelled : α → Text → Prop} {now goal : Option α} {v : Text}
    {texts : List Text} (awaits : Awaits spelled now goal (v :: texts)) :
    now = none ∧ ∃ a, spelled a v ∧ Awaits spelled (some a) goal texts := by
  cases awaits with
  | pending given =>
    cases given with
    | once here => exact ⟨rfl, _, here, .finished _⟩

namespace Slots

variable (record : Slots σ)

def fields : List (Reader.Field σ) := record.slots.map Slot.field

theorem find?_fields (key : Text) :
    record.fields.find? (·.key.toList == key) =
      (record.slots.find? (·.key.toList == key)).map Slot.field := by
  rw [fields, List.find?_map]
  rfl

theorem eq_of_key_eq {slot other : Slot σ} (member : slot ∈ record.slots)
    (member' : other ∈ record.slots) (same : other.key = slot.key) : other = slot :=
  List.inj_on_of_nodup_map record.distinct member' member same

theorem find?_field {slot : Slot σ} (member : slot ∈ record.slots) :
    record.fields.find? (·.key.toList == slot.key.toList) = some slot.field := by
  rw [record.find?_fields]
  cases found : record.slots.find? (·.key.toList == slot.key.toList) with
  | none => exact absurd (List.find?_eq_none.mp found slot member) (by simp)
  | some other =>
    have same : other.key.toList = slot.key.toList := by simpa using List.find?_some found
    rw [record.eq_of_key_eq member (List.mem_of_find?_eq_some found) (String.toList_injective same)]
    rfl

theorem get_set_of_isSome {slot other : Slot σ} (member : slot ∈ record.slots)
    (member' : other ∈ record.slots) {st : σ} (read : (other.get st).isSome = true) (a : slot.α) :
    (other.get (slot.set st a)).isSome = true := by
  by_cases same : other.key = slot.key
  · obtain rfl := record.eq_of_key_eq member member' same
    rw [record.get_set other member]
    rfl
  · rwa [record.get_other slot member other member' same]

theorem regular : ∀ field ∈ record.fields, field.Regular record.fields := by
  intro field member
  obtain ⟨slot, inside, rfl⟩ := List.mem_map.mp member
  refine ⟨fun st => (record.exact slot inside).bind_pure (slot.set st), fun st => ?_⟩
  refine ensures_bind fun a => ensures_pure ⟨?_, fun other member' read => ?_⟩
  · change (slot.get (slot.set st a)).isSome = true
    rw [record.get_set slot inside]
    rfl
  · obtain ⟨other, inside', rfl⟩ := List.mem_map.mp member'
    exact record.get_set_of_isSome inside inside' read a

/-- The members set the slots to what the goal has in them. -/
theorem gathers {members : List (Text × Text)} (values : ∀ m ∈ members, IsValue m.2) (st goal : σ)
    (awaits : ∀ slot ∈ record.slots,
      Awaits slot.spelled (slot.get st) (slot.get goal) (valuesOf slot.key.toList members)) :
    Gathers Eq record.fields members st goal := by
  induction members generalizing st with
  | nil =>
    obtain rfl := record.ext st goal fun slot member => (awaits slot member).eq_of_nil
    exact .nothing st
  | cons m members ih =>
    obtain ⟨key, v⟩ := m
    obtain ⟨value, others⟩ := List.forall_mem_cons.mp values
    have found := record.find?_fields key
    cases known : record.slots.find? (·.key.toList == key) with
    | none =>
      rw [known] at found
      refine .unknown found (fun _ same => same ▸ admits_skipValue value) (ih others st ?_)
      intro slot member
      have different : key ≠ slot.key.toList := by
        rintro rfl
        simpa using List.find?_eq_none.mp known slot member
      have here := awaits slot member
      rwa [valuesOf_cons_of_ne different] at here
    | some slot =>
      rw [known] at found
      have member := List.mem_of_find?_eq_some known
      obtain rfl : slot.key.toList = key := by simpa using List.find?_some known
      have here := awaits slot member
      rw [valuesOf_cons_self] at here
      obtain ⟨unread, a, spelled, done⟩ := here.exists_of_cons
      have first : slot.field.isRead st = false := congrArg Option.isSome unread
      have reads : Admits (slot.field.read st) v (slot.set st a) :=
        (record.admits slot member a v spelled).bind fun t => takes_pure _ t
      refine .known found first (fun _ same => same ▸ reads) (ih others _ ?_)
      intro other member'
      by_cases same : other.key = slot.key
      · obtain rfl := record.eq_of_key_eq member member' same
        rwa [record.get_set other member]
      · have different : slot.key.toList ≠ other.key.toList :=
          fun equal => same (String.toList_injective equal).symm
        have there := awaits other member'
        rw [valuesOf_cons_of_ne different] at there
        rwa [record.get_other slot member other member' same]

section

variable {record : Slots σ} {shape : Shape σ α}

/-- An object with each field of the record once or not at all is read, with any other members. -/
theorem admits_object (fields : shape.fields = record.fields)
    (empty : ∀ slot ∈ record.slots, slot.get shape.start = none) {members : List (Text × Text)}
    {v : Text} (object : ObjectSpelled members v) (given : σ)
    (gives : ∀ slot ∈ record.slots,
      Given slot.spelled (slot.get given) (valuesOf slot.key.toList members))
    {a : α} (finishes : shape.finish given = .ok a) : Admits (Json.Reader.record shape) v a := by
  obtain ⟨values, t, rfl, separated⟩ := object
  refine admits_record separated given ?_ finishes
  rw [fields]
  refine record.gathers values shape.start given fun slot member => ?_
  rw [empty slot member]
  exact .pending (gives slot member)

theorem exact_object (fields : shape.fields = record.fields) :
    Exact (Json.Reader.record shape) :=
  exact_record (fields ▸ record.regular)

theorem never_of_repeats (fields : shape.fields = record.fields) {v : Text}
    (repeats : Repeats shape.fields v) : Never (Json.Reader.record shape) v := by
  obtain ⟨members, ⟨values, t, rfl, separated⟩, field, member, twice⟩ := repeats
  rw [fields] at member
  obtain ⟨slot, inside, rfl⟩ := List.mem_map.mp member
  rw [length_valuesOf] at twice
  exact never_record_of_twice (fields ▸ record.regular) separated values
    (fields ▸ record.find?_field inside) twice

theorem never_of_value (fields : shape.fields = record.fields) {members : List (Text × Text)}
    {v : Text} (object : ObjectSpelled members v) {slot : Slot σ} (member : slot ∈ record.slots)
    {value : Text} (has : (slot.key.toList, value) ∈ members) (never : Never slot.read value) :
    Never (Json.Reader.record shape) v := by
  obtain ⟨values, t, rfl, separated⟩ := object
  exact never_record_of_member (fields ▸ record.regular) separated values has
    (fields ▸ record.find?_field member) fun st => never.bind _

end

end Slots

end Storygraph
