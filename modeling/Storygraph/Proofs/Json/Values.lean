import Storygraph.Json.Value
import Storygraph.Proofs.Json.Reading

/-!
# Values read back

A written value that is not nested too deeply, with its numbers in range, is read back when nothing
is known about it (`ofText_of_nests`). A value whose keys are in order is read back as itself
(`ofText_of_written`), and it is laid out then as before (`indented_value`).
-/

namespace Storygraph.Json

mutual

def value : Json → Value
  | natural n => .number (.natural n)
  | text t => .text t
  | list items => .list (valueItems items)
  | record members => .record (valueMembers members)

def valueItems : List Json → List Value
  | [] => []
  | item :: rest => value item :: valueItems rest

def valueMembers : List (Text × Json) → List (Text × Value)
  | [] => []
  | (key, item) :: rest => (key, value item) :: valueMembers rest

end

theorem valueItems_eq (items : List Json) : valueItems items = items.map value := by
  induction items with
  | nil => rfl
  | cons item rest ih => rw [valueItems, ih, List.map_cons]

theorem valueMembers_eq (members : List (Text × Json)) :
    valueMembers members = members.map fun m => (m.1, m.2.value) := by
  induction members with
  | nil => rfl
  | cons m rest ih =>
    obtain ⟨key, item⟩ := m
    rw [valueMembers, ih, List.map_cons]

/-! ### Layout -/

namespace Value

theorem prettyItems_eq (depth : Nat) (items : List Value) :
    prettyItems depth items = items.map (pretty depth) := by
  induction items with
  | nil => rfl
  | cons item rest ih => rw [prettyItems, ih, List.map_cons]

theorem prettyMembers_eq (depth : Nat) (members : List (Text × Value)) :
    prettyMembers depth members =
      members.map fun m => quote m.1 ++ ':' :: ' ' :: pretty depth m.2 := by
  induction members with
  | nil => rfl
  | cons m rest ih =>
    obtain ⟨key, value⟩ := m
    rw [prettyMembers, ih, List.map_cons]

theorem bracketed_cons (left right : Char) (depth : Nat) (part : Text) (parts : List Text) :
    bracketed left right depth (part :: parts) =
      left :: Text.join [','] ((part :: parts).map (newline (depth + 1) ++ ·)) ++ newline depth ++
        [right] := if_neg (List.cons_ne_nil _ _)

end Value

theorem pretty_value (value : Json) (depth : Nat) :
    value.value.pretty depth = pretty depth value := by
  induction value using induction_on_parts generalizing depth with
  | natural n =>
    rw [value, Value.pretty, pretty]
    rfl
  | text t => rw [value, Value.pretty, pretty]
  | list items ih =>
    rw [value, Value.pretty, Value.prettyItems_eq, valueItems_eq]
    cases items with
    | nil =>
      rw [pretty]
      rfl
    | cons item rest =>
      rw [List.map_cons, List.map_cons, Value.bracketed_cons, pretty, prettyItems_eq]
      · have parts : (item :: rest).map (fun j => newline (depth + 1) ++ j.value.pretty (depth + 1)) =
            (item :: rest).map fun j => newline (depth + 1) ++ pretty (depth + 1) j :=
          List.map_congr_left fun j member => by rw [ih j member]
        rw [← parts]
        simp [Function.comp_def]
      · exact List.cons_ne_nil item rest
  | record members ih =>
    rw [value, Value.pretty, Value.prettyMembers_eq, valueMembers_eq]
    cases members with
    | nil =>
      rw [pretty]
      rfl
    | cons m rest =>
      rw [List.map_cons, List.map_cons, Value.bracketed_cons, pretty, prettyMembers_eq]
      · have parts : (m :: rest).map (fun m => newline (depth + 1) ++
              (quote m.1 ++ ':' :: ' ' :: m.2.value.pretty (depth + 1))) =
            (m :: rest).map fun m => newline (depth + 1) ++
              (quote m.1 ++ ([] ++ ':' :: ([' '] ++ pretty (depth + 1) m.2))) :=
          List.map_congr_left fun m member => by rw [ih m member]; rfl
        rw [← parts]
        simp [Function.comp_def]
      · exact List.cons_ne_nil m rest

theorem indented_value (value : Json) : value.value.indented = value.indented :=
  pretty_value value 0

/-! ### Reading -/

mutual

/-- What is read from a text of the value. The members of a record come in the order of their keys,
and of members with the same key only the last counts. -/
def asRead : Json → Value
  | natural n => .number (.natural n)
  | text t => .text t
  | list items => .list (asReadItems items)
  | record members => .record (asReadMembers [] members)

def asReadItems : List Json → List Value
  | [] => []
  | item :: rest => asRead item :: asReadItems rest

def asReadMembers (earlier : List (Text × Value)) : List (Text × Json) → List (Text × Value)
  | [] => earlier
  | (key, item) :: rest => asReadMembers (Value.insert key (asRead item) earlier) rest

end

theorem asReadItems_eq (items : List Json) : asReadItems items = items.map asRead := by
  induction items with
  | nil => rfl
  | cons item rest ih => rw [asReadItems, ih, List.map_cons]

/-- The numbers of a value can be read, and at most so many brackets are inside each other. -/
inductive Nests : Nat → Json → Prop where
  | natural {depth n : Nat} (small : n ≤ maxNatural) : Nests depth (.natural n)
  | text {depth : Nat} (t : Text) : Nests depth (.text t)
  | list {depth : Nat} {items : List Json} (each : ∀ item ∈ items, Nests depth item) :
      Nests (depth + 1) (.list items)
  | record {depth : Nat} {members : List (Text × Json)} (each : ∀ m ∈ members, Nests depth m.2) :
      Nests (depth + 1) (.record members)

theorem nests_object {depth : Nat} {members : List (String × Json)}
    (each : ∀ m ∈ members, Nests depth m.2) : Nests (depth + 1) (.object members) := by
  refine .record fun m member => ?_
  obtain ⟨named, of, rfl⟩ := List.mem_map.mp member
  exact each named of

namespace Reader

theorem takes_valueMembers {read : Reader Value} {members : List (Text × Json)} {atFirst : Bool}
    {t : Text} (separated : Separated (MemberOf Spells Written) '\x7d' atFirst members t)
    (accepts : ∀ m ∈ members, Accepts read m.2 m.2.asRead) (earlier : List (Text × Value))
    {fuel : Nat} (enough : members.length < fuel) (tail : Text) :
    Takes (valueMembers read fuel atFirst earlier) (t ++ tail) (asReadMembers earlier members)
      ('\x7d' :: tail) := by
  induction members generalizing t fuel atFirst earlier with
  | nil =>
    obtain ⟨fuel, rfl⟩ := Nat.exists_eq_add_one_of_ne_zero (Nat.ne_of_gt enough)
    rw [valueMembers, asReadMembers]
    exact (takes_nextKey_of_nil separated tail).bind (takes_pure _ _)
  | cons m members ih =>
    obtain ⟨fuel, rfl⟩ := Nat.exists_eq_add_one_of_ne_zero (Nat.ne_zero_of_lt enough)
    obtain ⟨literal, before, after, p, rest, spells, blank, blank', written, others, moves⟩ :=
      takes_nextKey_of_cons separated tail
    have accept := accepts m List.mem_cons_self
    have reads := accept blank' written (delimited_of_separated others (by decide) tail)
    have goesOn := ih others (fun m member => accepts m (List.mem_cons_of_mem _ member))
      (Value.insert m.1 m.2.asRead earlier) (Nat.lt_of_succ_lt_succ enough)
    rw [valueMembers]
    refine moves.bind ?_
    rw [if_pos rfl]
    exact (takes_readText spells _).bind ((takes_colon blank _).bind (reads.bind goesOn))

theorem accepts_valueAround_natural (inner : Option (Reader Value)) {n : Nat}
    (small : n ≤ maxNatural) :
    Accepts (valueAround inner) (.natural n) (.number (.natural n)) := by
  intro blanks _ tail blank written delimited
  cases written
  have number := takes_readNumber small delimited
  obtain ⟨c, more, shape, digit⟩ := exists_ofNat_eq_cons n
  rw [shape, List.cons_append] at number ⊢
  unfold valueAround
  refine (takes_startOfValue blank (isSpace_of_isAsciiDigit digit)).bind ?_
  split
  case h_7 =>
    rw [if_pos (by rw [digit, Bool.or_true])]
    exact number.bind (takes_pure _ tail)
  all_goals exact absurd digit (by decide)

theorem accepts_valueAround_text (inner : Option (Reader Value)) (t : Text) :
    Accepts (valueAround inner) (.text t) (.text t) := by
  intro blanks _ tail blank written _
  cases written
  rw [quote, List.cons_append, List.cons_append, List.append_assoc]
  unfold valueAround
  refine (takes_startOfValue blank rfl).bind ((takes_advance _ _).bind ?_)
  exact (takes_readText (spells_escaped t) tail).bind (takes_pure _ tail)

/-- A value is read without knowing anything about it, level by level. -/
theorem accepts_asRead {depth : Nat} {j : Json} (nests : Nests depth j) :
    Accepts (value depth) j j.asRead := by
  induction nests with
  | @natural depth n small =>
    cases depth with
    | zero => exact accepts_valueAround_natural none small
    | succ depth => exact accepts_valueAround_natural (some (value depth)) small
  | @text depth t =>
    cases depth with
    | zero => exact accepts_valueAround_text none t
    | succ depth => exact accepts_valueAround_text (some (value depth)) t
  | @list depth values _ ih =>
    intro blanks _ tail blank written _
    cases written with
    | list separated =>
      rw [value, List.cons_append]
      unfold valueAround
      refine (takes_startOfValue blank rfl).bind ((takes_advance _ _).bind ?_)
      refine takes_size_bind fun n enough => ?_
      have length := length_le_of_separated separated
      rw [List.length_append] at enough
      have accepts : List.Forall₂ (Accepts (value depth)) values (values.map asRead) :=
        List.forall₂_map_right_iff.mpr (List.forall₂_same.mpr ih)
      have reads : Takes (items (value depth) (n + 1) true) _ _ _ :=
        takes_items (accepts.imp fun _ _ accept => accept.itemFits) separated (by omega) tail
      rw [asRead, asReadItems_eq]
      exact (reads.within (takes_leaveList tail)).bind (takes_pure _ tail)
  | @record depth members _ ih =>
    intro blanks _ tail blank written _
    cases written with
    | record separated =>
      rw [value, List.cons_append]
      unfold valueAround
      refine (takes_startOfValue blank rfl).bind ((takes_advance _ _).bind ?_)
      refine takes_size_bind fun n enough => ?_
      have length := length_le_of_separated separated
      rw [List.length_append] at enough
      have reads : Takes (valueMembers (value depth) (n + 1) true []) _ _ _ :=
        takes_valueMembers (separated.imp fun _ _ => memberOf_of_written) ih [] (by omega) tail
      rw [asRead]
      exact (reads.within (takes_leaveRecord tail)).bind (takes_pure _ tail)

end Reader

/-- What is read from any text of a value, with blanks after it or none. -/
theorem ofText_of_nests {j : Json} (nests : Nests maxDepth j) {t blanks : Text}
    (written : Written j t) (blank : Blank blanks) : Value.ofText (t ++ blanks) = .ok j.asRead :=
  Reader.run_of_accepts_append (Reader.accepts_asRead nests) written blank

/-! ### Parts of values -/

namespace Value

def text? : Value → Option Text
  | text t => some t
  | _ => none

def natural? : Value → Option Nat
  | number (.natural n) => some n
  | _ => none

def items? : Value → Option (List Value)
  | list items => some items
  | _ => none

def member? (key : String) : Value → Option Value
  | record members => members.lookup key.toList
  | _ => none

def ofText? {α : Type} (make : Value → Option α) (t : Text) : Option α :=
  (ofText t).toOption >>= make

theorem precedes_self (t : Text) : t.precedes t = false := by
  induction t with
  | nil => rfl
  | cons c t ih => simp [Text.precedes, ih]

theorem lookup_insert_self (key : Text) (value : Value) (members : List (Text × Value)) :
    (insert key value members).lookup key = some value := by
  induction members with
  | nil => simp [insert]
  | cons m rest ih =>
    obtain ⟨other, found⟩ := m
    rw [insert]
    split
    case isTrue before =>
      have different : key ≠ other := by
        rintro rfl
        rw [precedes_self] at before
        cases before
      rw [List.lookup_cons, beq_false_of_ne different, ih]
    case isFalse => split <;> rw [List.lookup_cons_self]

theorem lookup_insert_of_ne {key other : Text} (different : key ≠ other) (value : Value)
    (members : List (Text × Value)) :
    (insert other value members).lookup key = members.lookup key := by
  induction members with
  | nil => simp [insert, different]
  | cons m rest ih =>
    obtain ⟨here, found⟩ := m
    rw [insert]
    split
    · rw [List.lookup_cons, List.lookup_cons, ih]
    · split
      case isTrue same => simp [List.lookup_cons, same, beq_false_of_ne different]
      case isFalse => simp [List.lookup_cons, beq_false_of_ne different]

end Value

theorem lookup_asReadMembers_of_not_mem {key : Text} {members : List (Text × Json)}
    (none : key ∉ members.map Prod.fst) (earlier : List (Text × Value)) :
    (asReadMembers earlier members).lookup key = earlier.lookup key := by
  induction members generalizing earlier with
  | nil => rw [asReadMembers]
  | cons m members ih =>
    obtain ⟨different, others⟩ := List.ne_and_not_mem_of_not_mem_cons none
    rw [asReadMembers, ih others, Value.lookup_insert_of_ne different]

theorem lookup_asReadMembers {key : Text} {j : Json} {members : List (Text × Json)}
    (apart : (members.map Prod.fst).Nodup) (member : (key, j) ∈ members)
    (earlier : List (Text × Value)) :
    (asReadMembers earlier members).lookup key = some j.asRead := by
  induction members generalizing earlier with
  | nil => exact absurd member List.not_mem_nil
  | cons m members ih =>
    obtain ⟨none, apart⟩ := List.nodup_cons.mp apart
    rw [asReadMembers]
    rcases List.mem_cons.mp member with rfl | later
    · rw [lookup_asReadMembers_of_not_mem none, Value.lookup_insert_self]
    · exact ih apart later _

/-- A record whose keys are all different is read with the value of each. -/
theorem member?_asRead_object {key : String} {j : Json} {members : List (String × Json)}
    (apart : (members.map fun m => m.1.toList).Nodup) (member : (key, j) ∈ members) :
    (Json.object members).asRead.member? key = some j.asRead := by
  rw [object, asRead, Value.member?]
  refine lookup_asReadMembers ?_ (List.mem_map.mpr ⟨(key, j), member, rfl⟩) []
  rw [List.map_map]
  exact apart

/-! ### Keys in order -/

/-- A value that can be read back as itself with so many brackets inside each other. -/
inductive Fits : Nat → Json → Prop where
  | natural {depth n : Nat} (small : n ≤ maxNatural) : Fits depth (.natural n)
  | text {depth : Nat} (t : Text) : Fits depth (.text t)
  | list {depth : Nat} {items : List Json} (each : ∀ item ∈ items, Fits depth item) :
      Fits (depth + 1) (.list items)
  | record {depth : Nat} {members : List (Text × Json)}
      (ascending : (members.map Prod.fst).Pairwise fun key other => key.precedes other)
      (each : ∀ m ∈ members, Fits depth m.2) : Fits (depth + 1) (.record members)

theorem fits_object {depth : Nat} {members : List (String × Json)}
    (ascending : (members.map fun m => m.1.toList).Pairwise fun key other =>
      Text.precedes key other)
    (each : ∀ m ∈ members, Fits depth m.2) : Fits (depth + 1) (.object members) := by
  refine .record ?_ ?_
  · rw [List.map_map]
    exact ascending
  · intro m member
    obtain ⟨named, of, rfl⟩ := List.mem_map.mp member
    exact each named of

theorem Value.insert_of_precedes {key : Text} (value : Value) {members : List (Text × Value)}
    (before : ∀ m ∈ members, m.1.precedes key = true) :
    insert key value members = members ++ [(key, value)] := by
  induction members with
  | nil => rfl
  | cons m rest ih =>
    obtain ⟨other, found⟩ := m
    have first : other.precedes key = true := before (other, found) List.mem_cons_self
    rw [insert, if_pos first, ih fun m member => before m (List.mem_cons_of_mem _ member)]
    rfl

theorem Value.insert_ascending {key : Text} (value : Value) {members : List (Text × Value)}
    {later : List Text} (ascending : (members.map Prod.fst ++ key :: later).Pairwise
      fun key other => key.precedes other) :
    insert key value members = members ++ [(key, value)] ∧
      ((insert key value members).map Prod.fst ++ later).Pairwise
        fun key other => key.precedes other := by
  obtain ⟨-, -, apart⟩ := List.pairwise_append.mp ascending
  have last := insert_of_precedes value fun m member =>
    apart m.1 (List.mem_map_of_mem member) key List.mem_cons_self
  refine ⟨last, ?_⟩
  rw [last]
  simpa using ascending

theorem asReadMembers_of_ascending {members : List (Text × Json)} (earlier : List (Text × Value))
    (ascending : (earlier.map Prod.fst ++ members.map Prod.fst).Pairwise
      fun key other => key.precedes other)
    (each : ∀ m ∈ members, m.2.asRead = m.2.value) :
    asReadMembers earlier members = earlier ++ valueMembers members := by
  induction members generalizing earlier with
  | nil => rw [asReadMembers, valueMembers, List.append_nil]
  | cons m members ih =>
    obtain ⟨last, ascending⟩ := Value.insert_ascending m.2.value ascending
    have goesOn := ih _ ascending fun m member => each m (List.mem_cons_of_mem _ member)
    rw [asReadMembers, each m List.mem_cons_self, goesOn, last, List.append_assoc]
    rfl

theorem Fits.nests {depth : Nat} {j : Json} (fits : Fits depth j) : Nests depth j := by
  induction fits with
  | natural small => exact .natural small
  | text t => exact .text t
  | list _ ih => exact .list ih
  | record _ _ ih => exact .record ih

theorem Fits.asRead_eq {depth : Nat} {j : Json} (fits : Fits depth j) : j.asRead = j.value := by
  induction fits with
  | natural _ => rw [asRead, value]
  | text t => rw [asRead, value]
  | list _ ih => rw [asRead, value, asReadItems_eq, valueItems_eq, List.map_congr_left ih]
  | record ascending _ ih =>
    rw [asRead, value, asReadMembers_of_ascending [] ascending ih, List.nil_append]

theorem ofText_of_written {j : Json} (fits : Fits maxDepth j) {t : Text} (written : Written j t) :
    Value.ofText t = .ok j.value := by
  have read := ofText_of_nests fits.nests written blank_nil
  rwa [List.append_nil, fits.asRead_eq] at read

end Storygraph.Json
