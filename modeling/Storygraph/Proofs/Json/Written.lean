import Storygraph.Json.Basic
import Storygraph.Json.Source
import Storygraph.Proofs.Lines

/-!
# Texts of JSON values

`Written value t` says that `t` is a text of a value, whatever the blanks between its tokens. Both
ways of writing a value give a text of it (`written_compact`, `written_indented`).
-/

namespace Storygraph.Json

variable {α : Type}

def Blank (t : Text) : Prop := ∀ c ∈ t, Source.isSpace c = true

theorem blank_nil : Blank [] := fun _ member => absurd member List.not_mem_nil

/-- What follows the opening bracket of a list or record: its parts, each but the first after a
comma, and the closing bracket. -/
inductive Separated (part : α → Text → Prop) (close : Char) :
    (atFirst : Bool) → List α → Text → Prop
  | nothing {atFirst : Bool} {before : Text} :
    Blank before → Separated part close atFirst [] (before ++ [close])
  | first {a : α} {parts : List α} {before t rest : Text} :
    Blank before → part a t → Separated part close false parts rest →
      Separated part close true (a :: parts) (before ++ (t ++ rest))
  | next {a : α} {parts : List α} {before after t rest : Text} :
    Blank before → Blank after → part a t → Separated part close false parts rest →
      Separated part close false (a :: parts) (before ++ ',' :: (after ++ (t ++ rest)))

theorem Separated.imp {part whole : α → Text → Prop} {close : Char} {atFirst : Bool}
    {parts : List α} {t : Text} (separated : Separated part close atFirst parts t)
    (implies : ∀ a t, part a t → whole a t) : Separated whole close atFirst parts t := by
  induction separated with
  | nothing blank => exact .nothing blank
  | first blank here _ ih => exact .first blank (implies _ _ here) ih
  | next blank blank' here _ ih => exact .next blank blank' (implies _ _ here) ih

/-- What is in parts of one kind can be taken apart into those of another. -/
theorem Separated.exists_parts {β : Type} {part : α → Text → Prop} {other : β → Text → Prop}
    {good : β → Prop} {close : Char} {atFirst : Bool} {parts : List α} {t : Text}
    (separated : Separated part close atFirst parts t)
    (each : ∀ a ∈ parts, ∀ t, part a t → ∃ b, good b ∧ other b t) :
    ∃ bs, (∀ b ∈ bs, good b) ∧ Separated other close atFirst bs t := by
  induction separated with
  | nothing blank => exact ⟨[], by simp, .nothing blank⟩
  | first blank here _ ih =>
    obtain ⟨b, holds, here⟩ := each _ List.mem_cons_self _ here
    obtain ⟨bs, others, rest⟩ := ih fun a member => each a (List.mem_cons_of_mem _ member)
    exact ⟨b :: bs, List.forall_mem_cons.mpr ⟨holds, others⟩, .first blank here rest⟩
  | next blank blank' here _ ih =>
    obtain ⟨b, holds, here⟩ := each _ List.mem_cons_self _ here
    obtain ⟨bs, others, rest⟩ := ih fun a member => each a (List.mem_cons_of_mem _ member)
    exact ⟨b :: bs, List.forall_mem_cons.mpr ⟨holds, others⟩, .next blank blank' here rest⟩

/-- The text of a record's member. What stands between the quotation marks of its key is `keyed` to
the key, and `part` tells the texts of its value. -/
inductive MemberOf (keyed : Text → Text → Prop) (part : α → Text → Prop) :
    Text × α → Text → Prop
  | member {literal key before after t : Text} {a : α} :
    keyed literal key → Blank before → Blank after → part a t →
      MemberOf keyed part (key, a) ('"' :: (literal ++ '"' :: (before ++ ':' :: (after ++ t))))

inductive MemberWritten (written : Json → Text → Prop) : Text × Json → Text → Prop
  | member {key before after t : Text} {value : Json} :
    Blank before → Blank after → written value t →
      MemberWritten written (key, value) (quote key ++ (before ++ ':' :: (after ++ t)))

inductive Written : Json → Text → Prop
  | natural (n : Nat) : Written (.natural n) (Text.ofNat n)
  | text (t : Text) : Written (.text t) (quote t)
  | list {items : List Json} {t : Text} :
    Separated Written ']' true items t → Written (.list items) ('[' :: t)
  | record {members : List (Text × Json)} {t : Text} :
    Separated (MemberWritten Written) '\x7d' true members t →
      Written (.record members) ('\x7b' :: t)

/-! ### Values written -/

section

variable {part : α → Text → Prop} {close : Char} {print : α → Text} {parts : List α}

theorem separated_flatMap (printed : ∀ a ∈ parts, ∃ before t, Blank before ∧ part a t ∧
      print a = before ++ t) {after : Text} (blank : Blank after) :
    Separated part close false parts
      (parts.flatMap (',' :: print ·) ++ (after ++ [close])) := by
  induction parts with
  | nil => exact .nothing blank
  | cons a parts ih =>
    obtain ⟨before, t, blanks, text, shape⟩ := printed a List.mem_cons_self
    have rest := ih fun b member => printed b (List.mem_cons_of_mem _ member)
    rw [List.flatMap_cons, shape]
    simpa using Separated.next blank_nil blanks text rest

/-- Parts with commas between them, each written as a text of it after blanks. -/
theorem separated_join (printed : ∀ a ∈ parts, ∃ before t, Blank before ∧ part a t ∧
      print a = before ++ t) {after : Text} (blank : Blank after) :
    Separated part close true parts
      (Text.join [','] (parts.map print) ++ (after ++ [close])) := by
  cases parts with
  | nil => exact .nothing blank
  | cons a parts =>
    obtain ⟨before, t, blanks, text, shape⟩ := printed a List.mem_cons_self
    have rest : Separated part close false parts _ :=
      separated_flatMap (fun b member => printed b (List.mem_cons_of_mem _ member)) blank
    rw [List.map_cons, Text.join_cons, shape, List.flatMap_map]
    simpa using Separated.first blanks text rest

/-- Every way of writing parts one by one, with commas between them, joins the written parts. -/
theorem eq_join {write : List α → Text} (nil : write [] = [])
    (single : ∀ a, write [a] = print a)
    (more : ∀ a b rest, write (a :: b :: rest) = print a ++ ',' :: write (b :: rest)) :
    ∀ parts, write parts = Text.join [','] (parts.map print)
  | [] => nil
  | [a] => single a
  | a :: b :: rest => by
    rw [more, eq_join nil single more (b :: rest)]
    simp [Text.join]

end

theorem compactItems_eq (items : List Json) :
    compactItems items = Text.join [','] (items.map compact) :=
  eq_join rfl (fun _ => rfl) (fun _ _ _ => by simp [compactItems]) items

theorem compactMembers_eq (members : List (Text × Json)) :
    compactMembers members =
      Text.join [','] (members.map fun m => quote m.1 ++ ':' :: compact m.2) :=
  eq_join rfl (fun _ => rfl) (fun _ _ _ => by simp [compactMembers]) members

theorem prettyItems_eq (depth : Nat) (items : List Json) :
    prettyItems depth items =
      Text.join [','] (items.map fun item => newline depth ++ pretty depth item) :=
  eq_join (by rw [prettyItems]) (fun _ => by rw [prettyItems])
    (fun _ _ _ => by simp [prettyItems]) items

theorem prettyMembers_eq (depth : Nat) (members : List (Text × Json)) :
    prettyMembers depth members =
      Text.join [','] (members.map fun m =>
        newline depth ++ (quote m.1 ++ ([] ++ ':' :: ([' '] ++ pretty depth m.2)))) :=
  eq_join (by rw [prettyMembers]) (fun _ => by simp [prettyMembers])
    (fun _ _ _ => by simp [prettyMembers]) members

theorem blank_space : Blank [' '] := by
  intro c member
  rw [List.mem_singleton.mp member]
  rfl

theorem blank_newline (depth : Nat) : Blank (newline depth) := by
  intro c member
  rcases List.mem_cons.mp member with rfl | member
  · rfl
  · rw [List.eq_of_mem_replicate member]
    rfl

/-- What holds of numbers and texts, and of lists and records when it holds of what is in them,
holds of every value. -/
theorem induction_on_parts {motive : Json → Prop} (natural : ∀ n, motive (natural n))
    (text : ∀ t, motive (text t))
    (list : ∀ items, (∀ item ∈ items, motive item) → motive (list items))
    (record : ∀ members, (∀ m ∈ members, motive m.2) → motive (record members)) :
    ∀ value, motive value
  | .natural n => natural n
  | .text t => text t
  | .list items => list items fun item _ => induction_on_parts natural text list record item
  | .record members =>
    record members fun m _ => induction_on_parts natural text list record m.2
termination_by value => sizeOf value
decreasing_by
  · have := List.sizeOf_lt_of_mem ‹item ∈ items›
    simp only [Json.list.sizeOf_spec]
    omega
  · have := List.sizeOf_lt_of_mem ‹m ∈ members›
    obtain ⟨key, value⟩ := m
    simp only [Json.record.sizeOf_spec, Prod.mk.sizeOf_spec] at *
    omega

theorem written_compact (value : Json) : Written value value.compact := by
  induction value using induction_on_parts with
  | natural n =>
    rw [compact]
    exact .natural n
  | text t =>
    rw [compact]
    exact .text t
  | list items ih =>
    rw [compact, compactItems_eq]
    exact .list (separated_join (fun item member => ⟨[], _, blank_nil, ih item member, rfl⟩)
      blank_nil)
  | record members ih =>
    rw [compact, compactMembers_eq]
    exact .record (separated_join
      (fun m member => ⟨[], _, blank_nil, .member blank_nil blank_nil (ih m member), rfl⟩)
      blank_nil)

theorem written_pretty (value : Json) (depth : Nat) : Written value (pretty depth value) := by
  induction value using induction_on_parts generalizing depth with
  | natural n =>
    rw [pretty]
    exact .natural n
  | text t =>
    rw [pretty]
    exact .text t
  | list items ih =>
    cases items with
    | nil =>
      rw [pretty]
      exact .list (.nothing blank_nil)
    | cons item rest =>
      rw [pretty, prettyItems_eq, List.cons_append, List.cons_append, List.append_assoc]
      · exact .list (separated_join (fun item member =>
          ⟨newline (depth + 1), _, blank_newline _, ih item member _, rfl⟩) (blank_newline depth))
      · exact List.cons_ne_nil item rest
  | record members ih =>
    cases members with
    | nil =>
      rw [pretty]
      exact .record (.nothing blank_nil)
    | cons m rest =>
      rw [pretty, prettyMembers_eq, List.cons_append, List.cons_append, List.append_assoc]
      · exact .record (separated_join (fun m member =>
          ⟨newline (depth + 1), _, blank_newline _, .member blank_nil blank_space
            (ih m member _), rfl⟩) (blank_newline depth))
      · exact List.cons_ne_nil m rest

theorem written_indented (value : Json) : Written value value.indented := written_pretty value 0

end Storygraph.Json
