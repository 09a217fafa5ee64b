import Mathlib.Data.List.Forall2

/-!
# Steps that succeed or fail

What the success of a chain of steps says about each of them, and which of them a failure is due to.
-/

namespace Storygraph

variable {ε α β : Type}

theorem ok_bind (a : α) (next : α → Except ε β) : Except.ok a >>= next = next a := rfl

theorem bind_ok {x : Except ε α} {next : α → Except ε β} {b : β} (ends : x >>= next = .ok b) :
    ∃ a, x = .ok a ∧ next a = .ok b := by
  cases x with
  | error e => cases ends
  | ok a => exact ⟨a, rfl, ends⟩

theorem bind_eq_error_iff {x : Except ε α} {next : α → Except ε β} {e : ε} :
    x >>= next = .error e ↔ x = .error e ∨ ∃ a, x = .ok a ∧ next a = .error e := by
  cases x with
  | error e' =>
    change Except.error e' = .error e ↔ _
    simp
  | ok a =>
    rw [ok_bind]
    simp

theorem map_ok {x : Except ε α} {f : α → β} {b : β} (ends : x.map f = .ok b) :
    ∃ a, x = .ok a ∧ f a = b := by
  cases x with
  | error e => cases ends
  | ok a => exact ⟨a, rfl, Except.ok.inj ends⟩

theorem mapM_eq_ok_iff {f : α → Except ε β} {xs : List α} {ys : List β} :
    xs.mapM f = .ok ys ↔ List.Forall₂ (fun x y => f x = .ok y) xs ys := by
  induction xs generalizing ys with
  | nil =>
    rw [List.mapM_nil, List.forall₂_nil_left_iff]
    exact ⟨fun ends => (Except.ok.inj ends).symm, fun none => congrArg Except.ok none.symm⟩
  | cons x xs ih =>
    rw [List.mapM_cons]
    constructor
    · intro ends
      obtain ⟨y, first, ends⟩ := bind_ok ends
      obtain ⟨rest, others, ends⟩ := bind_ok ends
      cases ends
      exact .cons first (ih.mp others)
    · rintro (_ | ⟨first, others⟩)
      rw [first, ih.mpr others]
      rfl

theorem exists_of_forall₂ {R : α → β → Prop} {xs : List α} {ys : List β}
    (related : List.Forall₂ R xs ys) : ∀ y ∈ ys, ∃ x ∈ xs, R x y := by
  induction related with
  | nil => nofun
  | @cons x y xs ys first _ ih =>
    refine List.forall_mem_cons.mpr ⟨⟨x, List.mem_cons_self, first⟩, fun y member => ?_⟩
    obtain ⟨x', inside, holds⟩ := ih y member
    exact ⟨x', List.mem_cons_of_mem _ inside, holds⟩

theorem exists_mapM_iff {f : α → Except ε β} {xs : List α} :
    (∃ ys, xs.mapM f = .ok ys) ↔ ∀ x ∈ xs, ∃ y, f x = .ok y := by
  constructor
  · rintro ⟨ys, done⟩
    have related := mapM_eq_ok_iff.mp done
    clear done
    induction related with
    | nil => nofun
    | cons first _ ih => exact List.forall_mem_cons.mpr ⟨⟨_, first⟩, ih⟩
  · intro each
    induction xs with
    | nil => exact ⟨[], rfl⟩
    | cons x xs ih =>
      obtain ⟨⟨y, first⟩, others⟩ := List.forall_mem_cons.mp each
      obtain ⟨ys, rest⟩ := ih others
      refine ⟨y :: ys, ?_⟩
      rw [List.mapM_cons, first, rest]
      rfl

/-! ### The first that fails -/

def FirstWith (p : α → Prop) (xs : List α) (x : α) : Prop :=
  ∃ before after, xs = before ++ x :: after ∧ p x ∧ ∀ other ∈ before, ¬p other

section

variable {p : α → Prop} {xs ys : List α} {x y : α}

theorem find?_eq_some_iff_firstWith {q : α → Bool} :
    xs.find? q = some x ↔ FirstWith (q · = true) xs x := by
  rw [List.find?_eq_some_iff_append, FirstWith]
  constructor
  · rintro ⟨here, before, after, cut, earlier⟩
    exact ⟨before, after, cut, here, by simpa using earlier⟩
  · rintro ⟨before, after, cut, here, earlier⟩
    exact ⟨here, before, after, cut, by simpa using earlier⟩

namespace FirstWith

theorem holds (first : FirstWith p xs x) : p x := by
  obtain ⟨_, _, -, here, -⟩ := first
  exact here

theorem mem (first : FirstWith p xs x) : x ∈ xs := by
  obtain ⟨before, after, rfl, -⟩ := first
  exact List.mem_append_right _ List.mem_cons_self

theorem unique (first : FirstWith p xs x) (other : FirstWith p xs y) : x = y := by
  classical
  have found {z : α} (first : FirstWith p xs z) : xs.find? (fun z => decide (p z)) = some z := by
    simpa [find?_eq_some_iff_firstWith] using first
  exact Option.some.inj ((found first).symm.trans (found other))

end FirstWith

theorem firstWith_cons : FirstWith p (y :: ys) x ↔ x = y ∧ p y ∨ ¬p y ∧ FirstWith p ys x := by
  constructor
  · rintro ⟨before, after, cut, here, earlier⟩
    cases before with
    | nil =>
      cases cut
      exact Or.inl ⟨rfl, here⟩
    | cons z before =>
      cases cut
      obtain ⟨silent, earlier⟩ := List.forall_mem_cons.mp earlier
      exact Or.inr ⟨silent, before, after, rfl, here, earlier⟩
  · rintro (⟨rfl, here⟩ | ⟨silent, before, after, rfl, here, earlier⟩)
    · exact ⟨[], ys, rfl, here, nofun⟩
    · exact ⟨y :: before, after, rfl, here, List.forall_mem_cons.mpr ⟨silent, earlier⟩⟩

theorem exists_firstWith (p : α → Prop) (member : x ∈ xs) (here : p x) : ∃ y, FirstWith p xs y := by
  classical
  induction xs with
  | nil => nomatch member
  | cons y xs ih =>
    by_cases sooner : p y
    · exact ⟨y, firstWith_cons.mpr (Or.inl ⟨rfl, sooner⟩)⟩
    · have later := (List.mem_cons.mp member).resolve_left fun same => sooner (same ▸ here)
      obtain ⟨z, first⟩ := ih later
      exact ⟨z, firstWith_cons.mpr (Or.inr ⟨sooner, first⟩)⟩

/-- The first in two lists is in the second one only if there is none in the first. -/
theorem firstWith_append : FirstWith p (xs ++ ys) x ↔
    FirstWith p xs x ∨ (∀ other ∈ xs, ¬p other) ∧ FirstWith p ys x := by
  induction xs with
  | nil =>
    refine ⟨fun first => Or.inr ⟨nofun, first⟩, fun either => ?_⟩
    exact (either.resolve_left fun first => nomatch first.mem).2
  | cons z xs ih =>
    rw [List.cons_append, firstWith_cons, firstWith_cons, ih, List.forall_mem_cons]
    tauto

theorem firstWith_map {f : β → α} {zs : List β} :
    FirstWith p (zs.map f) x ↔ ∃ z, FirstWith (fun z => p (f z)) zs z ∧ f z = x := by
  induction zs with
  | nil =>
    rw [List.map_nil]
    refine ⟨fun first => absurd first.mem List.not_mem_nil, ?_⟩
    rintro ⟨_, first, -⟩
    nomatch first.mem
  | cons z zs ih =>
    simp only [List.map_cons, firstWith_cons, ih]
    constructor
    · rintro (⟨rfl, here⟩ | ⟨silent, z', first, rfl⟩)
      · exact ⟨z, Or.inl ⟨rfl, here⟩, rfl⟩
      · exact ⟨z', Or.inr ⟨silent, first⟩, rfl⟩
    · rintro ⟨z', ⟨rfl, here⟩ | ⟨silent, first⟩, rfl⟩
      · exact Or.inl ⟨rfl, here⟩
      · exact Or.inr ⟨silent, z', first, rfl⟩

end

/-- Steps on each of some values fail at the first that fails, in the way that it fails. -/
theorem mapM_eq_error_iff {f : α → Except ε β} {xs : List α} {e : ε} :
    xs.mapM f = .error e ↔ ∃ x, FirstWith (fun x => ∃ e, f x = .error e) xs x ∧ f x = .error e := by
  induction xs with
  | nil =>
    refine ⟨nofun, ?_⟩
    rintro ⟨_, first, -⟩
    nomatch first.mem
  | cons x xs ih =>
    rw [List.mapM_cons]
    constructor
    · intro ends
      rcases bind_eq_error_iff.mp ends with fails | ⟨b, fine, ends⟩
      · exact ⟨x, firstWith_cons.mpr (Or.inl ⟨rfl, e, fails⟩), fails⟩
      · have later := (bind_eq_error_iff.mp ends).resolve_right nofun
        obtain ⟨y, first, fails⟩ := ih.mp later
        have passes : ¬∃ e, f x = .error e := by simp [fine]
        exact ⟨y, firstWith_cons.mpr (Or.inr ⟨passes, first⟩), fails⟩
    · rintro ⟨y, first, fails⟩
      rcases firstWith_cons.mp first with ⟨rfl, -⟩ | ⟨passes, first⟩
      · rw [fails]
        rfl
      · cases ends : f x with
        | error e' => exact absurd ⟨e', ends⟩ passes
        | ok b =>
          rw [ok_bind, ih.mpr ⟨y, first, fails⟩]
          rfl

end Storygraph
