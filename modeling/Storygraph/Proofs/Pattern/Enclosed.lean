import Mathlib.Data.List.Forall2
import Mathlib.Data.List.Infix
import Mathlib.Data.List.TakeWhile
import Mathlib.Data.Option.Defs
import Storygraph.Pattern.Group

/-!
# Positions in an enclosed pattern

A pattern that is pasted in front of a closing parenthesis is read there as it is by itself, until
it ends. `Enclosed` relates a position in the pattern with the same one in the longer text, and
`Mirrors` what a reader answers at the one with what it answers at the other.
-/

namespace Storygraph.Pattern

/-! ### Moving on -/

namespace Source

theorem rest_drop (n : Nat) (s : Source) : (s.drop n).rest = s.rest.drop n := by
  induction n with
  | zero => rfl
  | succ n ih =>
    have last : (s.drop (n + 1)).rest = (s.drop n).rest.tail := by
      change (s.drop n).next.rest = _
      rw [next]
      split
      · rename_i ended
        rw [ended]
        rfl
      · rename_i more
        rw [more]
        rfl
    rw [last, ih, List.tail_drop]

theorem verbose_drop (n : Nat) (s : Source) : (s.drop n).verbose = s.verbose := by
  induction n with
  | zero => rfl
  | succ n ih =>
    have last : (s.drop (n + 1)).verbose = (s.drop n).verbose := by
      change (s.drop n).next.verbose = _
      rw [next]
      split <;> rfl
    rw [last, ih]

theorem verbose_step (s : Source) : s.step.verbose = s.verbose := by
  rw [step, skip]
  split
  · exact (verbose_drop _ s.next).trans (verbose_drop 1 s)
  · exact verbose_drop 1 s

theorem exists_rest {s : Source} {c : Char} (here : s.char? = some c) : ∃ t, s.rest = c :: t := by
  rw [char?] at here
  exact ⟨s.rest.tail, List.eq_cons_of_mem_head? here⟩

theorem char?_of_rest {s : Source} {c : Char} {t : Text} (rest : s.rest = c :: t) :
    s.char? = some c := by
  rw [char?, rest, List.head?_cons]

theorem rest_of_char?_eq_none {s : Source} (ended : s.char? = none) : s.rest = [] :=
  List.head?_eq_none_iff.mp ended

theorem char?_of_nil {s : Source} (ended : s.rest = []) : s.char? = none := by
  rw [char?, ended, List.head?_nil]

theorem skip_of_char? {s : Source} {c : Char} (here : s.char? = some c)
    (visible : isBlank c = false) (other : c ≠ '#') : s.skip = s := by
  obtain ⟨t, rest⟩ := exists_rest here
  have hidden : hiddenLength false s.rest = 0 := by
    rw [rest]
    simp [hiddenLength, visible, other]
  rw [skip, hidden]
  split <;> rfl

theorem rest_skip_congr {s s' : Source} (verbose : s'.verbose = s.verbose)
    (rest : s'.rest = s.rest) : s'.skip.rest = s.skip.rest := by
  unfold skip
  rw [verbose, rest]
  split
  · rw [rest_drop, rest_drop, rest]
  · exact rest

theorem skip_of_nil {s : Source} (ended : s.rest = []) : s.skip = s := by
  rw [skip, ended]
  split <;> rfl

theorem rest_next_of_closing {s : Source} (rest : s.rest = [')']) : s.next.rest = [] := by
  have moved := rest_drop 1 s
  rwa [rest] at moved

theorem rest_step_of_closing {s : Source} (rest : s.rest = [')']) : s.step.rest = [] := by
  have moved := rest_next_of_closing rest
  rw [step, skip_of_nil moved, moved]

end Source

/-- The first position is one in the pattern with at most `n` characters left, and the second is the
same one in a text that goes on with a closing parenthesis. At the end of the pattern a comment may
have hidden the parenthesis. -/
structure Enclosed (n : Nat) (s s' : Source) : Prop where
  verbose : s'.verbose = s.verbose
  rest : s'.rest = s.rest ++ [')'] ∨ s.rest = [] ∧ s'.rest = []
  le : s.rest.length ≤ n

namespace Enclosed

variable {n k : Nat} {s s' : Source}

theorem mono (place : Enclosed n s s') (le : n ≤ k) : Enclosed k s s' :=
  { place with le := Nat.le_trans place.le le }

/-- Where the pattern goes on, so does the longer text, and in the same way. -/
theorem cons (place : Enclosed n s s') {c : Char} (here : s.char? = some c) :
    ∃ t, s.rest = c :: t ∧ s'.rest = c :: (t ++ [')']) := by
  obtain ⟨t, rest⟩ := Source.exists_rest here
  refine ⟨t, rest, ?_⟩
  rcases place.rest with longer | ⟨ended, -⟩
  · rw [longer, rest, List.cons_append]
  · nomatch rest.symm.trans ended

theorem char? (place : Enclosed n s s') {c : Char} (here : s.char? = some c) :
    s'.char? = some c := by
  obtain ⟨t, -, rest⟩ := place.cons here
  rw [Source.char?, rest, List.head?_cons]

/-- Where the pattern ends, the longer text has the parenthesis or nothing. -/
theorem ended (place : Enclosed n s s') (here : s.char? = none) :
    s'.rest = [')'] ∨ s'.rest = [] := by
  have ended := Source.rest_of_char?_eq_none here
  rcases place.rest with longer | ⟨-, hidden⟩
  · exact .inl (by rw [longer, ended, List.nil_append])
  · exact .inr hidden

theorem char?_eq_some_iff (place : Enclosed n s s') {c : Char} (other : c ≠ ')') :
    s'.char? = some c ↔ s.char? = some c := by
  refine ⟨fun here => ?_, place.char?⟩
  cases first : s.char? with
  | some d =>
    rw [place.char? first] at here
    exact here
  | none =>
    rcases place.ended first with rest | rest
    · rw [Source.char?, rest, List.head?_cons, Option.some.injEq] at here
      exact absurd here.symm other
    · rw [Source.char?, rest, List.head?_nil] at here
      nomatch here

theorem drop (place : Enclosed n s s') (le : k ≤ s.rest.length) :
    Enclosed (n - k) (s.drop k) (s'.drop k) where
  verbose := by rw [Source.verbose_drop, Source.verbose_drop, place.verbose]
  rest := by
    rw [Source.rest_drop, Source.rest_drop]
    rcases place.rest with longer | ⟨ended, hidden⟩
    · exact .inl (by rw [longer, List.drop_append_of_le_length le])
    · exact .inr ⟨by rw [ended, List.drop_nil], by rw [hidden, List.drop_nil]⟩
  le := by
    rw [Source.rest_drop, List.length_drop]
    exact Nat.sub_le_sub_right place.le k

theorem pos (place : Enclosed n s s') {c : Char} (here : s.char? = some c) : 0 < n := by
  obtain ⟨t, rest, -⟩ := place.cons here
  exact Nat.lt_of_lt_of_le (by rw [rest]; exact Nat.succ_pos _) place.le

theorem next (place : Enclosed n s s') {c : Char} (here : s.char? = some c) :
    Enclosed (n - 1) s.next s'.next := by
  obtain ⟨t, rest, -⟩ := place.cons here
  exact place.drop (k := 1) (by rw [rest, List.length_cons]; omega)

theorem rest_eq {u : Source} (first : Enclosed n s u) (second : Enclosed k s' u) :
    s'.rest = s.rest := by
  rcases first.rest with longer | ⟨ended, hidden⟩
  · rcases second.rest with longer' | ⟨ended', hidden'⟩
    · exact List.append_cancel_right (longer'.symm.trans longer)
    · exact absurd (longer.symm.trans hidden') (by simp)
  · rcases second.rest with longer' | ⟨ended', hidden'⟩
    · exact absurd (longer'.symm.trans hidden) (by simp)
    · rw [ended, ended']

/-! ### Blanks and comments -/

theorem hiddenLength_le (inComment : Bool) (t : Text) :
    Source.hiddenLength inComment t ≤ t.length := by
  fun_induction Source.hiddenLength inComment t <;> simp_all

/-- A text hides the parenthesis after it only if it is hidden up to its end. -/
theorem hiddenLength_append (inComment : Bool) (t : Text) :
    Source.hiddenLength inComment (t ++ [')']) = Source.hiddenLength inComment t ∨
      Source.hiddenLength inComment t = t.length ∧
        Source.hiddenLength inComment (t ++ [')']) = t.length + 1 := by
  induction t generalizing inComment with
  | nil => cases inComment <;> simp [Source.hiddenLength, show isBlank ')' = false from rfl]
  | cons c t ih =>
    have later (inside : Bool) :
        Source.hiddenLength inside (t ++ [')']) + 1 = Source.hiddenLength inside t + 1 ∨
          Source.hiddenLength inside t + 1 = (c :: t).length ∧
            Source.hiddenLength inside (t ++ [')']) + 1 = (c :: t).length + 1 :=
      (ih inside).imp (congrArg (· + 1)) (And.imp (congrArg (· + 1)) (congrArg (· + 1)))
    rw [List.cons_append]
    simp only [Source.hiddenLength]
    split
    · exact later _
    · split
      · exact later false
      · split
        · exact later true
        · exact .inl rfl

theorem skip (place : Enclosed n s s') : Enclosed n s.skip s'.skip := by
  unfold Source.skip
  rw [place.verbose]
  split
  · rcases place.rest with longer | ⟨ended, hidden⟩
    · rcases hiddenLength_append false s.rest with same | ⟨all, more⟩
      · rw [longer, same]
        exact (place.drop (hiddenLength_le false s.rest)).mono (Nat.sub_le _ _)
      · have stop := place.drop (Nat.le_refl s.rest.length)
        rw [longer, all, more]
        refine ⟨?_, .inr ⟨?_, ?_⟩, stop.le.trans (Nat.sub_le _ _)⟩
        · rw [Source.verbose_drop, Source.verbose_drop, place.verbose]
        · rw [Source.rest_drop, List.drop_length]
        · rw [Source.rest_drop, longer, List.drop_eq_nil_of_le (by simp)]
    · rw [ended, hidden]
      exact place
  · exact place

theorem step (place : Enclosed n s s') {c : Char} (here : s.char? = some c) :
    Enclosed (n - 1) s.step s'.step :=
  (place.next here).skip

theorem skipBlanks (place : Enclosed n s s') :
    Enclosed n s.skipBlanks s'.skipBlanks := by
  have same : (s'.rest.takeWhile isBlank).length = (s.rest.takeWhile isBlank).length := by
    rcases place.rest with longer | ⟨ended, hidden⟩
    · rw [longer, List.takeWhile_append]
      split
      · rename_i all
        rw [List.takeWhile_cons_of_neg (by decide), List.append_nil]
        exact all.symm
      · rfl
    · rw [ended, hidden]
  rw [Source.skipBlanks, Source.skipBlanks, same]
  exact (place.drop (List.takeWhile_prefix _).length_le).mono (Nat.sub_le _ _)

end Enclosed

def SamePlace (n : Nat) (p p' : Source) : Prop :=
  Enclosed n p p' ∧ p'.char? = p.char?

/-! ### Words -/

theorem dropPrefix?_append {word : Text} (free : ')' ∉ word) (t : Text) :
    Text.dropPrefix? word (t ++ [')']) = (Text.dropPrefix? word t).map (· ++ [')']) := by
  induction word generalizing t with
  | nil => rfl
  | cons c word ih =>
    rw [List.mem_cons, not_or] at free
    cases t with
    | nil =>
      change (if c = ')' then Text.dropPrefix? word [] else none) = none
      rw [if_neg (Ne.symm free.1)]
    | cons d t =>
      rw [List.cons_append, Text.dropPrefix?, Text.dropPrefix?]
      split
      · exact ih free.2 t
      · rfl

theorem Enclosed.take? {n : Nat} {s s' : Source} (place : Enclosed n s s')
    (word : String) (free : ')' ∉ word.toList) (shown : word.toList ≠ []) :
    Option.Rel (Enclosed (n - 1)) (s.take? word) (s'.take? word) := by
  unfold Source.take?
  rcases place.rest with longer | ⟨ended, hidden⟩
  · rw [longer, dropPrefix?_append free]
    cases found : Text.dropPrefix? word.toList s.rest with
    | none => exact .none
    | some t =>
      have cut := Text.dropPrefix?_eq_some_iff.mp found
      have pos := List.length_pos_of_ne_nil shown
      have le := place.le
      rw [cut, List.length_append] at le
      refine .some ⟨place.verbose, .inl rfl, ?_⟩
      change t.length ≤ n - 1
      omega
  · obtain ⟨c, word, shape⟩ := List.exists_cons_of_ne_nil shown
    rw [ended, hidden, shape]
    exact .none

theorem rel_or {α β : Type} {r : α → β → Prop} {x y : Option α} {x' y' : Option β}
    (first : Option.Rel r x x') (second : Option.Rel r y y') :
    Option.Rel r (x.or y) (x'.or y') := by
  cases first with
  | none => exact second
  | some here => exact .some here

/-- A word that may hold the parenthesis ends at the same place of the pattern, or with the text. -/
theorem Enclosed.word {n : Nat} {s s' : Source} (place : Enclosed n s s')
    (f : Char → Bool) (through : f ')' = true) :
    s'.rest.takeWhile f = s.rest.takeWhile f ∧
        SamePlace n (s.drop (s.rest.takeWhile f).length)
          (s'.drop (s.rest.takeWhile f).length) ∨
      (s.drop (s.rest.takeWhile f).length).rest = [] ∧
        (s'.drop (s'.rest.takeWhile f).length).rest = [] := by
  have prefix_le := (List.takeWhile_prefix (l := s.rest) f).length_le
  have inside : Enclosed n (s.drop (s.rest.takeWhile f).length)
      (s'.drop (s.rest.takeWhile f).length) := (place.drop prefix_le).mono (Nat.sub_le _ _)
  rcases place.rest with longer | ⟨ended, hidden⟩
  · by_cases all : (s.rest.takeWhile f).length = s.rest.length
    · have all' : s'.rest.takeWhile f = s'.rest := by
        rw [longer, List.takeWhile_append, if_pos all, List.takeWhile_cons_of_pos through,
          List.takeWhile_nil]
      right
      rw [all', all, Source.rest_drop, Source.rest_drop, List.drop_length, List.drop_length]
      exact ⟨rfl, rfl⟩
    · refine .inl ⟨by rw [longer, List.takeWhile_append, if_neg all], inside, ?_⟩
      cases here : (s.drop (s.rest.takeWhile f).length).char? with
      | none =>
        have ended := Source.rest_of_char?_eq_none here
        rw [Source.rest_drop, List.drop_eq_nil_iff] at ended
        omega
      | some c => exact inside.char? here
  · refine .inl ⟨by rw [ended, hidden], inside, ?_⟩
    rw [Source.char?, Source.char?, Source.rest_drop, Source.rest_drop, ended, hidden]

/-! ### What comes after the next character -/

theorem peekThrough_append {c : Char} (visible : isBlank c = false) (other : c ≠ '#')
    (inside : c ≠ ')') (t : Text) :
    Source.peekThrough (t ++ [')']) = some c ↔ Source.peekThrough t = some c := by
  have blanks (u : Text) : (u ++ [')']).dropWhile isBlank = u.dropWhile isBlank ++ [')'] := by
    rw [List.dropWhile_append]
    split
    · rename_i all
      rw [List.isEmpty_iff.mp all]
      rfl
    · rfl
  -- The first character counts only where all else is blank, so it cannot be `c`.
  have first {d : Char} {rest : Text} (shape : t.dropWhile isBlank = d :: rest) (sharp : d = '#') :
      t.head? ≠ some c := by
    intro here
    obtain ⟨u, rfl⟩ : ∃ u, t = c :: u := ⟨t.tail, List.eq_cons_of_mem_head? here⟩
    rw [List.dropWhile_cons_of_neg (by simp [visible])] at shape
    exact other ((List.cons.inj shape).1.trans sharp)
  unfold Source.peekThrough
  rw [blanks]
  rcases shape : t.dropWhile isBlank with _ | ⟨d, rest⟩
  · have blank : t.head? ≠ some c := by
      intro here
      have := List.dropWhile_eq_nil_iff.mp shape c (List.mem_of_head? here)
      rw [visible] at this
      nomatch this
    simpa [blank] using inside.symm
  · by_cases sharp : d = '#'
    · subst sharp
      simp only [List.cons_append, blanks]
      cases rest.dropWhile isBlank with
      | nil => simpa [first shape rfl] using inside.symm
      | cons e rest => rfl
    · simp [sharp]

theorem Enclosed.peekSkip? {n : Nat} {s s' : Source} (place : Enclosed n s s')
    {c d : Char} (here : s.char? = some d) (visible : isBlank c = false) (other : c ≠ '#')
    (inside : c ≠ ')') : s'.peekSkip? = some c ↔ s.peekSkip? = some c := by
  obtain ⟨t, rest, rest'⟩ := place.cons here
  rw [Source.peekSkip?, Source.peekSkip?, place.verbose, rest, rest', List.tail_cons,
    List.tail_cons]
  split
  · exact peekThrough_append visible other inside t
  · rw [Source.peek?, Source.peek?, rest, rest']
    cases t with
    | nil => simpa using inside.symm
    | cons e t => rfl

/-! ### The places ahead -/

section

variable {n : Nat} {s s' : Source}

/-- What is left of some places once the pattern is over: one at the parenthesis, or nothing if a
comment has hidden it. -/
def Overhang (verbose : Bool) (extra : List Source) : Prop :=
  (∃ last : Source, extra = [last] ∧ last.rest = [')'] ∧ last.verbose = verbose) ∨ extra = []

theorem samePlace {c : Char} {t : Text} (le : (c :: t).length ≤ n) (verbose : Bool) (i j : Nat) :
    SamePlace n ⟨i, c :: t, verbose⟩ ⟨j, c :: (t ++ [')']), verbose⟩ :=
  ⟨⟨rfl, .inl rfl, le⟩, rfl⟩

theorem every_enclosed (t : Text) (le : t.length ≤ n) (i j : Nat) :
    ∃ later extra, Source.every j (t ++ [')']) = later ++ extra ∧
      List.Forall₂ (SamePlace n) (Source.every i t) later ∧ Overhang false extra := by
  induction t generalizing i j with
  | nil => exact ⟨[], _, rfl, .nil, .inl ⟨_, rfl, rfl, rfl⟩⟩
  | cons c t ih =>
    obtain ⟨later, extra, cut, related, beyond⟩ := ih (Nat.le_of_succ_le le) (i + 1) (j + 1)
    refine ⟨_, extra, ?_, .cons (samePlace le false i j) related, beyond⟩
    rw [List.cons_append, Source.every, cut, List.cons_append]

theorem visible_enclosed (inComment : Bool) (t : Text) (le : t.length ≤ n) (i j : Nat) :
    ∃ later extra, Source.visible inComment j (t ++ [')']) = later ++ extra ∧
      List.Forall₂ (SamePlace n) (Source.visible inComment i t) later ∧ Overhang true extra := by
  induction t generalizing inComment i j with
  | nil =>
    cases inComment with
    | true => exact ⟨[], [], rfl, .nil, .inr rfl⟩
    | false => exact ⟨[], _, rfl, .nil, .inl ⟨_, rfl, rfl, rfl⟩⟩
  | cons c t ih =>
    have later (inside : Bool) := ih inside (Nat.le_of_succ_le le) (i + 1) (j + 1)
    rw [List.cons_append]
    simp only [Source.visible]
    split
    · exact later _
    · split
      · exact later false
      · split
        · exact later true
        · obtain ⟨rest, extra, cut, related, beyond⟩ := later false
          refine ⟨_, extra, ?_, .cons (samePlace le true i j) related, beyond⟩
          rw [cut, List.cons_append]

theorem Enclosed.places (place : Enclosed n s s') : ∃ later extra,
    s'.places = later ++ extra ∧ List.Forall₂ (SamePlace n) s.places later ∧
      Overhang s.verbose extra := by
  unfold Source.places
  rw [place.verbose]
  rcases place.rest with longer | ⟨ended, hidden⟩
  · rw [longer]
    cases s.verbose with
    | true => exact visible_enclosed false s.rest place.le _ _
    | false => exact every_enclosed s.rest place.le _ _
  · rw [ended, hidden]
    refine ⟨[], [], ?_, ?_, .inr rfl⟩
    · cases s.verbose <;> rfl
    · cases s.verbose <;> exact .nil

/-- Going on over places with a property that the parenthesis does not have, both positions stop at
the same place. -/
theorem Enclosed.scan_until (place : Enclosed n s s') (f : Option Char → Bool)
    (stops : f (some ')') = false) (t t' : Source) (verbose : t.verbose = s.verbose)
    (verbose' : t'.verbose = s'.verbose) :
    List.Forall₂ (SamePlace n) (s.places.takeWhile fun p => f p.char?)
        (s'.places.takeWhile fun p => f p.char?) ∧
      Enclosed n (t.first (s.places.dropWhile fun p => f p.char?))
        (t'.first (s'.places.dropWhile fun p => f p.char?)) := by
  obtain ⟨later, extra, cut, related, beyond⟩ := place.places
  rw [cut]
  generalize s.places = places at related
  clear cut
  induction related with
  | nil =>
    rcases beyond with ⟨last, rfl, rest, same⟩ | rfl
    · have holds : f last.char? = false := by rwa [Source.char?_of_rest rest]
      simp only [List.nil_append, List.takeWhile_cons, List.dropWhile_cons, holds,
        Bool.false_eq_true, if_false]
      exact ⟨.nil, same.trans verbose.symm, .inl rest, Nat.zero_le n⟩
    · exact ⟨.nil, verbose'.trans (place.verbose.trans verbose.symm), .inr ⟨rfl, rfl⟩,
        Nat.zero_le n⟩
  | @cons p p' places later here rest ih =>
    rw [List.cons_append]
    simp only [List.takeWhile_cons, List.dropWhile_cons, here.2]
    split
    · exact ih.imp_left (.cons here)
    · exact ⟨.nil, here.1⟩

/-- Going on over places with a property that the parenthesis has too, both positions stop at the
same place or nowhere. -/
theorem Enclosed.scan_through (place : Enclosed n s s') (f : Option Char → Bool)
    (holds : f (some ')') = true) (t t' : Source) :
    List.Forall₂ (SamePlace n) (s.places.takeWhile fun p => f p.char?)
        (s'.places.takeWhile fun p => f p.char?) ∧
      SamePlace n (t.first (s.places.dropWhile fun p => f p.char?))
        (t'.first (s'.places.dropWhile fun p => f p.char?)) ∨
    (t.first (s.places.dropWhile fun p => f p.char?)).char? = none ∧
      (t'.first (s'.places.dropWhile fun p => f p.char?)).char? = none := by
  obtain ⟨later, extra, cut, related, beyond⟩ := place.places
  rw [cut]
  generalize s.places = places at related
  clear cut
  induction related with
  | nil =>
    rcases beyond with ⟨last, rfl, rest, -⟩ | rfl
    · have holds : f last.char? = true := by rwa [Source.char?_of_rest rest]
      simp only [List.nil_append, List.dropWhile_cons, holds, if_true]
      exact .inr ⟨rfl, rfl⟩
    · exact .inr ⟨rfl, rfl⟩
  | @cons p p' places later here rest ih =>
    rw [List.cons_append]
    simp only [List.takeWhile_cons, List.dropWhile_cons, here.2]
    split
    · exact ih.imp_left fun ⟨taken, stop⟩ => ⟨.cons here taken, stop⟩
    · exact .inl ⟨.nil, here⟩

end

theorem isEmpty_congr {α β : Type} {xs : List α} {ys : List β} (lengths : ys.length = xs.length) :
    ys.isEmpty = xs.isEmpty := by
  rw [Bool.eq_iff_iff, List.isEmpty_iff_length_eq_zero, List.isEmpty_iff_length_eq_zero, lengths]

/-! ### Answers -/

/-- What is answered at a position of the pattern and at the same one in the longer text: values
that correspond, or errors at both. Where the pattern ends too early, what is read in the longer
text is `stray`. -/
inductive Mirrors {α β : Type} (rel : α → β → Prop) (stray : β → Prop) :
    Except Error α → Except Error β → Prop
  | ok {a b} (same : rel a b) : Mirrors rel stray (.ok a) (.ok b)
  | refused {e e'} : Mirrors rel stray (.error e) (.error e')
  | lost {e b} (beyond : stray b) : Mirrors rel stray (.error e) (.ok b)

namespace Mirrors

variable {α β γ δ : Type} {rel : α → β → Prop} {stray : β → Prop} {rel' : γ → δ → Prop}
  {stray' : δ → Prop}

theorem of_error {e : Error} {y : Except Error β} (beyond : ∀ b, y = .ok b → stray b) :
    Mirrors rel stray (.error e) y := by
  cases y with
  | error => exact .refused
  | ok b => exact .lost (beyond b rfl)

theorem bind {x : Except Error α} {y : Except Error β} {f : α → Except Error γ}
    {g : β → Except Error δ} (first : Mirrors rel stray x y)
    (next : ∀ a b, rel a b → Mirrors rel' stray' (f a) (g b))
    (astray : ∀ b, stray b → ∀ d, g b = .ok d → stray' d) :
    Mirrors rel' stray' (x >>= f) (y >>= g) := by
  cases first with
  | ok same => exact next _ _ same
  | refused => exact .refused
  | lost beyond => exact .of_error (astray _ beyond)

theorem mono {x : Except Error α} {y : Except Error β} {rel' : α → β → Prop} {stray' : β → Prop}
    (first : Mirrors rel stray x y) (same : ∀ a b, rel a b → rel' a b)
    (beyond : ∀ b, stray b → stray' b) : Mirrors rel' stray' x y := by
  cases first with
  | ok here => exact .ok (same _ _ here)
  | refused => exact .refused
  | lost here => exact .lost (beyond _ here)

theorem exists_ok_right {x : Except Error α} {y : Except Error β} (answers : Mirrors rel stray x y)
    {a : α} (read : x = .ok a) : ∃ b, y = .ok b ∧ rel a b := by
  cases answers with
  | ok same =>
    cases read
    exact ⟨_, rfl, same⟩
  | refused => cases read
  | lost => cases read

/-- Where nothing is stray, what is read in the longer text is read in the pattern. -/
theorem exists_ok {x : Except Error α} {y : Except Error β}
    (answers : Mirrors rel (fun _ => False) x y) {b : β} (read : y = .ok b) :
    ∃ a, x = .ok a ∧ rel a b := by
  cases answers with
  | ok same =>
    cases read
    exact ⟨_, rfl, same⟩
  | refused => cases read
  | lost beyond => exact beyond.elim

/-- It does not matter which error the pattern is refused with. -/
theorem failed {e e' : Error} {y : Except Error β} (answers : Mirrors rel stray (.error e) y) :
    Mirrors rel stray (.error e') y := by
  cases answers with
  | refused => exact .refused
  | lost beyond => exact .lost beyond

/-- What holds of every answer in the pattern may be added. -/
theorem strengthen {x : Except Error α} {y : Except Error β} {P : α → Prop}
    (answers : Mirrors rel stray x y) (fact : ∀ a, x = .ok a → P a) :
    Mirrors (fun a b => rel a b ∧ P a) stray x y := by
  cases answers with
  | ok same => exact .ok ⟨same, fact _ rfl⟩
  | refused => exact .refused
  | lost beyond => exact .lost beyond

/-- Answers of the same view, or errors at both. -/
theorem of_toOption {x y : Except Error α} (view : α → γ) {stray : α → Prop}
    (same : y.toOption.map view = x.toOption.map view) :
    Mirrors (fun a b => view b = view a) stray x y := by
  cases x with
  | error =>
    cases y with
    | error => exact .refused
    | ok b => nomatch same
  | ok a =>
    cases y with
    | error => nomatch same
    | ok b => exact .ok (Option.some.inj same)

end Mirrors

def Alongside {α β : Type} (rel : α → β → Prop) (n : Nat) (p : α × Source)
    (p' : β × Source) : Prop :=
  rel p.1 p'.1 ∧ Enclosed n p.2 p'.2

theorem Mirrors.widen {α β : Type} {rel : α → β → Prop} {n k : Nat}
    {stray : β × Source → Prop} {x : Except Error (α × Source)} {y : Except Error (β × Source)}
    (answers : Mirrors (Alongside rel n) stray x y) (le : n ≤ k) :
    Mirrors (Alongside rel k) stray x y :=
  answers.mono (fun _ _ same => ⟨same.1, same.2.mono le⟩) fun _ => id

end Storygraph.Pattern
