import Storygraph.Json.Decode
import Storygraph.Proofs.Json.Written

/-!
# Steps of reading

What a step of reading makes of a text. `Takes` says what it answers and what it leaves, `Settles`
what holds of both if it answers at all.
-/

namespace Storygraph.Json

/-- The text `t` is left to read, and it is not longer than the whole text. -/
structure Source.Holds (s : Source) (t : Text) : Prop where
  rest : s.rest = t
  bound : t.length ≤ s.size

namespace Source

theorem size_next (s : Source) : s.next.size = s.size := by
  unfold next
  split <;> rfl

theorem size_drop (n : Nat) (s : Source) : (s.drop n).size = s.size := by
  induction n generalizing s with
  | zero => rfl
  | succ n ih => rw [drop, ih, size_next]

theorem Holds.drop {s : Source} {read t : Text} (holds : s.Holds (read ++ t)) :
    (s.drop read.length).Holds t := by
  refine ⟨by rw [rest_drop, holds.rest, List.drop_left], ?_⟩
  have := holds.bound
  rw [List.length_append] at this
  rw [size_drop]
  omega

theorem Holds.next {s : Source} {c : Char} {t : Text} (holds : s.Holds (c :: t)) :
    s.next.Holds t := by
  rw [← List.singleton_append] at holds
  exact holds.drop

end Source

namespace Reader

variable {α β : Type} {a : α} {b : β} {t t' t'' : Text}

/-- Reading where `t` is left gives `a` and leaves `t'`. -/
def Takes (read : Reader α) (t : Text) (a : α) (t' : Text) : Prop :=
  ∀ s : Source, s.Holds t → ∃ s', read s = .ok (a, s') ∧ s'.Holds t'

/-! ### Steps -/

theorem takes_pure (a : α) (t : Text) : Takes (pure a) t a t :=
  fun s holds => ⟨s, rfl, holds⟩

theorem Takes.bind {read : Reader α} {next : α → Reader β} (first : Takes read t a t')
    (second : Takes (next a) t' b t'') : Takes (read >>= next) t b t'' := by
  intro s holds
  obtain ⟨s', runs, holds⟩ := first s holds
  obtain ⟨s'', ends, holds⟩ := second s' holds
  refine ⟨s'', ?_, holds⟩
  rw [← ends]
  change Except.bind (read s) _ = _
  rw [runs]
  rfl

/-- The length of the whole text can be used as a bound on what is left. -/
theorem takes_size_bind {next : Nat → Reader α}
    (uses : ∀ n, t.length ≤ n → Takes (next n) t a t') : Takes (size >>= next) t a t' :=
  fun s holds => uses s.size holds.bound s holds

theorem takes_peek? (t : Text) : Takes peek? t t.head? t :=
  fun s holds => ⟨s, by rw [peek?, holds.rest], holds⟩

theorem takes_advance (c : Char) (t : Text) : Takes advance (c :: t) () t :=
  fun s holds => ⟨s.next, rfl, holds.next⟩

theorem takes_drop (read t : Text) : Takes (drop read.length) (read ++ t) () t :=
  fun s holds => ⟨s.drop read.length, rfl, holds.drop⟩

theorem takeWhile_append {p : Char → Bool} {front : Text} (inside : ∀ c ∈ front, p c = true)
    (stops : ∀ c ∈ t.head?, p c = false) : (front ++ t).takeWhile p = front := by
  rw [List.takeWhile_append_of_pos inside]
  cases t with
  | nil => simp
  | cons c t => simp [stops c rfl]

theorem takes_skipSpace {blanks : Text} (blank : Blank blanks)
    (stops : ∀ c ∈ t.head?, Source.isSpace c = false) : Takes skipSpace (blanks ++ t) () t := by
  intro s holds
  refine ⟨s.drop blanks.length, ?_, holds.drop⟩
  rw [skipSpace, Source.skipSpace, Source.skipWhile, holds.rest, takeWhile_append blank stops]

theorem takes_token? {blanks : Text} {c : Char} (blank : Blank blanks)
    (visible : Source.isSpace c = false) :
    Takes token? (blanks ++ c :: t) (some c) (c :: t) :=
  (takes_skipSpace blank (by simpa using visible)).bind (takes_peek? _)

theorem takes_token?_end {blanks : Text} (blank : Blank blanks) : Takes token? blanks none [] := by
  rw [← List.append_nil blanks]
  exact (takes_skipSpace blank (by simp)).bind (takes_peek? _)

theorem takes_startOfValue {blanks : Text} {c : Char} (blank : Blank blanks)
    (visible : Source.isSpace c = false) :
    Takes startOfValue (blanks ++ c :: t) c (c :: t) :=
  (takes_token? blank visible).bind (takes_pure c _)

theorem Takes.within {leave : Reader Unit} {after : Source → Source} {read : Reader α}
    (inside : Takes read t a t') (leaves : Takes leave t' () t'') :
    Takes (within leave after read) t a t'' := by
  intro s holds
  obtain ⟨s', runs, holds⟩ := inside s holds
  obtain ⟨s'', ends, holds⟩ := leaves s' holds
  refine ⟨s'', ?_, holds⟩
  rw [Reader.within, runs]
  change Except.map _ (leave s') = _
  rw [ends]
  rfl

/-! ### Where reading may stop -/

/-- If reading where `t` is left gives an answer, `good` holds of it and of what is left then. -/
def Settles (read : Reader α) (t : Text) (good : α → Text → Prop) : Prop :=
  ∀ s : Source, s.Holds t → ∀ a s', read s = .ok (a, s') → ∃ t', s'.Holds t' ∧ good a t'

variable {good : α → Text → Prop}

theorem Takes.settles {read : Reader α} (takes : Takes read t a t') (holds : good a t') :
    Settles read t good := by
  intro s here b s'' answers
  obtain ⟨s', runs, left⟩ := takes s here
  cases runs.symm.trans answers
  exact ⟨t', left, holds⟩

theorem settles_pure (holds : good a t) : Settles (pure a) t good :=
  (takes_pure a t).settles holds

theorem settles_of_never {read : Reader α} (never : ∀ s a s', read s ≠ .ok (a, s')) :
    Settles read t good := fun s _ a s' answers => absurd answers (never s a s')

theorem Settles.mono {read : Reader α} {better : α → Text → Prop} (settles : Settles read t better)
    (weaker : ∀ a u, better a u → good a u) : Settles read t good := by
  intro s here a s' answers
  obtain ⟨u, left, holds⟩ := settles s here a s' answers
  exact ⟨u, left, weaker a u holds⟩

theorem Settles.bind {read : Reader β} {next : β → Reader α} {between : β → Text → Prop}
    (first : Settles read t between) (second : ∀ b u, between b u → Settles (next b) u good) :
    Settles (read >>= next) t good := by
  intro s here a s'' answers
  change Except.bind (read s) (fun p => next p.1 p.2) = _ at answers
  cases ran : read s with
  | error failure =>
    rw [ran] at answers
    nomatch answers
  | ok p =>
    rw [ran] at answers
    obtain ⟨u, left, holds⟩ := first s here p.1 p.2 ran
    exact second p.1 u holds p.2 left a s'' answers

theorem Takes.settles_bind {read : Reader β} {next : β → Reader α} (first : Takes read t b t')
    (second : Settles (next b) t' good) : Settles (read >>= next) t good := by
  have only : Settles read t fun c u => c = b ∧ u = t' := first.settles ⟨rfl, rfl⟩
  refine only.bind fun c u both => ?_
  obtain ⟨rfl, rfl⟩ := both
  exact second

theorem settles_size_bind {next : Nat → Reader α}
    (uses : ∀ n, t.length ≤ n → Settles (next n) t good) : Settles (size >>= next) t good :=
  fun s holds => uses s.size holds.bound s holds

theorem Settles.within {leave : Reader Unit} {after : Source → Source} {read : Reader α}
    {between : α → Text → Prop} (inside : Settles read t between)
    (leaves : ∀ a u, between a u → Settles leave u fun _ => good a) :
    Settles (within leave after read) t good := by
  intro s here a s'' answers
  rw [Reader.within] at answers
  cases ran : read s with
  | error failure =>
    rw [ran] at answers
    cases failure <;> nomatch answers
  | ok p =>
    obtain ⟨b, s'⟩ := p
    rw [ran] at answers
    change Except.map _ (leave s') = _ at answers
    obtain ⟨u, left, holds⟩ := inside s here b s' ran
    cases ends : leave s' with
    | error failure =>
      rw [ends] at answers
      nomatch answers
    | ok q =>
      rw [ends] at answers
      cases answers
      exact leaves _ u holds s' left q.1 q.2 ends

end Reader

end Storygraph.Json
