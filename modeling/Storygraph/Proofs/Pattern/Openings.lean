import Storygraph.Proofs.Outcomes
import Storygraph.Proofs.Pattern.Enclosed
import Storygraph.Proofs.Pattern.Spans

/-!
# Group openings in an enclosed pattern

What follows an opening parenthesis is read alike in the pattern and in the longer text: the flags
of a group, its name, or nothing. Where the pattern ends among the flags, the parenthesis ends them
(`mirrors_readOpening`).
-/

namespace Storygraph.Pattern

variable {n : Nat} {s s' : Source}

/-! ### Flags -/

/-- What may be written once stands among the earlier ones in both texts or in neither. -/
theorem find?_of_map_fst {α β : Type} [DecidableEq α] {xs xs' : List (α × β)}
    (alike : xs'.map Prod.fst = xs.map Prod.fst) (a : α) :
    (∃ p p', xs.find? (·.1 = a) = some p ∧ xs'.find? (·.1 = a) = some p') ∨
      xs.find? (·.1 = a) = none ∧ xs'.find? (·.1 = a) = none := by
  have first (ys : List (α × β)) :
      (ys.find? (·.1 = a)).map Prod.fst = (ys.map Prod.fst).find? (· = a) := by
    rw [List.find?_map]
    rfl
  have same : (xs'.find? (·.1 = a)).map Prod.fst = (xs.find? (·.1 = a)).map Prod.fst := by
    rw [first, first, alike]
  cases here : xs.find? (·.1 = a) with
  | none =>
    rw [here, Option.map_none, Option.map_eq_none_iff] at same
    exact .inr ⟨rfl, same⟩
  | some p =>
    rw [here, Option.map_some, Option.map_eq_some_iff] at same
    obtain ⟨p', here', -⟩ := same
    exact .inl ⟨p, p', rfl, here'⟩

/-- The rest of `readFlags` from the character that ends the flags. -/
def endFlags (seen : WrittenFlags) (t : Text) : Except Error (WrittenFlags × Text) :=
  match seen with
  | (none, dash) :: _ => refuse .flagDangling dash
  | _ => .ok (seen.reverse, t)

theorem eq_of_endFlags {seen items : WrittenFlags} {t rest : Text}
    (read : endFlags seen t = .ok (items, rest)) : items = seen.reverse ∧ rest = t := by
  unfold endFlags at read
  split at read
  · cases read
  · cases read
    exact ⟨rfl, rfl⟩

theorem mirrors_endFlags {seen seen' : WrittenFlags}
    (alike : seen'.map Prod.fst = seen.map Prod.fst) (t : Text) :
    Mirrors (fun r r' => r'.1.map Prod.fst = r.1.map Prod.fst ∧ r'.2 = r.2 ++ [')'])
      (fun r => r.2 = [')']) (endFlags seen t) (endFlags seen' (t ++ [')'])) := by
  have reversed : seen'.reverse.map Prod.fst = seen.reverse.map Prod.fst := by
    rw [List.map_reverse, List.map_reverse, alike]
  rcases seen with _ | ⟨⟨_ | flag, span⟩, seen⟩
  · rw [List.map_eq_nil_iff.mp alike]
    exact .ok ⟨rfl, rfl⟩
  all_goals
    obtain ⟨⟨first, span'⟩, others, rfl, same, -⟩ := List.map_eq_cons_iff.mp alike
    cases same
  · exact .refused
  · exact .ok ⟨reversed, rfl⟩

/-- The rest of `readFlags` from a flag, or a dash, that may stand once. -/
def readFlag (offset : Nat) (seen : WrittenFlags) (flag : Option Flag) (fault : Fault) (t : Text) :
    Except Error (WrittenFlags × Text) :=
  match seen.find? (·.1 = flag) with
  | some (_, earlier) => refuseTwice fault ⟨offset, offset + 1⟩ earlier
  | none => readFlags (offset + 1) ((flag, ⟨offset, offset + 1⟩) :: seen) t

theorem readFlags_cons (offset : Nat) (seen : WrittenFlags) (c : Char) (t : Text) :
    readFlags offset seen (c :: t) =
      if c = ':' ∨ c = ')' then endFlags seen (c :: t)
      else if c = '-' then readFlag offset seen none .negationTwice t
      else match flag? c with
        | none => refuse .flagUnknown ⟨offset, offset + 1⟩
        | some flag => readFlag offset seen (some flag) .flagTwice t := rfl

/-- The pattern may end among the flags: then the parenthesis ends them. -/
theorem mirrors_readFlags (offset offset' : Nat) {seen seen' : WrittenFlags}
    (alike : seen'.map Prod.fst = seen.map Prod.fst) (t : Text) :
    Mirrors (fun r r' => r'.1.map Prod.fst = r.1.map Prod.fst ∧ r'.2 = r.2 ++ [')'])
      (fun r => r.2 = [')']) (readFlags offset seen t) (readFlags offset' seen' (t ++ [')'])) := by
  induction t generalizing offset offset' seen seen' with
  | nil =>
    refine .of_error fun r read => ?_
    have ended : endFlags seen' [')'] = .ok r := read
    exact (eq_of_endFlags ended).2
  | cons c t ih =>
    have further (flag : Option Flag) (fault : Fault) :
        Mirrors (fun r r' => r'.1.map Prod.fst = r.1.map Prod.fst ∧ r'.2 = r.2 ++ [')'])
          (fun r => r.2 = [')']) (readFlag offset seen flag fault t)
          (readFlag offset' seen' flag fault (t ++ [')'])) := by
      unfold readFlag
      rcases find?_of_map_fst alike flag with ⟨p, p', earlier, earlier'⟩ | ⟨unseen, unseen'⟩
      · rw [earlier, earlier']
        exact .refused
      · rw [unseen, unseen']
        exact ih _ _ (congrArg (flag :: ·) alike)
    rw [List.cons_append, readFlags_cons, readFlags_cons]
    split
    · exact mirrors_endFlags alike (c :: t)
    · split
      · exact further none _
      · split
        · exact .refused
        · exact further (some _) _

/-- Flags are read up to the colon or the parenthesis after them. -/
theorem exists_flags {offset : Nat} {seen items : WrittenFlags} {t rest : Text}
    (read : readFlags offset seen t = .ok (items, rest)) :
    ∃ flags, t = flags ++ rest ∧ rest ≠ [] := by
  induction t generalizing offset seen with
  | nil => cases read
  | cons c t ih =>
    have further (flag : Option Flag) (fault : Fault)
        (read : readFlag offset seen flag fault t = .ok (items, rest)) :
        ∃ flags, c :: t = flags ++ rest ∧ rest ≠ [] := by
      unfold readFlag at read
      split at read
      · cases read
      · obtain ⟨flags, rfl, more⟩ := ih read
        exact ⟨c :: flags, rfl, more⟩
    rw [readFlags_cons] at read
    split at read
    · obtain ⟨-, rfl⟩ := eq_of_endFlags read
      exact ⟨[], rfl, List.cons_ne_nil c t⟩
    · split at read
      · exact further none _ read
      · split at read
        · cases read
        · exact further (some _) _ read

/-! ### Names -/

def SameNames (names names' : GroupNames) : Prop := names'.map Prod.fst = names.map Prod.fst

/-- A name may not hold the parenthesis, so the pattern may not end inside one. -/
theorem mirrors_readName {names names' : GroupNames} (alike : SameNames names names')
    (place : Enclosed n s s') :
    Mirrors (Alongside SameNames n) (fun _ => False) (readName names s)
      (readName names' s') := by
  unfold readName
  dsimp only
  rcases place.word (fun c => c ≠ '>') rfl with ⟨name, stop, same⟩ | ⟨ended, ended'⟩
  · rw [name, same]
    split
    · exact .refused
    · split
      · exact .refused
      · rename_i going
        obtain ⟨c, here⟩ := Option.ne_none_iff_exists'.mp going
        split
        · exact .refused
        · rcases find?_of_map_fst alike (s.rest.takeWhile fun c => c ≠ '>') with
            ⟨p, p', earlier, earlier'⟩ | ⟨unseen, unseen'⟩
          · rw [earlier, earlier']
            exact .refused
          · rw [unseen, unseen']
            exact .ok ⟨congrArg (_ :: ·) alike, (stop.next here).mono (Nat.sub_le n 1)⟩
  · rw [Source.char?_of_nil ended, Source.char?_of_nil ended']
    simp only [if_true]
    split <;> split <;> exact .refused

/-! ### Openings -/

def Opening.bare : Opening → Opening
  | .switch _ switches => .switch .zero switches
  | .group _ switches => .group .zero switches

def SameOpened (n : Nat) (r r' : Opening × GroupNames × Source) : Prop :=
  r'.1.bare = r.1.bare ∧ Alongside SameNames n r.2 r'.2

theorem isSome_findSome?_take? (place : Enclosed n s s') (words : List String)
    (free : ∀ word ∈ words, ')' ∉ word.toList ∧ word.toList ≠ []) :
    (words.findSome? s'.take?).isSome = (words.findSome? s.take?).isSome := by
  induction words with
  | nil => rfl
  | cons word words ih =>
    obtain ⟨here, others⟩ := List.forall_mem_cons.mp free
    have rel := place.take? word here.1 here.2
    rw [List.findSome?_cons, List.findSome?_cons]
    generalize s.take? word = after at rel ⊢
    generalize s'.take? word = after' at rel ⊢
    cases rel with
    | none => exact ih others
    | some => rfl

/-- The rest of `readOpening` from the flags. -/
def readFlagged (parenthesis : Span) (names : GroupNames) (inner flags : Source) :
    Except Error (Opening × GroupNames × Source) := do
  let (items, rest) ← readFlags flags.offset [] flags.rest
  let last := flags.drop (flags.rest.length - rest.length)
  let after := last.next
  if last.char? = some ')' then
    if items.isEmpty then refuse .nothingToRepeat inner.here
    else return (.switch (after.since parenthesis.start) items.switches, names, after)
  else return (.group parenthesis items.switches, names, after)

theorem switches_congr {items items' : WrittenFlags}
    (alike : items'.map Prod.fst = items.map Prod.fst) : items'.switches = items.switches := by
  have of_flags (xs : WrittenFlags) : xs.switches =
      ((xs.map Prod.fst).takeWhile (·.isSome)).filterMap (·.map (·, true)) ++
        ((xs.map Prod.fst).dropWhile (·.isSome)).filterMap (·.map (·, false)) := by
    rw [List.takeWhile_map, List.dropWhile_map, List.filterMap_map, List.filterMap_map]
    rfl
  rw [of_flags, of_flags, alike]

theorem mirrors_readFlagged (parenthesis parenthesis' : Span) {names names' : GroupNames}
    (alike : SameNames names names') (inner inner' : Source) (place : Enclosed n s s')
    (longer : s'.rest = s.rest ++ [')']) :
    Mirrors (SameOpened n) (fun r => r.2.2.rest = []) (readFlagged parenthesis names inner s)
      (readFlagged parenthesis' names' inner' s') := by
  have length : s'.rest.length = s.rest.length + 1 := by rw [longer, List.length_append]; rfl
  have seen : ([] : WrittenFlags).map Prod.fst = ([] : WrittenFlags).map Prod.fst := rfl
  have answers := (mirrors_readFlags s.offset s'.offset seen s.rest).strengthen fun _ read =>
    exists_flags read
  rw [← longer] at answers
  refine answers.bind ?_ ?_
  · rintro ⟨items, rest⟩ ⟨items', rest'⟩ ⟨⟨same, rfl⟩, flags, cut, more⟩
    dsimp only at same cut more ⊢
    obtain ⟨c, t, rfl⟩ := List.exists_cons_of_ne_nil more
    have count : s.rest.length - (c :: t).length = flags.length := by
      rw [cut, List.length_append, Nat.add_sub_cancel]
    have count' : s'.rest.length - (c :: t ++ [')']).length = flags.length := by
      rw [length, List.length_append]
      exact (Nat.add_sub_add_right ..).trans count
    have stop : Enclosed n (s.drop flags.length) (s'.drop flags.length) := by
      refine (place.drop ?_).mono (Nat.sub_le n _)
      rw [cut, List.length_append]
      exact Nat.le_add_right _ _
    have here : (s.drop flags.length).char? = some c := by
      refine Source.char?_of_rest (t := t) ?_
      rw [Source.rest_drop, cut, List.drop_left]
    have lengths := congrArg List.length same
    rw [List.length_map, List.length_map] at lengths
    have after := (stop.next here).mono (Nat.sub_le n 1)
    rw [count, count', here, stop.char? here, isEmpty_congr lengths, switches_congr same]
    split
    · split
      · exact .refused
      · exact .ok ⟨rfl, alike, after⟩
    · exact .ok ⟨rfl, alike, after⟩
  · rintro ⟨items, rest⟩ (rfl : rest = [')']) r read
    have last : (s'.drop (s'.rest.length - 1)).rest = [')'] := by
      rw [length, Nat.add_sub_cancel, Source.rest_drop, longer, List.drop_left]
    have after := Source.rest_next_of_closing last
    dsimp only at read
    split at read
    · split at read
      · cases read
      · cases read
        exact after
    · cases read
      exact after

theorem mirrors_readOpening {names names' : GroupNames} (alike : SameNames names names')
    (place : Enclosed n s s') (here : s.char? = some '(') :
    Mirrors (SameOpened (n - 1)) (fun r => r.2.2.rest = []) (readOpening names s)
      (readOpening names' s') := by
  have inner := place.step here
  have look := isSome_findSome?_take? inner lookArounds (by decide)
  have named := rel_or (inner.take? "?P<" (by decide) (by decide))
    (inner.take? "?<" (by decide) (by decide))
  have flagged := inner.take? "?" (by decide) (by decide)
  unfold readOpening
  dsimp only
  generalize lookArounds.findSome? s.step.take? = around at look ⊢
  generalize lookArounds.findSome? s'.step.take? = around' at look ⊢
  generalize Option.or _ _ = name at named ⊢
  generalize Option.or _ _ = name' at named ⊢
  generalize s.step.take? "?" = flags at flagged ⊢
  generalize s'.step.take? "?" = flags' at flagged ⊢
  rcases around with _ | after
  · obtain rfl := Option.isNone_iff_eq_none.mp (Option.isSome_eq_false_iff.mp look)
    cases named with
    | @some name name' inside =>
      refine (mirrors_readName alike inside).bind ?_ nofun
      rintro ⟨names, t⟩ ⟨names', t'⟩ ⟨same, after⟩
      exact .ok ⟨rfl, same, after.mono (by omega)⟩
    | none =>
      cases flagged with
      | @some flags flags' inside =>
        dsimp only
        rcases inside.rest with longer | ⟨ended, hidden⟩
        · have answers : Mirrors (SameOpened (n - 1)) _ _ _ :=
            (mirrors_readFlagged s.charSpan s'.charSpan alike s.step s'.step inside longer).mono
              (fun r r' same => ⟨same.1, same.2.1, same.2.2.mono (Nat.sub_le _ 1)⟩) fun _ => id
          have more : flags'.rest ≠ [] := by
            rw [longer]
            exact List.append_ne_nil_of_right_ne_nil _ (List.cons_ne_nil _ _)
          rw [if_neg more]
          split
          · rename_i ended
            rw [readFlagged, ended] at answers
            exact answers.failed
          · exact answers
        · rw [ended, hidden]
          exact .refused
      | none => exact .ok ⟨rfl, alike, inner⟩
  · obtain ⟨after', rfl⟩ := Option.isSome_iff_exists.mp look
    exact .refused

end Storygraph.Pattern
