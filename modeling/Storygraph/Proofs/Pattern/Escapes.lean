import Storygraph.Proofs.Outcomes
import Storygraph.Proofs.Pattern.Enclosed
import Storygraph.Proofs.Pattern.Spans

/-!
# Escapes in an enclosed pattern

An escape is read in the longer text as it is in the pattern alone, up to spans. Where the pattern
ends inside it, it is refused in the longer text too, takes the closing parenthesis with it, or
leaves a brace that opens no repetition (`StrayEscape`).
-/

namespace Storygraph.Pattern

variable {n : Nat} {s s' : Source}

def SameExpr (e e' : Expr) : Prop := e'.bare = e.bare

def SameClass (e e' : ClassExpr) : Prop := e'.bare = e.bare

theorem mirrors_hexLiteral (span span' digits digits' : Span) (byte : Bool) (ds : Text) :
    Mirrors SameExpr (fun _ => False) (hexLiteral span digits byte ds)
      (hexLiteral span' digits' byte ds) := by
  unfold hexLiteral
  split
  · exact .ok rfl
  · exact .refused

theorem mirrors_readHexDigits (count : Nat) (place : Enclosed n s s') :
    Mirrors (Alongside (fun ds ds' => ds' = ds) n) (fun _ => False) (readHexDigits count s)
      (readHexDigits count s') := by
  induction count generalizing n s s' with
  | zero => exact .ok ⟨rfl, place⟩
  | succ count ih =>
    unfold readHexDigits
    cases here : s.char? with
    | none =>
      refine .of_error fun b read => ?_
      rcases place.ended here with rest | rest
      · rw [Source.char?_of_rest rest] at read
        cases read
      · rw [Source.char?_of_nil rest] at read
        cases read
    | some c =>
      rw [place.char? here]
      dsimp only
      split
      · refine (ih (place.step here)).bind ?_ nofun
        rintro ⟨ds, t⟩ ⟨_, t'⟩ ⟨rfl, after⟩
        exact .ok ⟨rfl, after.mono (Nat.sub_le n 1)⟩
      · exact .refused

theorem filterMap_char?_eq {ps ps' : List Source}
    (related : List.Forall₂ (SamePlace n) ps ps') :
    ps'.filterMap Source.char? = ps.filterMap Source.char? := by
  induction related with
  | nil => rfl
  | cons here _ ih => rw [List.filterMap_cons, List.filterMap_cons, here.2, ih]

theorem find?_char?_isSome {ps ps' : List Source} (f : Option Char → Bool)
    (related : List.Forall₂ (SamePlace n) ps ps') :
    (ps'.find? fun p => f p.char?).isSome = (ps.find? fun p => f p.char?).isSome := by
  induction related with
  | nil => rfl
  | cons here _ ih =>
    rw [List.find?_cons, List.find?_cons, here.2]
    split
    · rfl
    · exact ih

theorem mirrors_readHexBraces (start start' : Nat) (place : Enclosed n s s')
    (here : s.char? = some '{') :
    Mirrors (Alongside SameExpr (n - 1)) (fun _ => False) (readHexBraces start s)
      (readHexBraces start' s') := by
  unfold readHexBraces
  dsimp only
  rcases (place.next here).scan_through (fun o => o ≠ some '}') rfl s s' with
    ⟨taken, stop, same⟩ | ⟨ended, ended'⟩
  · have wrong := find?_char?_isSome (fun o => (o.bind hexValue?).isNone) taken
    rw [filterMap_char?_eq taken, same]
    split
    · rename_i p found
      rw [found] at wrong
      obtain ⟨p', found'⟩ := Option.isSome_iff_exists.mp wrong
      rw [found']
      exact .refused
    · rename_i found
      rw [found, Option.isSome_none, Option.isSome_eq_false_iff, Option.isNone_iff_eq_none] at wrong
      rw [wrong]
      dsimp only
      split
      · exact .refused
      · rename_i going
        obtain ⟨c, first⟩ := Option.ne_none_iff_exists'.mp going
        split
        · exact .refused
        · refine (mirrors_hexLiteral ..).bind (fun e e' alike => .ok ⟨alike, ?_⟩) nofun
          exact (stop.step first).mono (Nat.sub_le _ 1)
  · rw [ended, ended', if_pos rfl, if_pos rfl]
    split <;> split <;> exact .refused

theorem mirrors_readHex (start start' : Nat) (kind : Char) (place : Enclosed n s s')
    {c : Char} (here : s.char? = some c) :
    Mirrors (Alongside SameExpr (n - 1)) (fun _ => False) (readHex start kind s)
      (readHex start' kind s') := by
  have inner := place.step here
  unfold readHex
  dsimp only
  cases first : s.step.char? with
  | none =>
    refine .of_error fun b read => ?_
    rcases inner.ended first with rest | rest
    · simp only [Source.char?_of_rest rest] at read
      obtain ⟨r, digits, -⟩ := bind_ok read
      have refused (count : Nat) : readHexDigits (count + 1) s'.step ≠ .ok r := by
        rw [readHexDigits, Source.char?_of_rest rest]
        nofun
      split at digits
      · exact refused 1 digits
      · split at digits
        · exact refused 3 digits
        · exact refused 7 digits
    · simp only [Source.char?_of_nil rest] at read
      cases read
  | some d =>
    rw [inner.char? first]
    by_cases brace : d = '{'
    · subst brace
      exact (mirrors_readHexBraces start start' inner first).widen (Nat.sub_le _ 1)
    · simp only
      refine (mirrors_readHexDigits _ inner).bind ?_ nofun
      rintro ⟨ds, t⟩ ⟨_, t'⟩ ⟨rfl, after⟩
      exact (mirrors_hexLiteral ..).bind (fun e e' alike => .ok ⟨alike, after⟩) nofun

theorem mirrors_readProperty (start start' : Nat) (negated : Bool) (place : Enclosed n s s')
    {c : Char} (here : s.char? = some c) :
    Mirrors (Alongside SameExpr (n - 1)) (fun r => r.2.rest = [])
      (readProperty start negated s) (readProperty start' negated s') := by
  have inner := place.step here
  unfold readProperty
  dsimp only
  cases first : s.step.char? with
  | none =>
    refine .of_error fun b read => ?_
    rcases inner.ended first with rest | rest
    · simp only [Source.char?_of_rest rest] at read
      cases read
      exact Source.rest_step_of_closing rest
    · simp only [Source.char?_of_nil rest] at read
      cases read
  | some d =>
    rw [inner.char? first]
    by_cases brace : d = '{'
    · subst brace
      simp only
      rcases (inner.next first).scan_through (fun o => o ≠ some '}') rfl s.step s'.step with
        ⟨taken, stop, same⟩ | ⟨ended, ended'⟩
      · rw [filterMap_char?_eq taken, same]
        split
        · exact .refused
        · rename_i going
          obtain ⟨c, last⟩ := Option.ne_none_iff_exists'.mp going
          refine .ok ⟨rfl, (stop.next last).mono ?_⟩
          exact (Nat.sub_le _ 1).trans (Nat.sub_le _ 1)
      · rw [ended, ended', if_pos rfl, if_pos rfl]
        exact .refused
    · by_cases slash : d = '\\'
      · subst slash
        exact .refused
      · simp only
        exact .ok ⟨rfl, (inner.step first).mono (Nat.sub_le _ 1)⟩

/-- A brace that no name follows is given back to the repetition it opens. Where the pattern ends
after the brace, this happens in the longer text only. -/
theorem mirrors_readBoundary (start start' : Nat) (place : Enclosed n s s')
    (here : s.char? = some '{') :
    Mirrors (Option.Rel (Alongside Eq (n - 1))) (fun o => o = none ∧ s'.step.rest = [')'])
      (readBoundary start s) (readBoundary start' s') := by
  have inner := place.step here
  unfold readBoundary
  dsimp only
  cases first : s.step.char? with
  | none =>
    refine .of_error fun b read => ?_
    rcases inner.ended first with rest | rest
    · simp only [Source.char?_of_rest rest] at read
      cases read
      exact ⟨rfl, rest⟩
    · simp only [Source.char?_of_nil rest] at read
      cases read
  | some d =>
    simp only [inner.char? first]
    split
    · exact .ok .none
    · obtain ⟨taken, stop⟩ := inner.scan_until (fun o => o.any isBoundaryNameChar) rfl s s'
        s.verbose_step.symm s'.verbose_step.symm
      rw [filterMap_char?_eq taken]
      by_cases closed : (s.first (s.step.places.dropWhile
          fun p => p.char?.any isBoundaryNameChar)).char? = some '}'
      · rw [if_neg (not_not.mpr closed), if_neg (not_not.mpr (stop.char? closed))]
        split
        · exact .ok (.some ⟨rfl, (stop.next closed).mono (Nat.sub_le _ 1)⟩)
        · exact .refused
      · rw [if_pos closed, if_pos (mt (stop.char?_eq_some_iff (by decide)).mp closed)]
        exact .refused

/-- What is left of an escape that the pattern ends inside: nothing, or the brace after a word
boundary, which opens a repetition without a count. -/
def StrayEscape (r : Expr × Source) : Prop :=
  r.2.rest = [] ∨ (∃ span a, r.1 = .anchor span a) ∧ r.2.char? = some '{' ∧ r.2.step.rest = [')']

theorem mirrors_readEscape (place : Enclosed n s s') (here : s.char? = some '\\') :
    Mirrors (Alongside SameExpr (n - 1)) StrayEscape (readEscape s) (readEscape s') := by
  have inner := place.next here
  unfold readEscape
  dsimp only
  cases first : s.next.char? with
  | none =>
    refine .of_error fun b read => ?_
    rcases inner.ended first with rest | rest
    · rw [Source.char?_of_rest rest] at read
      cases read
      exact .inl (Source.rest_next_of_closing rest)
    · rw [Source.char?_of_nil rest] at read
      cases read
  | some c =>
    rw [inner.char? first]
    dsimp only
    have after := (inner.next first).mono (Nat.sub_le _ 1)
    split
    · exact .refused
    · split
      · have digits := mirrors_readHex s.offset s'.offset c inner first
        exact (digits.widen (Nat.sub_le _ 1)).mono (fun _ _ => id) nofun
      · split
        · exact ((mirrors_readProperty _ _ _ inner first).widen (Nat.sub_le _ 1)).mono
            (fun _ _ => id) fun _ => .inl
        · split
          · exact .ok ⟨rfl, after⟩
          · split
            · exact .ok ⟨rfl, after⟩
            · exact .ok ⟨rfl, after⟩
            · rename_i anchor _ _ _
              have behind := inner.next first
              by_cases boundary : c = 'b' ∧ s.next.next.char? = some '{'
              · have boundary' := And.intro boundary.1 (behind.char? boundary.2)
                rw [if_pos boundary, if_pos boundary']
                refine (mirrors_readBoundary _ _ behind boundary.2).bind ?_ ?_
                · rintro _ _ (@⟨⟨special, t⟩, ⟨_, t'⟩, rfl, stop⟩ | _)
                  · exact .ok ⟨rfl, stop.mono ((Nat.sub_le _ 1).trans (Nat.sub_le _ 1))⟩
                  · exact .ok ⟨rfl, after⟩
                · rintro _ ⟨rfl, rest⟩ d read
                  cases read
                  exact .inr ⟨⟨_, _, rfl⟩, boundary'.2, rest⟩
              · have boundary' : ¬(c = 'b' ∧ s'.next.next.char? = some '{') := fun both =>
                  boundary ⟨both.1, (behind.char?_eq_some_iff (by decide)).mp both.2⟩
                rw [if_neg boundary, if_neg boundary']
                exact .ok ⟨rfl, after⟩
            · exact .refused

end Storygraph.Pattern
