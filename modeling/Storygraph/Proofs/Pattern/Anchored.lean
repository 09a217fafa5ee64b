import Storygraph.Pattern.Compile
import Storygraph.Proofs.Pattern.Parts

/-!
# Anchored patterns

The pattern that is compiled for the start of a line is `^(?:`, the pattern itself and `)`. Unless
the pattern is refused for a parenthesis that closes no group of it, this means the pattern at the
start of the line (`compile_of_anchored`), and it is refused only if the pattern is, or if the
pattern ends in a comment or is nested as deeply as patterns may be (`compile_anchored`). Whether it
ends in a comment is seen by reading the pattern with a parenthesis after it as well, so that three
texts are read side by side (`Aligned`).
-/

namespace Storygraph.Pattern

variable {n : Nat} {s : Source} {base : Frame}

/-! ### All parts -/

theorem readParts_of_none (fuel : Nat) (p : Progress) (ended : s.skip.char? = none) :
    readParts (fuel + 1) p s = .ok (p, s.skip) := by
  rw [readParts]
  simp only [ended]
  rfl

theorem readParts_of_nil (fuel : Nat) (p : Progress) (ended : s.rest = []) :
    readParts (fuel + 1) p s = .ok (p, s) := by
  have beyond := Source.skip_of_nil ended
  rw [readParts_of_none fuel p (by rw [beyond]; exact Source.char?_of_nil ended), beyond]

theorem readParts_of_some (fuel : Nat) (p : Progress) {c : Char} (here : s.skip.char? = some c) :
    readParts (fuel + 1) p s =
      (readPart p s.skip c >>= fun r => readParts fuel r.1 r.2) := by
  rw [readParts]
  simp only [here]

theorem ne_nil_of_suffix {fs : List Frame} (part : [base] <:+ fs) : fs ≠ [] :=
  List.ne_nil_of_mem (part.subset (List.mem_singleton.mpr rfl))

/-- A part that the pattern ends inside leaves the group around the pattern open. -/
theorem frames_of_strayPart {r q : Progress × Source} (stray : StrayPart [base] r) (fuel : Nat)
    (read : readParts fuel r.1 r.2 = .ok q) : q.1.frames ≠ [] := by
  obtain ⟨opened, left⟩ := stray
  cases fuel with
  | zero =>
    cases read
    exact ne_nil_of_suffix opened
  | succ fuel =>
    rcases left with ended | ⟨brace, rest⟩
    · rw [readParts_of_nil fuel r.1 ended] at read
      cases read
      exact ne_nil_of_suffix opened
    · have here := Source.skip_of_char? brace rfl (by decide)
      rw [← here] at brace
      rw [readParts_of_some fuel r.1 brace, here] at read
      obtain ⟨q', part, -⟩ := bind_ok read
      obtain ⟨level, counted, -⟩ := bind_ok part
      exact absurd counted (readCountedRepetition_closing _ rest level)

/-! ### Three texts -/

/-- The same place of the pattern in three texts: in the pattern alone, in the group `base` of an
anchored one, and with a parenthesis after it that has no group to close. -/
structure Aligned (base : Frame) (n : Nat) (x x' x'' : Progress × Source) : Prop where
  inside : Alongside (Within [base]) n x x'
  closed : Alongside (Within []) n x x''
  rest : x''.2.rest = x'.2.rest

namespace Aligned

variable {x x' x'' : Progress × Source}

theorem verbose (aligned : Aligned base n x x' x'') : x''.2.verbose = x'.2.verbose :=
  aligned.closed.2.verbose.trans aligned.inside.2.verbose.symm

theorem skip (aligned : Aligned base n x x' x'') :
    Aligned base n (x.1, x.2.skip) (x'.1, x'.2.skip) (x''.1, x''.2.skip) where
  inside := aligned.inside.imp_right (·.skip)
  closed := aligned.closed.imp_right (·.skip)
  rest := Source.rest_skip_congr aligned.verbose aligned.rest

theorem frames_ne_nil (aligned : Aligned base n x x' x'') : x'.1.frames ≠ [] :=
  ne_nil_of_suffix aligned.inside.1.around_suffix

theorem frames_eq_nil_iff (aligned : Aligned base n x x' x'') :
    x''.1.frames = [] ↔ x.1.frames = [] := by
  obtain ⟨inner, frames, groups⟩ := aligned.closed.1.frames
  rw [List.append_nil] at frames
  rw [← List.length_eq_zero_iff, frames, ← groups.length_eq, List.length_eq_zero_iff]

/-- What the pattern alone accepts is read in all three texts. -/
theorem exists_readPart (aligned : Aligned base n x x' x'') {c : Char} (here : x.2.char? = some c)
    (opened : c = ')' → x.1.frames ≠ []) {r : Progress × Source}
    (read : readPart x.1 x.2 c = .ok r) :
    ∃ r' r'', readPart x'.1 x'.2 c = .ok r' ∧ readPart x''.1 x''.2 c = .ok r'' ∧
      Aligned base (n - 1) r r' r'' := by
  obtain ⟨r', read', same'⟩ :=
    (mirrors_readPart aligned.inside.1 aligned.inside.2 here opened).exists_ok_right read
  obtain ⟨r'', read'', same''⟩ :=
    (mirrors_readPart aligned.closed.1 aligned.closed.2 here opened).exists_ok_right read
  refine ⟨r', r'', read', read'', same', same'', ?_⟩
  -- With one more parenthesis, both longer texts go on as a fourth one does, which therefore
  -- determines what is left of each.
  let further : Source := { x'.2 with rest := x'.2.rest ++ [')'] }
  have place' : Enclosed x'.2.rest.length x'.2 further := ⟨rfl, .inl rfl, Nat.le_refl _⟩
  have place'' : Enclosed x'.2.rest.length x''.2 further :=
    ⟨aligned.verbose.symm, .inl (by rw [aligned.rest]), by rw [aligned.rest]⟩
  have inside := mirrors_readPart (.refl x'.1) place' (aligned.inside.2.char? here) fun _ =>
    aligned.frames_ne_nil
  have closed := mirrors_readPart (aligned.inside.1.across aligned.closed.1) place''
    (aligned.closed.2.char? here) fun closes => mt aligned.frames_eq_nil_iff.mp (opened closes)
  obtain ⟨u, answer', left'⟩ := inside.exists_ok_right read'
  obtain ⟨v, answer'', left''⟩ := closed.exists_ok_right read''
  obtain rfl := Except.ok.inj (answer'.symm.trans answer'')
  exact left'.2.rest_eq left''.2

end Aligned

/-- What is read to the end of the pattern and to the end of the anchored one, and whether the
pattern is accepted with a parenthesis after it. If all groups of the pattern are closed, the
parenthesis closes the group `base` around it, or is lost in a comment. -/
inductive Finished (base : Frame) (closed : Except Error (Progress × Source))
    (r r' : Progress × Source) : Prop
  | opened (frames : r.1.frames ≠ []) (frames' : r'.1.frames ≠ [])
  | hidden {r'' : Progress × Source} (frames : r.1.frames = []) (frames' : r'.1.frames ≠ [])
      (read : closed = .ok r'') (frames'' : r''.1.frames = [])
      (level : SameParts r.1.level r''.1.level)
  | closed {error : Error} {span : Span} {body : Expr} (frames : r.1.frames = [])
      (frames' : r'.1.frames = []) (refused : closed = .error error)
      (level : r'.1.level = base.outer.push (.group span base.switches body))
      (same : SameExpr (r.1.level.close r.2.offset) body)

theorem finished_of_ended {x x' x'' : Progress × Source} (aligned : Aligned base n x x' x'')
    (ended : x.2.skip.char? = none) (fuel fuel' : Nat) :
    ∃ r', readParts (fuel + 2) x'.1 x'.2 = .ok r' ∧
      Finished base (readParts (fuel' + 1) x''.1 x''.2) (x.1, x.2.skip) r' := by
  have stop := aligned.skip
  obtain ⟨inner, frames', groups⟩ := aligned.inside.1.frames
  rcases stop.inside.2.ended ended with rest | rest
  · have after := Source.rest_next_of_closing rest
    rw [readParts_of_some (fuel + 1) x'.1 (Source.char?_of_rest rest),
      readParts_of_some fuel' x''.1 (Source.char?_of_rest (stop.rest.trans rest))]
    change ∃ r', (closeGroup x'.1 x'.2.skip >>= fun r => readParts (fuel + 1) r.1 r.2) = .ok r' ∧
      Finished base (closeGroup x''.1 x''.2.skip >>= fun r => readParts fuel' r.1 r.2) _ r'
    cases frames : x.1.frames with
    | nil =>
      rw [frames] at groups
      cases groups
      rw [closeGroup, frames', closeGroup, aligned.frames_eq_nil_iff.mpr frames]
      exact ⟨_, readParts_of_nil fuel _ after,
        .closed frames rfl rfl rfl (aligned.inside.1.level.close _ _)⟩
    | cons frame outer =>
      rw [frames] at groups
      cases groups with
      | @cons _ frame' _ inner group groups =>
        rw [closeGroup, frames', List.cons_append]
        refine ⟨_, readParts_of_nil fuel _ after, .opened ?_ ?_⟩
        · rw [frames]
          exact List.cons_ne_nil frame outer
        · exact List.append_ne_nil_of_right_ne_nil inner (List.cons_ne_nil base [])
  · rw [readParts_of_none (fuel + 1) x'.1 (Source.char?_of_nil rest),
      readParts_of_none fuel' x''.1 (Source.char?_of_nil (stop.rest.trans rest))]
    refine ⟨_, rfl, ?_⟩
    by_cases frames : x.1.frames = []
    · exact .hidden frames aligned.frames_ne_nil rfl (aligned.frames_eq_nil_iff.mpr frames)
        aligned.closed.1.level
    · exact .opened frames aligned.frames_ne_nil

theorem mirrors_readParts {fuel fuel' fuel'' : Nat} {x x' x'' : Progress × Source}
    (aligned : Aligned base n x x' x'') (room : n < fuel) (room' : n + 1 < fuel')
    (room'' : n < fuel'') :
    (∃ e, readParts fuel x.1 x.2 = .error e ∧ e.fault = .groupUnopened) ∨
      Mirrors (Finished base (readParts fuel'' x''.1 x''.2)) (fun r => r.1.frames ≠ [])
        (readParts fuel x.1 x.2) (readParts fuel' x'.1 x'.2) := by
  induction fuel generalizing n fuel' fuel'' x x' x'' with
  | zero => cases room
  | succ fuel ih =>
    obtain ⟨fuel'', rfl⟩ : ∃ k, fuel'' = k + 1 := ⟨fuel'' - 1, by omega⟩
    cases here : x.2.skip.char? with
    | none =>
      obtain ⟨fuel', rfl⟩ : ∃ k, fuel' = k + 2 := ⟨fuel' - 2, by omega⟩
      obtain ⟨r', read, finished⟩ := finished_of_ended aligned here fuel' fuel''
      rw [readParts_of_none fuel x.1 here, read]
      exact .inr (.ok finished)
    | some c =>
      have stop := aligned.skip
      have pos := stop.inside.2.pos here
      obtain ⟨fuel', rfl⟩ : ∃ k, fuel' = k + 1 := ⟨fuel' - 1, by omega⟩
      rw [readParts_of_some fuel x.1 here,
        readParts_of_some fuel' x'.1 (stop.inside.2.char? here),
        readParts_of_some fuel'' x''.1 (stop.closed.2.char? here)]
      by_cases unopened : c = ')' ∧ x.1.frames = []
      · left
        obtain ⟨rfl, frames⟩ := unopened
        have refused : readPart x.1 x.2.skip ')' = refuse .groupUnopened x.2.skip.charSpan := by
          change closeGroup x.1 x.2.skip = _
          rw [closeGroup, frames]
        rw [refused]
        exact ⟨_, rfl, rfl⟩
      · have opened (closes : c = ')') : x.1.frames ≠ [] := fun frames => unopened ⟨closes, frames⟩
        cases read : readPart x.1 x.2.skip c with
        | ok r =>
          obtain ⟨r', r'', read', read'', aligned⟩ := stop.exists_readPart here opened read
          dsimp only at read' read''
          rw [read', read'']
          exact ih aligned (by omega) (by omega) (by omega)
        | error e =>
          have answers := mirrors_readPart stop.inside.1 stop.inside.2 here opened
          dsimp only at answers
          rw [read] at answers
          generalize readPart x'.1 x'.2.skip c = y at answers ⊢
          cases answers with
          | refused => exact .inr .refused
          | lost stray => exact .inr (.of_error fun q read => frames_of_strayPart stray fuel' read)

/-! ### Trees -/

def finish (r : Progress × Source) : Except Error Expr :=
  match r.1.frames with
  | frame :: _ => refuse .groupUnclosed frame.parenthesis
  | [] => .ok (r.1.level.close r.2.offset)

theorem finish_of_ne_nil {r : Progress × Source} (opened : r.1.frames ≠ []) :
    ∃ e, finish r = .error e := by
  obtain ⟨frame, frames, shape⟩ := List.exists_cons_of_ne_nil opened
  rw [finish, shape]
  exact ⟨_, rfl⟩

theorem finish_of_nil {r : Progress × Source} (closed : r.1.frames = []) :
    finish r = .ok (r.1.level.close r.2.offset) := by
  rw [finish, closed]

/-- The tree of a pattern, of any depth. -/
def readTree (pattern : Text) : Except Error Expr :=
  readParts (pattern.length + 1) ⟨.empty 0, [], []⟩ ⟨0, pattern, false⟩ >>= finish

theorem parse_eq (pattern : Text) : parse pattern = (readTree pattern >>= fun e =>
    match e.tooDeep? maxDepth with
    | some span => refuse (.tooDeep maxDepth) span
    | none => .ok e) := by
  unfold parse readTree
  dsimp only
  cases readParts (pattern.length + 1) ⟨.empty 0, [], []⟩ ⟨0, pattern, false⟩ with
  | error => rfl
  | ok r =>
    obtain ⟨⟨level, _ | ⟨frame, frames⟩, names⟩, s⟩ := r
    · rfl
    · rfl

theorem parse_eq_ok_iff {pattern : Text} {e : Expr} :
    parse pattern = .ok e ↔ readTree pattern = .ok e ∧ e.tooDeep? maxDepth = none := by
  constructor
  · intro read
    rw [parse_eq] at read
    obtain ⟨e', tree, read⟩ := bind_ok read
    split at read
    · cases read
    · rename_i fits
      cases read
      exact ⟨tree, fits⟩
  · rintro ⟨tree, fits⟩
    rw [parse_eq, tree]
    change (match e.tooDeep? maxDepth with | some span => _ | none => _) = _
    rw [fits]

def outermost : Frame := ⟨⟨1, 2⟩, [], ⟨0, [], 0, [.anchor ⟨0, 1⟩ .lineStart]⟩, false⟩

theorem readOpening_anchored (names : GroupNames) (t : Text) :
    readOpening names ⟨1, '(' :: '?' :: ':' :: t, false⟩ =
      .ok (.group ⟨1, 2⟩ [], names, ⟨4, t, false⟩) := by
  have flags : readFlags 3 [] (':' :: t) = .ok ([], ':' :: t) := rfl
  change readFlagged ⟨1, 2⟩ names ⟨2, '?' :: ':' :: t, false⟩ ⟨3, ':' :: t, false⟩ = _
  unfold readFlagged
  simp only [flags]
  change (if (Source.drop ((':' :: t).length - (':' :: t).length) _).char? = _ then _ else _) = _
  rw [Nat.sub_self]
  rfl

theorem readParts_anchored (fuel : Nat) (pattern : Text) :
    readParts (fuel + 2) ⟨.empty 0, [], []⟩ ⟨0, anchored pattern, false⟩ =
      readParts fuel ⟨.empty 4, [outermost], []⟩ ⟨4, pattern ++ [')'], false⟩ := by
  have shape : anchored pattern = '^' :: '(' :: '?' :: ':' :: (pattern ++ [')']) := rfl
  rw [shape, readParts_of_some (fuel + 1) _ (c := '^') rfl]
  change readParts (fuel + 1) ⟨outermost.outer, [], []⟩
    ⟨1, '(' :: '?' :: ':' :: (pattern ++ [')']), false⟩ = _
  rw [readParts_of_some fuel _ (c := '(') rfl]
  change (readOpening [] ⟨1, '(' :: '?' :: ':' :: (pattern ++ [')']), false⟩ >>= _) >>= _ = _
  rw [readOpening_anchored]
  rfl

theorem readTree_anchored (pattern : Text) : readTree (anchored pattern) =
    (readParts (pattern.length + 4) ⟨.empty 4, [outermost], []⟩ ⟨4, pattern ++ [')'], false⟩ >>=
      finish) := by
  have length : (anchored pattern).length + 1 = pattern.length + 4 + 2 := by
    change ("^(?:".toList ++ pattern ++ [')']).length + 1 = _
    rw [List.length_append, List.length_append]
    change 4 + pattern.length + 1 + 1 = _
    omega
  rw [readTree, length, readParts_anchored]

/-- Where the pattern begins, it is still the same in all three texts. -/
theorem aligned_start (pattern : Text) :
    Aligned outermost pattern.length (⟨.empty 0, [], []⟩, ⟨0, pattern, false⟩)
      (⟨.empty 4, [outermost], []⟩, ⟨4, pattern ++ [')'], false⟩)
      (⟨.empty 0, [], []⟩, ⟨0, pattern ++ [')'], false⟩) := by
  have place (m : Nat) : Enclosed pattern.length ⟨0, pattern, false⟩ ⟨m, pattern ++ [')'], false⟩ :=
    ⟨rfl, .inl rfl, Nat.le_refl _⟩
  have within : Within [outermost] ⟨.empty 0, [], []⟩ ⟨.empty 4, [outermost], []⟩ :=
    ⟨⟨rfl, rfl⟩, ⟨[], rfl, .nil⟩, rfl⟩
  exact ⟨⟨within, place 4⟩, ⟨.refl _, place 0⟩, rfl⟩

def lineStartTree (e : Expr) : Expr :=
  .concat .zero [.anchor .zero .lineStart, .group .zero [] e]

/-- How the pattern alone, the pattern with a parenthesis after it and the anchored pattern are
read. -/
inductive Readings (pattern : Text) : Prop
  | unopened {error : Error} (alone : readTree pattern = .error error)
      (fault : error.fault = .groupUnopened)
  | refused {error error' : Error} (alone : readTree pattern = .error error)
      (behind : readTree (anchored pattern) = .error error')
  | hidden {e e'' : Expr} {error : Error} (alone : readTree pattern = .ok e)
      (closed : readTree (pattern ++ [')']) = .ok e'') (same : SameExpr e e'')
      (behind : readTree (anchored pattern) = .error error)
  | anchored {e e' : Expr} {error : Error} (alone : readTree pattern = .ok e)
      (closed : readTree (pattern ++ [')']) = .error error)
      (behind : readTree (anchored pattern) = .ok e') (same : e'.bare = (lineStartTree e).bare)

/-- Unless it is refused for a parenthesis that closes no group, a pattern is read in an anchored
one as it is alone, or ends in a comment with the parenthesis after it. -/
theorem readings (pattern : Text) : Readings pattern := by
  have length : (pattern ++ [')']).length = pattern.length + 1 := List.length_append
  have answers := mirrors_readParts (aligned_start pattern) (Nat.lt_add_one _)
    (show pattern.length + 1 < pattern.length + 4 by omega)
    (show pattern.length < (pattern ++ [')']).length + 1 by omega)
  have behind := readTree_anchored pattern
  rcases answers with ⟨e, failed, fault⟩ | answers
  · have tree : readTree pattern = .error e := by
      rw [readTree, failed]
      rfl
    exact .unopened tree fault
  · generalize alone : readParts (pattern.length + 1) _ _ = x at answers
    generalize readParts (pattern.length + 4) _ _ = y at answers behind
    have tree : readTree pattern = (x >>= finish) := by rw [readTree, alone]
    cases answers with
    | refused => exact .refused tree behind
    | @lost e r' opened =>
      obtain ⟨e', open_group⟩ := finish_of_ne_nil opened
      exact .refused tree (behind.trans open_group)
    | @ok r r' finished =>
      cases finished with
      | opened frames frames' =>
        obtain ⟨e, open_group⟩ := finish_of_ne_nil frames
        obtain ⟨e', open_group'⟩ := finish_of_ne_nil frames'
        exact .refused (tree.trans open_group) (behind.trans open_group')
      | @hidden r'' frames frames' read frames'' level =>
        obtain ⟨e', open_group'⟩ := finish_of_ne_nil frames'
        have closed : readTree (pattern ++ [')']) = .ok (r''.1.level.close r''.2.offset) := by
          rw [readTree, read]
          exact finish_of_nil frames''
        exact .hidden (tree.trans (finish_of_nil frames)) closed (level.close _ _)
          (behind.trans open_group')
      | @closed error span body frames frames' refused level same =>
        have closed : readTree (pattern ++ [')']) = .error error := by
          rw [readTree, refused]
          rfl
        have shape := behind.trans (finish_of_nil frames')
        rw [level] at shape
        refine .anchored (tree.trans (finish_of_nil frames)) closed shape ?_
        change Expr.concat .zero [.anchor .zero .lineStart, .group .zero [] body.bare] = _
        rw [same]
        rfl

/-- A tree fits in an anchored pattern if it leaves room for the pattern's two levels more. -/
theorem tooDeep?_lineStartTree (e : Expr) :
    ((lineStartTree e).tooDeep? maxDepth).isNone = (e.tooDeep? (maxDepth - 2)).isNone := by
  change ((e.tooDeep? 248).or none).isNone = (e.tooDeep? 248).isNone
  rw [Option.or_none]

theorem tooDeep?_of_shallow {e : Expr} (fits : e.tooDeep? (maxDepth - 2) = none) :
    e.tooDeep? maxDepth = none :=
  Expr.tooDeep?_succ e (Expr.tooDeep?_succ e fits)

theorem tooDeep?_of_bare {e e' : Expr} (same : e'.bare = (lineStartTree e).bare) :
    e'.tooDeep? maxDepth = none ↔ e.tooDeep? (maxDepth - 2) = none := by
  rw [← Option.isNone_iff_eq_none, ← Option.isNone_iff_eq_none, ← Expr.tooDeep?_bare, same,
    Expr.tooDeep?_bare, tooDeep?_lineStartTree]

/-- The pattern leaves room for the two levels of an anchored one. -/
def Shallow (pattern : Text) : Prop :=
  ∀ e, parse pattern = .ok e → e.tooDeep? (maxDepth - 2) = none

/-! ### Compiled patterns -/

theorem regex_lineStartTree (e : Expr) : (lineStartTree e).regex .initial =
    (e.regex .initial).map fun r => (.seq .lineStart r.1, .initial) := by
  have body : Expr.regex .initial (.group .zero [] e) =
      (e.regex .initial).map fun r => (r.1, .initial) := by
    rw [Expr.regex]
    change (e.regex .initial >>= _) = _
    cases e.regex .initial <;> rfl
  have parts : Expr.regexes .initial [.anchor .zero .lineStart, .group .zero [] e] =
      (e.regex .initial).map fun r => ([.lineStart, r.1], .initial) := by
    rw [Expr.regexes, Expr.regex]
    change (Expr.regexes .initial [.group .zero [] e] >>= _) = _
    rw [Expr.regexes, body]
    cases e.regex .initial <;> rfl
  rw [lineStartTree, Expr.regex, parts]
  cases e.regex .initial <;> rfl

theorem compile_eq_ok_iff {pattern : Text} {r : Regex} : compile pattern = .ok r ↔
    ∃ e, parse pattern = .ok e ∧ (e.regex .initial).toOption.map (·.1) = some r := by
  constructor
  · intro compiled
    obtain ⟨e, read, meaning⟩ := bind_ok compiled
    obtain ⟨⟨r', modes⟩, meaning, same⟩ := bind_ok meaning
    cases same
    exact ⟨e, read, by rw [meaning]; rfl⟩
  · rintro ⟨e, read, meaning⟩
    rw [compile, read]
    change (e.regex .initial >>= _) = _
    cases regex : e.regex .initial with
    | error =>
      rw [regex] at meaning
      cases meaning
    | ok r' =>
      rw [regex] at meaning
      exact congrArg Except.ok (Option.some.inj meaning)

theorem regex_of_bare {e e' : Expr} (same : e'.bare = (lineStartTree e).bare) :
    (e'.regex .initial).toOption.map (·.1) =
      ((e.regex .initial).toOption.map (·.1)).map (.seq .lineStart) := by
  rw [← Expr.regex_bare, same, Expr.regex_bare, regex_lineStartTree]
  cases e.regex .initial <;> rfl

theorem error_of_readTree {pattern : Text} {error : Error}
    (refused : readTree pattern = .error error) : compile pattern = .error error := by
  rw [compile, parse_eq, refused]
  rfl

def Valid (pattern : Text) : Prop := ∃ r, compile pattern = .ok r

theorem not_valid_of_readTree {pattern : Text} {error : Error}
    (refused : readTree pattern = .error error) : ¬Valid pattern := by
  rintro ⟨r, compiled⟩
  cases compiled.symm.trans (error_of_readTree refused)

/-- For a valid pattern: it ends in a comment, so that a parenthesis after it makes no difference.
Otherwise the parenthesis would close no group. -/
def EndsInComment (pattern : Text) : Prop := Valid (pattern ++ [')'])

example : (compile "(?x)wait # pause)".toList).toOption.isSome = true := by decide +kernel

/-- An anchored pattern that compiles means the pattern at the start of the line. -/
theorem compile_of_anchored {pattern : Text} {r' : Regex}
    (compiled : compile (anchored pattern) = .ok r') :
    (∃ r, compile pattern = .ok r ∧ Shallow pattern ∧ ¬EndsInComment pattern ∧
      r' = .seq .lineStart r) ∨
      ∃ error, compile pattern = .error error ∧ error.fault = .groupUnopened := by
  cases readings pattern with
  | unopened alone fault => exact .inr ⟨_, error_of_readTree alone, fault⟩
  | refused _ behind | hidden _ _ _ behind =>
    exact absurd ⟨r', compiled⟩ (not_valid_of_readTree behind)
  | @anchored e e' error alone closed behind same =>
    obtain ⟨tree, read, meaning⟩ := compile_eq_ok_iff.mp compiled
    obtain ⟨read, fits⟩ := parse_eq_ok_iff.mp read
    obtain rfl := Except.ok.inj (behind.symm.trans read)
    rw [regex_of_bare same, Option.map_eq_some_iff] at meaning
    obtain ⟨r, meaning, rfl⟩ := meaning
    have shallow := (tooDeep?_of_bare same).mp fits
    have parsed := parse_eq_ok_iff.mpr ⟨alone, tooDeep?_of_shallow shallow⟩
    refine .inl ⟨r, compile_eq_ok_iff.mpr ⟨e, parsed, meaning⟩, fun other parsed' => ?_,
      not_valid_of_readTree closed, rfl⟩
    obtain rfl := Except.ok.inj (parsed.symm.trans parsed')
    exact shallow

theorem compile_anchored {pattern : Text} {r : Regex} (compiled : compile pattern = .ok r)
    (shallow : Shallow pattern) (ends : ¬EndsInComment pattern) :
    compile (anchored pattern) = .ok (.seq .lineStart r) := by
  obtain ⟨tree, parsed, meaning⟩ := compile_eq_ok_iff.mp compiled
  obtain ⟨read, fits⟩ := parse_eq_ok_iff.mp parsed
  cases readings pattern with
  | unopened alone | refused alone =>
    exact absurd ⟨r, compiled⟩ (not_valid_of_readTree alone)
  | @hidden e e'' _ alone closed same =>
    obtain rfl := Except.ok.inj (alone.symm.trans read)
    have fits'' : e''.tooDeep? maxDepth = none := by
      rw [← Option.isNone_iff_eq_none] at fits ⊢
      rwa [← Expr.tooDeep?_bare, same, Expr.tooDeep?_bare]
    refine absurd ⟨r, compile_eq_ok_iff.mpr ⟨e'', parse_eq_ok_iff.mpr ⟨closed, fits''⟩, ?_⟩⟩ ends
    rw [← Expr.regex_bare, same, Expr.regex_bare]
    exact meaning
  | @anchored e e' _ alone _ behind same =>
    obtain rfl := Except.ok.inj (alone.symm.trans read)
    have fits' := (tooDeep?_of_bare same).mpr (shallow e parsed)
    refine compile_eq_ok_iff.mpr ⟨e', parse_eq_ok_iff.mpr ⟨behind, fits'⟩, ?_⟩
    rw [regex_of_bare same, meaning]
    rfl

end Storygraph.Pattern
