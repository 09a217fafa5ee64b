import Storygraph.Proofs.Pattern.Brackets
import Storygraph.Proofs.Pattern.Openings

/-!
# The parts of an enclosed pattern

The text around the pattern may have opened groups before it. Until the pattern ends, each part is
read alike in both: a repetition, an atom, a class, or the opening or closing of a group
(`mirrors_readPart`). A parenthesis that closes more groups than the pattern has opened is the
exception, as it closes a group around the pattern, or none.
-/

namespace Storygraph.Pattern

variable {n : Nat} {s s' : Source}

/-! ### Levels -/

def sequence : List Expr → Expr
  | [] => .empty .zero
  | [part] => part
  | parts => .concat .zero parts

theorem branch_bare (l : Level) (stop : Nat) :
    (l.branch stop).bare = sequence (l.parts.map Expr.bare).reverse := by
  rw [Level.branch, ← List.map_reverse]
  rcases l.parts.reverse with _ | ⟨first, _ | ⟨second, others⟩⟩
  · rfl
  · rfl
  · change (Expr.concat _ (first :: second :: others)).bare = _
    rw [Expr.bare, Expr.bareAll_eq_map]
    rfl

structure SameParts (l l' : Level) : Prop where
  branches : l'.branches.map Expr.bare = l.branches.map Expr.bare
  parts : l'.parts.map Expr.bare = l.parts.map Expr.bare

namespace SameParts

variable {l l' : Level}

theorem branch (alike : SameParts l l') (stop stop' : Nat) :
    SameExpr (l.branch stop) (l'.branch stop') := by
  rw [SameExpr, branch_bare, branch_bare, alike.parts]

theorem close (alike : SameParts l l') (stop stop' : Nat) :
    SameExpr (l.close stop) (l'.close stop') := by
  have last : (l'.branch stop').bare = (l.branch stop).bare := alike.branch stop stop'
  have branches := alike.branches
  unfold Level.close
  cases before : l.branches with
  | nil =>
    rw [before, List.map_nil, List.map_eq_nil_iff] at branches
    rw [branches]
    exact last
  | cons b bs =>
    rw [before, List.map_cons, List.map_eq_cons_iff] at branches
    obtain ⟨b', bs', before', same, others⟩ := branches
    rw [before']
    change Expr.alternation .zero (Expr.bareAll _) = .alternation .zero (Expr.bareAll _)
    rw [Expr.bareAll_eq_map, Expr.bareAll_eq_map]
    simp only [List.map_append, List.map_reverse, List.map_cons, List.map_nil, same, others, last]

theorem refl (l : Level) : SameParts l l := ⟨rfl, rfl⟩

theorem across {l'' : Level} (alike : SameParts l l') (alike' : SameParts l l'') :
    SameParts l'' l' :=
  ⟨alike.branches.trans alike'.branches.symm, alike.parts.trans alike'.parts.symm⟩

theorem push {part part' : Expr} (alike : SameParts l l') (same : SameExpr part part') :
    SameParts (l.push part) (l'.push part') where
  branches := alike.branches
  parts := congrArg₂ List.cons same alike.parts

end SameParts

/-! ### Repetitions -/

def isOperand : Expr → Bool
  | .empty _ | .switch _ _ => false
  | _ => true

theorem isOperand_bare (e : Expr) : isOperand e.bare = isOperand e := by
  cases e <;> rfl

theorem takeOperand_cons {l : Level} {part : Expr} {parts : List Expr}
    (last : l.parts = part :: parts) (s : Source) : takeOperand l s =
      if isOperand part then .ok (part, { l with parts }) else refuse .nothingToRepeat s.here := by
  rw [takeOperand, last]
  cases part <;> rfl

theorem mirrors_takeOperand {l l' : Level} (alike : SameParts l l') (s s' : Source) :
    Mirrors (fun r r' => SameExpr r.1 r'.1 ∧ SameParts r.2 r'.2) (fun _ => False)
      (takeOperand l s) (takeOperand l' s') := by
  have parts := alike.parts
  cases last : l.parts with
  | nil =>
    rw [last, List.map_nil, List.map_eq_nil_iff] at parts
    rw [takeOperand, takeOperand, last, parts]
    exact .refused
  | cons part others =>
    rw [last, List.map_cons, List.map_eq_cons_iff] at parts
    obtain ⟨part', others', last', same, rest⟩ := parts
    have operand : isOperand part' = isOperand part := by
      rw [← isOperand_bare, ← isOperand_bare part, same]
    rw [takeOperand_cons last, takeOperand_cons last', operand]
    split
    · exact .ok ⟨same, alike.branches, rest⟩
    · exact .refused

theorem enclosed_skipLazy (place : Enclosed n s s') :
    Enclosed n (skipLazy s) (skipLazy s') := by
  have question := place.char?_eq_some_iff (c := '?') (by decide)
  unfold skipLazy
  simp only [question]
  split
  · rename_i here
    exact (place.next here).mono (Nat.sub_le n 1)
  · exact place

theorem mirrors_readRepetition (least : Nat) (most : Option Nat) {l l' : Level}
    (alike : SameParts l l') (place : Enclosed n s s') {c : Char} (here : s.char? = some c) :
    Mirrors (Alongside SameParts (n - 1)) (fun _ => False) (readRepetition least most l s)
      (readRepetition least most l' s') := by
  refine (mirrors_takeOperand alike s s').bind ?_ nofun
  rintro ⟨body, l⟩ ⟨body', l'⟩ ⟨same, others⟩
  refine .ok ⟨others.push ?_, enclosed_skipLazy (place.next here)⟩
  change Expr.repetition .zero least most body'.bare = .repetition .zero least most body.bare
  rw [same]

/-- A count is read alike, since the parenthesis is no digit. -/
theorem readCount_enclosed (place : Enclosed n s s') :
    (readCount s').1.toOption = (readCount s).1.toOption ∧
      Enclosed n (readCount s).2 (readCount s').2 := by
  obtain ⟨digits, stop⟩ := place.skipBlanks.scan_until (fun o => o.any isAsciiDigit) rfl
    s.skipBlanks s'.skipBlanks rfl rfl
  have same := filterMap_char?_eq digits
  unfold readCount
  dsimp only at same ⊢
  rw [same]
  refine ⟨?_, stop.skipBlanks⟩
  split
  · rfl
  · split <;> rfl

theorem readCount_of_nil (ended : s.rest = []) :
    (readCount s).1.toOption = none ∧ (readCount s).2.rest = [] := by
  have blanks : s.skipBlanks = s := by
    rw [Source.skipBlanks, ended]
    rfl
  have places : s.places = [] := by
    rw [Source.places, ended]
    split <;> rfl
  unfold readCount
  dsimp only
  rw [blanks, places]
  exact ⟨rfl, rfl⟩

def SameCounts (n : Nat) (r r' : Nat × Option Nat × Source) : Prop :=
  r'.1 = r.1 ∧ Alongside Eq n r.2 r'.2

theorem mirrors_count {count count' : Except Error Nat}
    (alike : count'.toOption = count.toOption) :
    Mirrors (fun k k' => k' = k) (fun _ => False) count count' :=
  .of_toOption id (congrArg (Option.map id) alike)

theorem mirrors_map_count {least least' : Except Error Nat}
    (alike : least'.toOption = least.toOption) {most : Nat → Option Nat}
    (place : Enclosed n s s') :
    Mirrors (SameCounts n) (fun _ => False) (least.map fun k => (k, most k, s))
      (least'.map fun k => (k, most k, s')) := by
  cases mirrors_count alike with
  | ok same =>
    subst same
    exact .ok ⟨rfl, rfl, place⟩
  | refused => exact .refused
  | lost beyond => exact beyond.elim

theorem readSecondCount_of_ne {start : Nat} {least : Except Error Nat}
    (other : s.char? ≠ some ',') :
    readSecondCount start least s = least.map fun k => (k, some k, s) := by
  unfold readSecondCount
  dsimp only
  split
  · contradiction
  · contradiction
  · contradiction
  · rfl

/-- The rest of `readSecondCount` from a second count. -/
def readBetween (least : Except Error Nat) (s : Source) :
    Except Error (Nat × Option Nat × Source) := do
  let least ← least
  let (most, after) := readCount s
  return (least, some (← most), after)

theorem mirrors_readBetween {least least' : Except Error Nat}
    (alike : least'.toOption = least.toOption) (place : Enclosed n s s') :
    Mirrors (SameCounts n) (fun _ => False) (readBetween least s)
      (readBetween least' s') := by
  obtain ⟨count, after⟩ := readCount_enclosed place
  refine (mirrors_count alike).bind (fun k k' same => ?_) nofun
  refine (mirrors_count count).bind (fun most most' same' => ?_) nofun
  subst same same'
  exact .ok ⟨rfl, rfl, after⟩

theorem readBetween_of_nil (ended : s.rest = []) (least : Except Error Nat)
    (r : Nat × Option Nat × Source) : readBetween least s ≠ .ok r := by
  have missing := (readCount_of_nil ended).1
  intro read
  unfold readBetween at read
  generalize readCount s = counted at missing read
  obtain ⟨k, -, read⟩ := bind_ok read
  obtain ⟨most, count, -⟩ := bind_ok read
  rw [count] at missing
  cases missing

theorem mirrors_readSecondCount (start start' : Nat) {least least' : Except Error Nat}
    (alike : least'.toOption = least.toOption) (place : Enclosed n s s') :
    Mirrors (SameCounts n) (fun _ => False) (readSecondCount start least s)
      (readSecondCount start' least' s') := by
  have comma := place.char?_eq_some_iff (c := ',') (by decide)
  by_cases here : s.char? = some ','
  · have bound := (place.step here).mono (Nat.sub_le n 1)
    have answers := mirrors_readBetween alike bound
    unfold readSecondCount
    dsimp only
    rw [here, comma.mpr here]
    cases first : s.step.char? with
    | none =>
      have ended := Source.rest_of_char?_eq_none first
      refine .of_error fun r read => ?_
      rcases bound.ended first with rest | rest
      · simp only [Source.char?_of_rest rest] at read
        obtain ⟨r, read, -⟩ := answers.exists_ok read
        exact readBetween_of_nil ended least r read
      · simp only [Source.char?_of_nil rest] at read
        cases read
    | some c =>
      rw [bound.char? first]
      by_cases closes : c = '}'
      · subst closes
        exact mirrors_map_count alike bound
      · simp only
        exact answers
  · rw [readSecondCount_of_ne here, readSecondCount_of_ne (mt comma.mp here)]
    exact mirrors_map_count alike place

/-- The rest of `readCounts` from the first count. -/
def readInside (start : Nat) (s : Source) : Except Error (Nat × Option Nat × Source) := do
  let (least, after) := readCount s
  if after.char? = none then refuse .countUnclosed (after.since start)
  else
    let (least, most, close) ← readSecondCount start least after
    if close.char? = some '}' then return (least, most, close)
    else refuse .countUnclosed (close.since start)

theorem mirrors_readInside (start start' : Nat) (place : Enclosed n s s') :
    Mirrors (fun r r' => SameCounts n r r' ∧ r.2.2.char? = some '}') (fun _ => False)
      (readInside start s) (readInside start' s') := by
  obtain ⟨count, after⟩ := readCount_enclosed place
  have answers := mirrors_readSecondCount start start' count after
  unfold readInside
  generalize readCount s = r at count after answers ⊢
  generalize readCount s' = r' at count after answers ⊢
  obtain ⟨least, t⟩ := r
  obtain ⟨least', t'⟩ := r'
  dsimp only at count after answers ⊢
  cases here : t.char? with
  | none =>
    refine .of_error fun r read => ?_
    rcases after.ended here with rest | rest
    · have closing := Source.char?_of_rest rest
      rw [readSecondCount_of_ne (by rw [closing]; decide), closing] at read
      cases least' with
      | error => cases read
      | ok k =>
        obtain ⟨counts, same, read⟩ := bind_ok read
        cases same
        simp only [closing] at read
        cases read
    · simp only [Source.char?_of_nil rest] at read
      cases read
  | some c =>
    rw [after.char? here]
    refine answers.bind ?_ nofun
    rintro ⟨k, most, close⟩ ⟨k', most', close'⟩ ⟨same, same', stop⟩
    dsimp only at same same' stop ⊢
    subst same same'
    have brace := stop.char?_eq_some_iff (c := '}') (by decide)
    simp only [brace]
    split
    · rename_i closes
      exact .ok ⟨⟨rfl, rfl, stop⟩, closes⟩
    · exact .refused

theorem readInside_of_nil (ended : s.rest = []) (start : Nat) (r : Nat × Option Nat × Source) :
    readInside start s ≠ .ok r := by
  have beyond := Source.char?_of_nil (readCount_of_nil ended).2
  intro read
  unfold readInside at read
  generalize readCount s = counted at beyond read
  simp only [beyond] at read
  cases read

/-- The counts of a repetition end at their closing brace, so the pattern may not end among them. -/
theorem mirrors_readCounts (place : Enclosed n s s') (here : s.char? = some '{') :
    Mirrors (fun r r' => SameCounts (n - 1) r r' ∧ r.2.2.char? = some '}') (fun _ => False)
      (readCounts s) (readCounts s') := by
  have inner := place.step here
  have answers := mirrors_readInside s.offset s'.offset inner
  unfold readCounts
  dsimp only
  cases first : s.step.char? with
  | none =>
    have ended := Source.rest_of_char?_eq_none first
    refine .of_error fun r read => ?_
    split at read
    · cases read
    · obtain ⟨r, read, -⟩ := answers.exists_ok read
      exact readInside_of_nil ended _ r read
  | some c =>
    rw [inner.char? first]
    exact answers

theorem mirrors_readCountedRepetition {l l' : Level} (alike : SameParts l l')
    (place : Enclosed n s s') (here : s.char? = some '{') :
    Mirrors (Alongside SameParts (n - 1)) (fun _ => False) (readCountedRepetition l s)
      (readCountedRepetition l' s') := by
  unfold readCountedRepetition
  refine (mirrors_takeOperand alike s s').bind ?_ nofun
  rintro ⟨body, l⟩ ⟨body', l'⟩ ⟨same, others⟩
  refine (mirrors_readCounts place here).bind ?_ nofun
  rintro ⟨least, most, close⟩ ⟨least', most', close'⟩ ⟨⟨sameLeast, sameMost, stop⟩, brace⟩
  dsimp only at sameLeast sameMost stop brace ⊢
  subst sameLeast sameMost
  split
  · exact .refused
  · refine .ok ⟨others.push ?_, enclosed_skipLazy ((stop.step brace).mono (Nat.sub_le _ 1))⟩
    change Expr.repetition .zero least' most body'.bare = .repetition .zero least' most body.bare
    rw [same]

/-- Before the parenthesis at the end there is always an empty pattern. -/
theorem enclosed_closing (rest : s.rest = [')']) : Enclosed 0 ⟨s.offset, [], s.verbose⟩ s :=
  ⟨rfl, .inl rest, Nat.le_refl 0⟩

/-- The brace that a word boundary has given back opens no repetition if only the parenthesis
follows. -/
theorem readCountedRepetition_closing (l : Level) (rest : s.step.rest = [')'])
    (r : Level × Source) : readCountedRepetition l s ≠ .ok r := by
  intro read
  obtain ⟨operand, -, read⟩ := bind_ok read
  obtain ⟨counts, inside, -⟩ := bind_ok read
  unfold readCounts at inside
  simp only [Source.char?_of_rest rest] at inside
  have answers := mirrors_readInside s.offset s.offset (enclosed_closing rest)
  obtain ⟨none_read, empty, -⟩ := answers.exists_ok inside
  exact readInside_of_nil rfl _ _ empty

/-! ### Atoms -/

theorem mirrors_readAtom (place : Enclosed n s s') {c : Char} (here : s.char? = some c) :
    Mirrors (Alongside SameExpr (n - 1)) StrayEscape (readAtom s) (readAtom s') := by
  have after := place.next here
  unfold readAtom
  rw [here, place.char? here]
  by_cases slash : c = '\\'
  · subst slash
    exact mirrors_readEscape place here
  · split
    · rename_i slashed
      exact absurd (Option.some.inj slashed) slash
    · exact .ok ⟨rfl, after⟩
    · exact .ok ⟨rfl, after⟩
    · exact .ok ⟨rfl, after⟩
    · exact .ok ⟨rfl, after⟩
    · contradiction

/-! ### Groups -/

structure SameGroup (f f' : Frame) : Prop where
  switches : f'.switches = f.switches
  outer : SameParts f.outer f'.outer
  verbose : f'.verbose = f.verbose

namespace SameGroup

variable {f f' f'' : Frame}

theorem refl (f : Frame) : SameGroup f f := ⟨rfl, .refl f.outer, rfl⟩

theorem across (same : SameGroup f f') (same' : SameGroup f f'') : SameGroup f'' f' :=
  ⟨same.switches.trans same'.switches.symm, same.outer.across same'.outer,
    same.verbose.trans same'.verbose.symm⟩

theorem across_forall₂ {fs fs' fs'' : List Frame} (same : List.Forall₂ SameGroup fs fs')
    (same' : List.Forall₂ SameGroup fs fs'') : List.Forall₂ SameGroup fs'' fs' := by
  induction same generalizing fs'' with
  | nil =>
    cases same'
    exact .nil
  | cons first _ ih =>
    cases same' with
    | cons first' others' => exact .cons (first.across first') (ih others')

end SameGroup

/-- What has been read of the pattern, alone and inside the groups `around` it in the longer
text. -/
structure Within (around : List Frame) (p p' : Progress) : Prop where
  level : SameParts p.level p'.level
  frames : ∃ inner, p'.frames = inner ++ around ∧ List.Forall₂ SameGroup p.frames inner
  names : SameNames p.names p'.names

variable {around : List Frame} {p p' : Progress}

theorem Within.around_suffix (within : Within around p p') : around <:+ p'.frames := by
  obtain ⟨inner, frames, -⟩ := within.frames
  exact ⟨inner, frames.symm⟩

theorem Within.refl (p : Progress) : Within [] p p where
  level := .refl p.level
  frames := ⟨p.frames, (List.append_nil _).symm, List.forall₂_same.mpr fun f _ => .refl f⟩
  names := rfl

/-- What has been read without groups around the pattern, seen from inside such groups. -/
theorem Within.across {p'' : Progress} (inside : Within around p p') (closed : Within [] p p'') :
    Within around p'' p' := by
  obtain ⟨inner, frames, groups⟩ := inside.frames
  obtain ⟨inner', frames', groups'⟩ := closed.frames
  rw [List.append_nil] at frames'
  subst frames'
  exact ⟨inside.level.across closed.level, ⟨inner, frames, SameGroup.across_forall₂ groups groups'⟩,
    inside.names.trans closed.names.symm⟩

theorem mirrors_openGroup (within : Within around p p') (place : Enclosed n s s')
    (here : s.char? = some '(') :
    Mirrors (Alongside (Within around) (n - 1))
      (fun r => around <:+ r.1.frames ∧ r.2.rest = []) (openGroup p s) (openGroup p' s') := by
  refine (mirrors_readOpening within.names place here).bind ?_ ?_
  · rintro ⟨opening, names, after⟩ ⟨opening', names', after'⟩ ⟨same, alike, stop⟩
    have inside {v v' : Bool} (same : v' = v) :
        Enclosed (n - 1) { after with verbose := v } { after' with verbose := v' } :=
      ⟨same, stop.rest, stop.le⟩
    obtain ⟨inner, frames, groups⟩ := within.frames
    cases opening with
    | switch span switches =>
      cases opening' with
      | group => cases same
      | switch span' switches' =>
        obtain rfl : switches' = switches := (Opening.switch.inj same).2
        refine .ok ⟨⟨within.level.push rfl, ⟨inner, frames, groups⟩, alike⟩, inside ?_⟩
        rw [place.verbose]
    | group parenthesis switches =>
      cases opening' with
      | switch => cases same
      | group parenthesis' switches' =>
        obtain rfl : switches' = switches := (Opening.group.inj same).2
        have opened : SameGroup ⟨parenthesis, switches', p.level, s.verbose⟩
            ⟨parenthesis', switches', p'.level, s'.verbose⟩ :=
          ⟨rfl, within.level, place.verbose⟩
        refine .ok ⟨⟨⟨rfl, rfl⟩, ⟨_ :: inner, ?_, .cons opened groups⟩, alike⟩, inside ?_⟩
        · rw [frames]
          rfl
        · rw [place.verbose]
  · rintro ⟨opening, names, after⟩ ended r read
    cases opening with
    | switch =>
      cases read
      exact ⟨within.around_suffix, ended⟩
    | group =>
      cases read
      exact ⟨within.around_suffix.trans (List.suffix_cons _ _), ended⟩

theorem mirrors_closeGroup (within : Within around p p') (place : Enclosed n s s')
    {c : Char} (here : s.char? = some c) (opened : p.frames ≠ []) :
    Mirrors (Alongside (Within around) (n - 1)) (fun _ => False) (closeGroup p s)
      (closeGroup p' s') := by
  have after := place.next here
  obtain ⟨inner, frames', groups⟩ := within.frames
  cases frames : p.frames with
  | nil => exact absurd frames opened
  | cons frame outer =>
    rw [frames] at groups
    cases groups with
    | @cons _ frame' _ inner group groups =>
      unfold closeGroup
      rw [frames, frames', List.cons_append]
      refine .ok ⟨⟨group.outer.push ?_, ⟨inner, rfl, groups⟩, within.names⟩, ?_⟩
      · have body := within.level.close s.offset s'.offset
        change Expr.group .zero _ _ = .group .zero _ _
        rw [group.switches, body]
      · exact ⟨group.verbose, after.rest, after.le⟩

theorem openBranch_within (within : Within around p p') (place : Enclosed n s s')
    {c : Char} (here : s.char? = some c) :
    Alongside (Within around) (n - 1) (openBranch p s) (openBranch p' s') := by
  have branches := congrArg₂ List.cons (within.level.branch s.offset s'.offset)
    within.level.branches
  exact ⟨⟨⟨branches, rfl⟩, within.frames, within.names⟩, place.next here⟩

/-! ### Parts -/

/-- What is read where the pattern ends inside a part: the groups around it stay open, and what is
left is nothing, or a brace that opens no repetition. -/
def StrayPart (around : List Frame) (r : Progress × Source) : Prop :=
  around <:+ r.1.frames ∧ (r.2.rest = [] ∨ r.2.char? = some '{' ∧ r.2.step.rest = [')'])

theorem Mirrors.onLevel {x : Except Error (Level × Source)} {y : Except Error (Level × Source)}
    (within : Within around p p')
    (answers : Mirrors (Alongside SameParts (n - 1)) (fun _ => False) x y) :
    Mirrors (Alongside (Within around) (n - 1)) (StrayPart around)
      (do let r ← x; return ({ p with level := r.1 }, r.2))
      (do let r ← y; return ({ p' with level := r.1 }, r.2)) := by
  refine answers.bind (fun r r' same => ?_) nofun
  exact .ok ⟨⟨same.1, within.frames, within.names⟩, same.2⟩

/-- Every part of the pattern is read alike, but for a parenthesis that closes no group of it. -/
theorem mirrors_readPart (within : Within around p p') (place : Enclosed n s s')
    {c : Char} (here : s.char? = some c) (opened : c = ')' → p.frames ≠ []) :
    Mirrors (Alongside (Within around) (n - 1)) (StrayPart around) (readPart p s c)
      (readPart p' s' c) := by
  unfold readPart
  dsimp only
  split
  · exact (mirrors_openGroup within place here).mono (fun _ _ => id) fun r stray =>
      ⟨stray.1, .inl stray.2⟩
  · exact (mirrors_closeGroup within place here (opened rfl)).mono (fun _ _ => id) nofun
  · exact .ok (openBranch_within within place here)
  · exact (mirrors_readRepetition _ _ within.level place here).onLevel within
  · exact (mirrors_readRepetition _ _ within.level place here).onLevel within
  · exact (mirrors_readRepetition _ _ within.level place here).onLevel within
  · exact (mirrors_readCountedRepetition within.level place here).onLevel within
  · refine (mirrors_readBracketed place here).bind ?_ nofun
    rintro ⟨cls, t⟩ ⟨cls', t'⟩ ⟨same, after⟩
    exact .ok ⟨⟨within.level.push same, within.frames, within.names⟩, after⟩
  · refine (mirrors_readAtom place here).bind ?_ ?_
    · rintro ⟨atom, t⟩ ⟨atom', t'⟩ ⟨same, after⟩
      exact .ok ⟨⟨within.level.push same, within.frames, within.names⟩, after⟩
    · rintro ⟨atom, t⟩ stray r read
      cases read
      exact ⟨within.around_suffix, stray.imp_right fun brace => ⟨brace.2.1, brace.2.2⟩⟩

end Storygraph.Pattern
