import Storygraph.Proofs.Pattern.Escapes

/-!
# Bracketed classes in an enclosed pattern

A class is read in the longer text as it is in the pattern alone, up to spans
(`mirrors_readBracketed`). The pattern may not end inside a class: the parenthesis would be an item
of it, and the class would still be open.
-/

namespace Storygraph.Pattern

variable {n : Nat} {s s' : Source}

/-! ### Items -/

theorem classItem_bare (e : Expr) :
    (classItem e.bare).toOption = (classItem e).toOption.map ClassExpr.bare := by
  cases e <;> rfl

theorem rangeBound_bare (e : Expr) :
    (rangeBound e.bare).toOption = (rangeBound e).toOption.map Literal.bare := by
  cases e <;> rfl

theorem mirrors_classItem {e e' : Expr} (alike : SameExpr e e') :
    Mirrors SameClass (fun _ => False) (classItem e) (classItem e') :=
  .of_toOption ClassExpr.bare (by rw [← classItem_bare, ← classItem_bare, alike])

theorem mirrors_rangeBound {e e' : Expr} (alike : SameExpr e e') :
    Mirrors (fun l l' => l'.bare = l.bare) (fun _ => False) (rangeBound e) (rangeBound e') :=
  .of_toOption Literal.bare (by rw [← rangeBound_bare, ← rangeBound_bare, alike])

def Over (t : Source) : Prop := t.rest = [')'] ∨ t.rest = []

/-- What a class atom reads beyond the end of the pattern. -/
def StrayAtom (r : Expr × Source) : Prop :=
  r.2.rest = [] ∨ (∃ span a, r.1 = .anchor span a) ∧ r.2.char? = some '{'

theorem mirrors_readClassAtom (place : Enclosed n s s') :
    Mirrors (Alongside SameExpr (n - 1)) StrayAtom (readClassAtom s) (readClassAtom s') := by
  unfold readClassAtom
  cases here : s.char? with
  | none =>
    refine .of_error fun b read => ?_
    rcases place.ended here with rest | rest
    · simp only [Source.char?_of_rest rest] at read
      cases read
      exact .inl (Source.rest_next_of_closing rest)
    · simp only [Source.char?_of_nil rest] at read
      cases read
  | some c =>
    rw [place.char? here]
    by_cases slash : c = '\\'
    · subst slash
      exact (mirrors_readEscape place here).mono (fun _ _ => id)
        fun r stray => stray.imp_right fun boundary => ⟨boundary.1, boundary.2.1⟩
    · simp only
      exact .ok ⟨rfl, place.next here⟩

theorem readClassAtom_closing (rest : s.rest = [')']) :
    readClassAtom s = .ok (.literal ⟨s.charSpan, ')', false⟩, s.next) := by
  rw [readClassAtom, Source.char?_of_rest rest]
  rfl

/-- The rest of `readClassItem` from the last bound of a range. -/
def readRange (first : Expr) (s : Source) : Except Error (ClassExpr × Source) := do
  let (last, s) ← readClassAtom s
  let low ← rangeBound first
  let high ← rangeBound last
  if low.char ≤ high.char then return (.range low high, s)
  else refuse .classRangeOrder ⟨first.span.start, last.span.stop⟩

theorem mirrors_readRange {first first' : Expr} (alike : SameExpr first first')
    (place : Enclosed n s s') :
    Mirrors (Alongside SameClass (n - 1)) (fun r => Over r.2) (readRange first s)
      (readRange first' s') := by
  unfold readRange
  refine (mirrors_readClassAtom place).bind ?_ ?_
  · rintro ⟨last, t⟩ ⟨last', t'⟩ ⟨alike', after⟩
    refine (mirrors_rangeBound alike).bind (fun low low' lows => ?_) nofun
    refine (mirrors_rangeBound alike').bind (fun high high' highs => ?_) nofun
    have low_eq : low'.bare.char = low.bare.char := congrArg Literal.char lows
    have high_eq : high'.bare.char = high.bare.char := congrArg Literal.char highs
    change low'.char = low.char at low_eq
    change high'.char = high.char at high_eq
    rw [low_eq, high_eq]
    split
    · refine .ok ⟨?_, after⟩
      rw [SameClass, ClassExpr.bare, ClassExpr.bare, lows, highs]
    · exact .refused
  · rintro ⟨last, t⟩ (ended | ⟨⟨span, a, rfl⟩, -⟩) d read
    · obtain ⟨low, -, read⟩ := bind_ok read
      obtain ⟨high, -, read⟩ := bind_ok read
      split at read
      · cases read
        exact .inr ended
      · cases read
    · obtain ⟨low, -, read⟩ := bind_ok read
      cases read

theorem rest_of_readRange {first : Expr} {r : ClassExpr × Source} (rest : s.rest = [')'])
    (read : readRange first s = .ok r) : r.2.rest = [] := by
  rw [readRange, readClassAtom_closing rest] at read
  obtain ⟨atom, here, read⟩ := bind_ok read
  cases here
  obtain ⟨low, -, read⟩ := bind_ok read
  obtain ⟨high, -, read⟩ := bind_ok read
  split at read
  · cases read
    exact Source.rest_next_of_closing rest
  · cases read

theorem mirrors_readClassItem (unclosed unclosed' : Span) (place : Enclosed n s s') :
    Mirrors (Alongside SameClass (n - 1)) (fun r => Over r.2) (readClassItem unclosed s)
      (readClassItem unclosed' s') := by
  unfold readClassItem
  refine (mirrors_readClassAtom place).bind ?_ ?_
  · rintro ⟨first, t⟩ ⟨first', t'⟩ ⟨alike, after⟩
    have after := after.skip
    dsimp only
    cases here : t.skip.char? with
    | none =>
      refine .of_error fun b read => ?_
      rcases after.ended here with rest | rest
      · simp only [Source.char?_of_rest rest] at read
        obtain ⟨item, -, read⟩ := bind_ok read
        cases read
        exact .inl rest
      · simp only [Source.char?_of_nil rest] at read
        cases read
    | some c =>
      have bracket := after.peekSkip? here (c := ']') rfl (by decide) (by decide)
      have dash := after.peekSkip? here (c := '-') rfl (by decide) (by decide)
      rw [after.char? here]
      simp only [bracket, dash]
      split
      · exact .refused
      · split
        · exact (mirrors_classItem alike).bind (fun item item' same => .ok ⟨same, after⟩) nofun
        · have inner := after.step here
          cases going : t.skip.step.char? with
          | none =>
            refine .of_error fun b read => ?_
            rcases inner.ended going with rest | rest
            · simp only [Source.char?_of_rest rest] at read
              exact .inr (rest_of_readRange rest read)
            · simp only [Source.char?_of_nil rest] at read
              cases read
          | some d =>
            rw [inner.char? going]
            exact (mirrors_readRange alike inner).widen (by omega)
  -- Neither the parenthesis at the end nor a word boundary makes an item.
  · rintro ⟨e, t⟩ (ended | ⟨⟨span, a, rfl⟩, brace⟩) d read
    · simp only [Source.skip_of_nil ended, Source.char?_of_nil ended] at read
      cases read
    · simp only [Source.skip_of_char? brace rfl (by decide), brace] at read
      cases read

/-- The rest of `readNamedClass?` from the name. -/
def readNamed? (start : Nat) (negated : Bool) (inner : Source) : Option (ClassExpr × Source) := do
  let name := inner.rest.takeWhile (· ≠ ':')
  let after ← (inner.drop name.length).take? ":]"
  let cls ← namedClass? name
  return (.named (after.since start) negated cls, after)

theorem rel_readNamed? (start start' : Nat) (negated : Bool) (place : Enclosed n s s') :
    Option.Rel (Alongside SameClass n) (readNamed? start negated s)
      (readNamed? start' negated s') := by
  unfold readNamed?
  dsimp only
  rcases place.word (fun c => c ≠ ':') rfl with ⟨name, stop⟩ | ⟨ended, ended'⟩
  · rw [name]
    have rel := stop.1.take? ":]" (by decide) (by decide)
    generalize Source.take? _ _ = after at rel ⊢
    generalize Source.take? _ _ = after' at rel ⊢
    cases rel with
    | none => exact .none
    | some behind =>
      cases namedClass? (s.rest.takeWhile fun c => c ≠ ':') with
      | none => exact .none
      | some cls => exact .some ⟨rfl, behind.mono (Nat.sub_le _ _)⟩
  · rw [Source.take?, Source.take?, ended, ended']
    exact .none

theorem rel_readNamedClass? (place : Enclosed n s s') :
    Option.Rel (Alongside SameClass (n - 1)) (readNamedClass? s) (readNamedClass? s') := by
  unfold readNamedClass?
  have rel := place.take? "[:" (by decide) (by decide)
  generalize Source.take? _ _ = inner at rel ⊢
  generalize Source.take? _ _ = inner' at rel ⊢
  cases rel with
  | none => exact .none
  | @some inner inner' inside =>
    have caret := inside.take? "^" (by decide) (by decide)
    simp only [Option.bind_eq_bind, Option.bind_some]
    generalize Source.take? _ inner = after at caret ⊢
    generalize Source.take? _ inner' = after' at caret ⊢
    cases caret with
    | none => exact rel_readNamed? _ _ false inside
    | some behind => exact rel_readNamed? _ _ true (behind.mono (Nat.sub_le _ 1))

theorem rel_setOp? (place : Enclosed n s s') :
    Option.Rel (Alongside Eq (n - 1)) (setOp? s) (setOp? s') := by
  have operator (word : String) (op : SetOp) (free : ')' ∉ word.toList)
      (shown : word.toList ≠ []) : Option.Rel (Alongside Eq (n - 1))
        ((s.take? word).map (op, ·)) ((s'.take? word).map (op, ·)) := by
    have rel := place.take? word free shown
    generalize s.take? word = after at rel ⊢
    generalize s'.take? word = after' at rel ⊢
    cases rel with
    | none => exact .none
    | some behind => exact .some ⟨rfl, behind⟩
  exact rel_or (operator "&&" .intersection (by decide) (by decide))
    (rel_or (operator "--" .difference (by decide) (by decide))
      (operator "~~" .symmetricDifference (by decide) (by decide)))

/-! ### Open brackets -/

def joined : List ClassExpr → ClassExpr
  | [] => .empty .zero
  | [item] => item
  | items => .union .zero items

theorem operand_bare (l : ClassLevel) :
    l.operand.bare = joined (l.items.map ClassExpr.bare).reverse := by
  rw [ClassLevel.operand, ← List.map_reverse]
  rcases shape : l.items.reverse with _ | ⟨first, _ | ⟨second, others⟩⟩
  · rfl
  · rfl
  · have some_left : l.items ≠ [] := fun ended => by
      rw [ended] at shape
      cases shape
    obtain ⟨last, init, items⟩ := List.exists_cons_of_ne_nil some_left
    rw [items]
    change (ClassExpr.union _ (first :: second :: others)).bare = _
    rw [ClassExpr.bare, ClassExpr.bareAll_eq_map]
    rfl

structure SameLevel (l l' : ClassLevel) : Prop where
  items : l'.items.map ClassExpr.bare = l.items.map ClassExpr.bare
  pending : l'.pending.map (fun p => (p.1, p.2.bare)) = l.pending.map (fun p => (p.1, p.2.bare))

namespace SameLevel

variable {l l' : ClassLevel}

theorem operand (alike : SameLevel l l') : SameClass l.operand l'.operand := by
  rw [SameClass, operand_bare, operand_bare, alike.items]

theorem close (alike : SameLevel l l') : SameClass l.close l'.close := by
  have pending := alike.pending
  have operand : l'.operand.bare = l.operand.bare := alike.operand
  unfold ClassLevel.close
  cases before : l.pending with
  | none =>
    rw [before, Option.map_none, Option.map_eq_none_iff] at pending
    rw [pending]
    exact operand
  | some p =>
    rw [before, Option.map_some, Option.map_eq_some_iff] at pending
    obtain ⟨p', before', same⟩ := pending
    obtain ⟨op, left⟩ := Prod.mk.inj same
    rw [before']
    change ClassExpr.binary .zero _ _ _ = ClassExpr.binary .zero _ _ _
    rw [op, left, operand]

theorem push {item item' : ClassExpr} (alike : SameLevel l l') (same : SameClass item item') :
    SameLevel (l.push item) (l'.push item') where
  items := congrArg₂ List.cons same alike.items
  pending := alike.pending

end SameLevel

structure SameFrame (f f' : ClassFrame) : Prop where
  negated : f'.negated = f.negated
  outer : SameLevel f.outer f'.outer

theorem SameFrame.close {f f' : ClassFrame} {l l' : ClassLevel} (alike : SameFrame f f')
    (level : SameLevel l l') (span span' : Span) :
    SameClass (.bracketed span f.negated l.close) (.bracketed span' f'.negated l'.close) := by
  have body : l'.close.bare = l.close.bare := level.close
  rw [SameClass, ClassExpr.bare, ClassExpr.bare, alike.negated, body]

/-- The rest of `openClass` from the first character that is no dash. -/
def opened (start : Nat) (negated : Bool) (dashes : List Source) (after : Source) :
    Except Error (Span × Bool × List ClassExpr × Source) :=
  let literals := dashes.map fun p => .literal ⟨p.charSpan, '-', false⟩
  if after.char? = none then
    refuse .classUnclosed (if dashes.isEmpty then after.since start else ⟨start, start⟩)
  else if dashes.isEmpty && after.char? = some ']' then
    let past := after.step
    if past.char? = none then refuse .classUnclosed (past.since start)
    else return (past.since start, negated, [.literal ⟨after.charSpan, ']', false⟩], past)
  else return (after.since start, negated, literals.reverse, after)

def SameOpening (n : Nat) (r r' : Span × Bool × List ClassExpr × Source) : Prop :=
  r'.2.1 = r.2.1 ∧ r'.2.2.1.map ClassExpr.bare = r.2.2.1.map ClassExpr.bare ∧
    Enclosed n r.2.2.2 r'.2.2.2

theorem mirrors_opened (start start' : Nat) (negated : Bool) {dashes dashes' : List Source}
    (alike : dashes'.length = dashes.length) (place : Enclosed n s s') :
    Mirrors (SameOpening n) (fun r => Over r.2.2.2) (opened start negated dashes s)
      (opened start' negated dashes' s') := by
  have empty := isEmpty_congr alike
  have bracket := place.char?_eq_some_iff (c := ']') (by decide)
  unfold opened
  simp only [empty, bracket]
  cases here : s.char? with
  | none =>
    refine .of_error fun r read => ?_
    rcases place.ended here with rest | rest
    · simp only [Source.char?_of_rest rest, reduceCtorEq, decide_false, Bool.and_false,
        Bool.false_eq_true, if_false] at read
      cases read
      exact .inl rest
    · simp only [Source.char?_of_nil rest] at read
      cases read
  | some c =>
    rw [place.char? here]
    split
    · exact .refused
    · split
      · have past := place.step here
        cases going : s.step.char? with
        | none =>
          refine .of_error fun r read => ?_
          split at read
          · cases read
          · cases read
            exact past.ended going
        | some d =>
          rw [past.char? going]
          exact .ok ⟨rfl, rfl, past.mono (Nat.sub_le n 1)⟩
      · refine .ok ⟨rfl, ?_, place⟩
        have bare_eq (ps : List Source) :
            (ps.map fun p => ClassExpr.literal ⟨p.charSpan, '-', false⟩).map ClassExpr.bare =
              List.replicate ps.length (.literal ⟨.zero, '-', false⟩) := by
          rw [List.map_map]
          change ps.map (fun _ => ClassExpr.literal ⟨.zero, '-', false⟩) = _
          exact List.map_const'
        rw [List.map_reverse, List.map_reverse, bare_eq, bare_eq, alike]

theorem openClass_eq {t : Source}
    (next : t = if s.step.char? = some '^' then s.step.step else s.step) :
    openClass s = opened s.offset (s.step.char? = some '^')
      (t.places.takeWhile fun p => p.char? = some '-')
      (t.first (t.places.dropWhile fun p => p.char? = some '-')) := by
  subst next
  rfl

theorem mirrors_openClass (place : Enclosed n s s') {c : Char} (here : s.char? = some c) :
    Mirrors (SameOpening (n - 1)) (fun r => Over r.2.2.2) (openClass s) (openClass s') := by
  have inner := place.step here
  have caret := inner.char?_eq_some_iff (c := '^') (by decide)
  have inside : Enclosed (n - 1) (if s.step.char? = some '^' then s.step.step else s.step)
      (if s'.step.char? = some '^' then s'.step.step else s'.step) := by
    simp only [caret]
    split
    · rename_i negated
      exact (inner.step negated).mono (Nat.sub_le _ 1)
    · exact inner
  obtain ⟨dashes, stop⟩ := inside.scan_until (fun o => o = some '-') rfl _ _ rfl rfl
  rw [openClass_eq rfl, openClass_eq rfl]
  simp only [caret] at dashes stop ⊢
  exact mirrors_opened _ _ _ dashes.length_eq.symm stop

/-! ### Classes -/

theorem Over.skip (beyond : Over s) : Over s.skip := by
  rcases beyond with rest | rest
  · rw [Source.skip_of_char? (Source.char?_of_rest rest) rfl (by decide)]
    exact .inl rest
  · rw [Source.skip_of_nil rest]
    exact .inr rest

/-- The parenthesis is no item of a class that goes on. -/
theorem readClass_over (beyond : Over s.skip) (fuel : Nat) (frame : ClassFrame)
    (outer : List ClassFrame) (level : ClassLevel) (r : Expr × Source) :
    readClass fuel frame outer level s ≠ .ok r := by
  intro read
  cases fuel with
  | zero => cases read
  | succ fuel =>
    rw [readClass] at read
    rcases beyond with rest | rest
    · have operator : setOp? s.skip = none := by
        rw [setOp?, Source.take?, Source.take?, Source.take?, rest]
        rfl
      simp only [Source.char?_of_rest rest, operator] at read
      obtain ⟨item, inner, read⟩ := bind_ok read
      rw [readClassItem, readClassAtom_closing rest] at inner
      obtain ⟨atom, closing, inner⟩ := bind_ok inner
      cases closing
      have ended := Source.rest_next_of_closing rest
      simp only [Source.skip_of_nil ended, Source.char?_of_nil ended] at inner
      cases inner
    · simp only [Source.char?_of_nil rest] at read
      cases read

theorem mirrors_readClass {fuel fuel' : Nat} {frame frame' : ClassFrame}
    {outer outer' : List ClassFrame} {level level' : ClassLevel} (place : Enclosed n s s')
    (room : n < fuel) (room' : n + 1 < fuel') (frames : SameFrame frame frame')
    (outers : List.Forall₂ SameFrame outer outer') (levels : SameLevel level level') :
    Mirrors (Alongside SameExpr n) (fun _ => False) (readClass fuel frame outer level s)
      (readClass fuel' frame' outer' level' s') := by
  induction fuel generalizing n fuel' frame frame' outer outer' level level' s s' with
  | zero => cases room
  | succ fuel ih =>
    obtain ⟨fuel', rfl⟩ := Nat.exists_eq_add_one_of_ne_zero (Nat.ne_zero_of_lt room')
    have place := place.skip
    cases here : s.skip.char? with
    | none =>
      rw [readClass]
      simp only [here]
      exact .of_error fun r read => readClass_over (place.ended here) _ _ _ _ r read
    | some c =>
      have pos := place.pos here
      have later {frame frame' : ClassFrame} {outer outer' : List ClassFrame}
          {level level' : ClassLevel} {t t' : Source} (place : Enclosed (n - 1) t t')
          (frames : SameFrame frame frame') (outers : List.Forall₂ SameFrame outer outer')
          (levels : SameLevel level level') :
          Mirrors (Alongside SameExpr n) (fun _ => False) (readClass fuel frame outer level t)
            (readClass fuel' frame' outer' level' t') :=
        (ih place (by omega) (by omega) frames outers levels).widen (Nat.sub_le n 1)
      rw [readClass, readClass]
      simp only [here, place.char? here]
      by_cases opens : c = '['
      · subst opens
        have named := rel_readNamedClass? place
        simp only
        generalize readNamedClass? s.skip = item at named ⊢
        generalize readNamedClass? s'.skip = item' at named ⊢
        cases named with
        | some same => exact later same.2 frames outers (levels.push same.1)
        | none =>
          refine (mirrors_openClass place here).bind ?_ ?_
          · rintro ⟨opening, negated, items, t⟩ ⟨opening', _, items', t'⟩ ⟨rfl, same, inside⟩
            exact later inside ⟨rfl, levels⟩ (.cons frames outers) ⟨same, rfl⟩
          · rintro ⟨opening, negated, items, t⟩ beyond r read
            exact readClass_over (Over.skip beyond) _ _ _ _ r read
      · by_cases closes : c = ']'
        · subst closes
          have after := place.next here
          simp only
          cases outers with
          | nil =>
            have close : level'.close.bare = level.close.bare := levels.close
            refine .ok ⟨?_, after.mono (Nat.sub_le n 1)⟩
            change Expr.bracketed .zero _ level'.close.bare = .bracketed .zero _ level.close.bare
            rw [frames.negated, close]
          | cons around outers =>
            exact later after around outers (frames.outer.push (frames.close levels _ _))
        · have operator := rel_setOp? place
          simp only
          generalize setOp? s.skip = op at operator ⊢
          generalize setOp? s'.skip = op' at operator ⊢
          cases operator with
          | @some p p' same =>
            obtain ⟨op, t⟩ := p
            obtain ⟨op', t'⟩ := p'
            obtain ⟨rfl, behind⟩ := same
            refine later behind frames outers ⟨rfl, ?_⟩
            have close : level'.close.bare = level.close.bare := levels.close
            simp only [Option.map_some, close]
          | none =>
            refine (mirrors_readClassItem _ _ place).bind ?_ ?_
            · rintro ⟨item, t⟩ ⟨item', t'⟩ ⟨same, behind⟩
              exact later behind frames outers (levels.push same)
            · rintro ⟨item, t⟩ beyond r read
              exact readClass_over (Over.skip beyond) _ _ _ _ r read

theorem mirrors_readBracketed (place : Enclosed n s s') (here : s.char? = some '[') :
    Mirrors (Alongside SameExpr (n - 1)) (fun _ => False) (readBracketed s)
      (readBracketed s') := by
  have exact_place : Enclosed s.rest.length s s' := { place with le := Nat.le_refl _ }
  obtain ⟨t, rest, rest'⟩ := place.cons here
  have length : s.rest.length = t.length + 1 := by rw [rest, List.length_cons]
  have length' : s'.rest.length = t.length + 2 := by
    rw [rest', List.length_cons, List.length_append, List.length_singleton]
  have le := place.le
  unfold readBracketed
  refine (mirrors_openClass exact_place here).bind ?_ ?_
  · rintro ⟨opening, negated, items, t⟩ ⟨opening', _, items', t'⟩ ⟨rfl, same, inside⟩
    have levels : SameLevel ⟨t.offset, items, none⟩ ⟨t'.offset, items', none⟩ := ⟨same, rfl⟩
    refine Mirrors.widen (mirrors_readClass inside ?_ ?_ ⟨rfl, rfl, rfl⟩ .nil levels) ?_
    · omega
    · omega
    · omega
  · rintro ⟨opening, negated, items, t⟩ beyond r read
    exact readClass_over (Over.skip beyond) _ _ _ _ r read

end Storygraph.Pattern
