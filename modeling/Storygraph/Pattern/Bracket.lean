import Storygraph.Pattern.Escape

/-!
# Bracketed classes

A class holds literals, ranges, escapes, named classes and further classes. `&&`, `--` and `~~`
stand between the unions of what precedes and what follows them, and group to the left.
-/

namespace Storygraph.Pattern

/-- The operand that is being read inside a pair of brackets. -/
structure ClassLevel where
  /-- Where the operand begins. -/
  start : Nat
  /-- What it holds so far, last first. -/
  items : List ClassExpr
  /-- The operator before it, with the left operand. -/
  pending : Option (SetOp × ClassExpr)

/-- An open pair of brackets, and the operand outside that it will be part of. -/
structure ClassFrame where
  /-- The opening bracket with the literals that directly follow it. -/
  opening : Span
  negated : Bool
  outer : ClassLevel

namespace ClassLevel

def operand (l : ClassLevel) : ClassExpr :=
  match l.items.reverse, l.items with
  | [], _ => .empty ⟨l.start, l.start⟩
  | [item], _ => item
  | first :: rest, last :: _ => .union ⟨first.span.start, last.span.stop⟩ (first :: rest)
  | first :: rest, [] => .union first.span (first :: rest)

def close (l : ClassLevel) : ClassExpr :=
  match l.pending with
  | none => l.operand
  | some (op, left) => .binary ⟨left.span.start, l.operand.span.stop⟩ op left l.operand

def push (l : ClassLevel) (item : ClassExpr) : ClassLevel := { l with items := item :: l.items }

end ClassLevel

def namedClass? (name : Text) : Option NamedClass :=
  match String.ofList name with
  | "alnum" => some .alnum
  | "alpha" => some .alpha
  | "ascii" => some .ascii
  | "blank" => some .blank
  | "cntrl" => some .cntrl
  | "digit" => some .digit
  | "graph" => some .graph
  | "lower" => some .lower
  | "print" => some .print
  | "punct" => some .punct
  | "space" => some .space
  | "upper" => some .upper
  | "word" => some .word
  | "xdigit" => some .xdigit
  | _ => none

/-- Reads a class such as `[:alpha:]` or `[:^alpha:]`, if one stands here. -/
def readNamedClass? (s : Source) : Option (ClassExpr × Source) := do
  let inner ← s.take? "[:"
  let (negated, inner) := match inner.take? "^" with
    | some after => (true, after)
    | none => (false, inner)
  let name := inner.rest.takeWhile (· ≠ ':')
  let after ← (inner.drop name.length).take? ":]"
  let cls ← namedClass? name
  return (.named (after.since s.offset) negated cls, after)

/-- Reads the opening of a class: a `^`, then any number of `-`, or one `]`, as literals. -/
def openClass (s : Source) : Except Error (Span × Bool × List ClassExpr × Source) := do
  let start := s.offset
  let s := s.step
  let negated := s.char? = some '^'
  let s := if negated then s.step else s
  let ahead := s.places
  let dashes := ahead.takeWhile fun p => p.char? = some '-'
  let after := s.first (ahead.dropWhile fun p => p.char? = some '-')
  let literals := dashes.map fun p => .literal ⟨p.charSpan, '-', false⟩
  if after.char? = none then
    refuse .classUnclosed (if dashes.isEmpty then after.since start else ⟨start, start⟩)
  else if dashes.isEmpty && after.char? = some ']' then
    let past := after.step
    if past.char? = none then refuse .classUnclosed (past.since start)
    else return (past.since start, negated, [.literal ⟨after.charSpan, ']', false⟩], past)
  else return (after.since start, negated, literals.reverse, after)

def readClassAtom (s : Source) : Except Error (Expr × Source) :=
  match s.char? with
  | some '\\' => readEscape s
  | some c => .ok (.literal ⟨s.charSpan, c, false⟩, s.next)
  | none => refuse .classUnclosed s.here

def classItem : Expr → Except Error ClassExpr
  | .literal lit => .ok (.literal lit)
  | .short span negated cls => .ok (.short span negated cls)
  | .property span negated query => .ok (.property span negated query)
  | e => refuse .classEscape e.span

def rangeBound : Expr → Except Error Literal
  | .literal lit => .ok lit
  | e => refuse .classRangeBound e.span

/-- Reads a character, an escape or a range. `unclosed` is the error for a pattern that ends
here. -/
def readClassItem (unclosed : Span) (s : Source) : Except Error (ClassExpr × Source) := do
  let (first, s) ← readClassAtom s
  let s := s.skip
  if s.char? = none then refuse .classUnclosed unclosed
  else if s.char? ≠ some '-' || s.peekSkip? = some ']' || s.peekSkip? = some '-' then
    return (← classItem first, s)
  else
    let s := s.step
    if s.char? = none then refuse .classUnclosed unclosed
    else
      let (last, s) ← readClassAtom s
      let low ← rangeBound first
      let high ← rangeBound last
      if low.char ≤ high.char then return (.range low high, s)
      else refuse .classRangeOrder ⟨first.span.start, last.span.stop⟩

def setOp? (s : Source) : Option (SetOp × Source) :=
  ((s.take? "&&").map (.intersection, ·)).or <|
    ((s.take? "--").map (.difference, ·)).or ((s.take? "~~").map (.symmetricDifference, ·))

/-- Reads what is left of a class whose brackets `frame`, inside those of `outer`, are open. -/
def readClass : (fuel : Nat) → (frame : ClassFrame) → (outer : List ClassFrame) → ClassLevel →
    Source → Except Error (Expr × Source)
  | 0, frame, _, _, _ => refuse .classUnclosed frame.opening
  | fuel + 1, frame, outer, level, s => do
    let s := s.skip
    match s.char? with
    | none => refuse .classUnclosed frame.opening
    | some '[' =>
      match readNamedClass? s with
      | some (item, s) => readClass fuel frame outer (level.push item) s
      | none =>
        let (opening, negated, items, s) ← openClass s
        let inner : ClassLevel := ⟨s.offset, items, none⟩
        readClass fuel ⟨opening, negated, level⟩ (frame :: outer) inner s
    | some ']' =>
      let span := s.next.since frame.opening.start
      match outer with
      | [] => return (.bracketed span frame.negated level.close, s.next)
      | around :: outer =>
        let item := ClassExpr.bracketed span frame.negated level.close
        readClass fuel around outer (frame.outer.push item) s.next
    | some _ =>
      match setOp? s with
      | some (op, s) => readClass fuel frame outer ⟨s.offset, [], some (op, level.close)⟩ s
      | none =>
        let (item, s) ← readClassItem frame.opening s
        readClass fuel frame outer (level.push item) s

/-- Reads a class, from its opening bracket. Each step of the reading takes a character. -/
def readBracketed (s : Source) : Except Error (Expr × Source) := do
  let (opening, negated, items, inner) ← openClass s
  let level : ClassLevel := ⟨inner.offset, items, none⟩
  readClass (s.rest.length + 1) ⟨opening, negated, ⟨s.offset, [], none⟩⟩ [] level inner

end Storygraph.Pattern
