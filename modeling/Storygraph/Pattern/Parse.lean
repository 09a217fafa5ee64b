import Storygraph.Pattern.Bracket
import Storygraph.Pattern.Group

/-!
# Reading patterns

`parse` reads a pattern from left to right and keeps the groups that are open on a stack. The
first fault met is the one reported.
-/

namespace Storygraph.Pattern

structure Level where
  /-- Where the first alternative begins. -/
  first : Nat
  /-- The finished alternatives, last first. -/
  branches : List Expr
  /-- Where the current alternative begins. -/
  start : Nat
  /-- The parts of the current alternative, last first. -/
  parts : List Expr

/-- An open group: its parenthesis, the flags it switches, the level outside, and whether that
level was in verbose mode. -/
structure Frame where
  parenthesis : Span
  switches : Switches
  outer : Level
  verbose : Bool

structure Progress where
  level : Level
  frames : List Frame
  names : GroupNames

namespace Level

def empty (offset : Nat) : Level := ⟨offset, [], offset, []⟩

def branch (l : Level) (stop : Nat) : Expr :=
  match l.parts.reverse with
  | [] => .empty ⟨l.start, stop⟩
  | [part] => part
  | parts => .concat ⟨l.start, stop⟩ parts

def close (l : Level) (stop : Nat) : Expr :=
  match l.branches with
  | [] => l.branch stop
  | branches => .alternation ⟨l.first, stop⟩ (branches.reverse ++ [l.branch stop])

def push (l : Level) (part : Expr) : Level := { l with parts := part :: l.parts }

end Level

/-- The part that a repetition operator applies to, and the level without it. -/
def takeOperand (l : Level) (s : Source) : Except Error (Expr × Level) :=
  match l.parts with
  | [] | .empty _ :: _ | .switch _ _ :: _ => refuse .nothingToRepeat s.here
  | part :: parts => .ok (part, { l with parts })

def skipLazy (s : Source) : Source := if s.char? = some '?' then s.next else s

def readRepetition (least : Nat) (most : Option Nat) (l : Level) (s : Source) :
    Except Error (Level × Source) := do
  let (body, l) ← takeOperand l s
  let after := skipLazy s.next
  return (l.push (.repetition ⟨body.span.start, after.offset⟩ least most body), after)

def maxCount : Nat := 4294967295

/-- Reads a decimal count. The position moves on even where the count is refused. -/
def readCount (s : Source) : Except Error Nat × Source :=
  let s := s.skipBlanks
  let isDigit (p : Source) : Bool := p.char?.any isAsciiDigit
  let digits := (s.places.takeWhile isDigit).filterMap Source.char?
  let after := s.first (s.places.dropWhile isDigit)
  let count := match Text.toNat? digits with
    | none => refuse .countEmpty (after.since s.offset)
    | some n => if n ≤ maxCount then .ok n else refuse .decimalTooLarge (after.since s.offset)
  (count, after.skipBlanks)

/-- Reads what follows the first count of a repetition: the second count, or none for an open
end. `least` is the first count as it was read, and `start` the offset of the opening brace. -/
def readSecondCount (start : Nat) (least : Except Error Nat) (s : Source) :
    Except Error (Nat × Option Nat × Source) :=
  let bound := s.step
  match s.char?, bound.char? with
  | some ',', none => refuse .countUnclosed (bound.since start)
  | some ',', some '}' => least.map fun n => (n, none, bound)
  | some ',', some _ => do
    let least ← least
    let (most, after) := readCount bound
    return (least, some (← most), after)
  | _, _ => least.map fun n => (n, some n, s)

def readCounts (s : Source) : Except Error (Nat × Option Nat × Source) := do
  let inner := s.step
  if inner.char? = none then refuse .countUnclosed (inner.since s.offset)
  else
    let (least, after) := readCount inner
    if after.char? = none then refuse .countUnclosed (after.since s.offset)
    else
      let (least, most, close) ← readSecondCount s.offset least after
      if close.char? = some '}' then return (least, most, close)
      else refuse .countUnclosed (close.since s.offset)

def readCountedRepetition (l : Level) (s : Source) : Except Error (Level × Source) := do
  let (body, l) ← takeOperand l s
  let (least, most, close) ← readCounts s
  let after := skipLazy close.step
  if most.any (· < least) then refuse .countOrder (after.since s.offset)
  else return (l.push (.repetition ⟨body.span.start, after.offset⟩ least most body), after)

/-- Reads a single character that is no operator, or an escape. -/
def readAtom (s : Source) : Except Error (Expr × Source) :=
  match s.char? with
  | some '\\' => readEscape s
  | some '.' => .ok (.dot s.charSpan, s.next)
  | some '^' => .ok (.anchor s.charSpan .lineStart, s.next)
  | some '$' => .ok (.anchor s.charSpan .lineEnd, s.next)
  | some c => .ok (.literal ⟨s.charSpan, c, false⟩, s.next)
  | none => .ok (.empty s.here, s)

def openGroup (p : Progress) (s : Source) : Except Error (Progress × Source) := do
  let (opening, names, after) ← readOpening p.names s
  match opening with
  | .switch span switches =>
    let verbose := (switches.find? .verbose).getD s.verbose
    return ({ p with level := p.level.push (.switch span switches), names }, { after with verbose })
  | .group parenthesis switches =>
    let verbose := (switches.find? .verbose).getD s.verbose
    let frame : Frame := ⟨parenthesis, switches, p.level, s.verbose⟩
    return (⟨.empty after.offset, frame :: p.frames, names⟩, { after with verbose })

def closeGroup (p : Progress) (s : Source) : Except Error (Progress × Source) :=
  match p.frames with
  | [] => refuse .groupUnopened s.charSpan
  | frame :: frames =>
    let after := { s.next with verbose := frame.verbose }
    let span := after.since frame.parenthesis.start
    let group := .group span frame.switches (p.level.close s.offset)
    .ok ({ p with level := frame.outer.push group, frames }, after)

def openBranch (p : Progress) (s : Source) : Progress × Source :=
  let l := p.level
  let branches := l.branch s.offset :: l.branches
  ({ p with level := { l with branches, start := s.next.offset, parts := [] } }, s.next)

/-- Reads the part that begins with the character `c`, which comes next. -/
def readPart (p : Progress) (s : Source) (c : Char) : Except Error (Progress × Source) := do
  let onLevel (r : Level × Source) : Progress × Source := ({ p with level := r.1 }, r.2)
  match c with
  | '(' => openGroup p s
  | ')' => closeGroup p s
  | '|' => return openBranch p s
  | '?' => return onLevel (← readRepetition 0 (some 1) p.level s)
  | '*' => return onLevel (← readRepetition 0 none p.level s)
  | '+' => return onLevel (← readRepetition 1 none p.level s)
  | '{' => return onLevel (← readCountedRepetition p.level s)
  | '[' =>
    let (cls, after) ← readBracketed s
    return onLevel (p.level.push cls, after)
  | _ =>
    let (atom, after) ← readAtom s
    return onLevel (p.level.push atom, after)

def readParts : (fuel : Nat) → Progress → Source → Except Error (Progress × Source)
  | 0, p, s => .ok (p, s)
  | fuel + 1, p, s => do
    let s := s.skip
    match s.char? with
    | none => return (p, s)
    | some c =>
      let (p, s) ← readPart p s c
      readParts fuel p s

/-- How deeply groups, classes and repetitions may be nested. -/
def maxDepth : Nat := 250

mutual

/-- The first class expression nested more than `room` deep. -/
def ClassExpr.tooDeep? (room : Nat) : ClassExpr → Option Span
  | .union span items =>
    match room with
    | 0 => some span
    | room + 1 => ClassExpr.anyTooDeep? room items
  | .binary span _ left right =>
    match room with
    | 0 => some span
    | room + 1 => (left.tooDeep? room).or (right.tooDeep? room)
  | .bracketed span _ body =>
    match room with
    | 0 => some span
    | room + 1 => body.tooDeep? room
  | _ => none

/-- The first of some class expressions nested more than `room` deep. -/
def ClassExpr.anyTooDeep? (room : Nat) : List ClassExpr → Option Span
  | [] => none
  | e :: es => (e.tooDeep? room).or (ClassExpr.anyTooDeep? room es)

end

mutual

/-- The first part of a pattern nested more than `room` deep. -/
def Expr.tooDeep? (room : Nat) : Expr → Option Span
  | .bracketed span _ body =>
    match room with
    | 0 => some span
    | room + 1 => body.tooDeep? room
  | .repetition span _ _ body | .group span _ body =>
    match room with
    | 0 => some span
    | room + 1 => body.tooDeep? room
  | .alternation span parts | .concat span parts =>
    match room with
    | 0 => some span
    | room + 1 => Expr.anyTooDeep? room parts
  | _ => none

/-- The first of some parts nested more than `room` deep. -/
def Expr.anyTooDeep? (room : Nat) : List Expr → Option Span
  | [] => none
  | e :: es => (e.tooDeep? room).or (Expr.anyTooDeep? room es)

end

def parse (pattern : Text) : Except Error Expr := do
  let start : Progress := ⟨.empty 0, [], []⟩
  let (p, s) ← readParts (pattern.length + 1) start ⟨0, pattern, false⟩
  match p.frames with
  | frame :: _ => refuse .groupUnclosed frame.parenthesis
  | [] =>
    let e := p.level.close s.offset
    match e.tooDeep? maxDepth with
    | some span => refuse (.tooDeep maxDepth) span
    | none => return e

end Storygraph.Pattern
