import Storygraph.Text.Decimal
import Storygraph.Pattern.Source

/-!
# Escapes

The parts of a pattern that begin with a backslash. Each reader starts at the character after
the backslash, whose offset is `start`.
-/

namespace Storygraph.Pattern

def scalar? (n : Nat) : Option Char := if n.isValidChar then some (Char.ofNat n) else none

def hexLiteral (span digits : Span) (byte : Bool) (ds : Text) : Except Error Expr :=
  match (Text.hexToNat? ds).bind scalar? with
  | some c => .ok (.literal ⟨span, c, byte⟩)
  | none => refuse .hexNotScalar digits

def readHexDigits : (n : Nat) → Source → Except Error (Text × Source)
  | 0, s => .ok ([], s)
  | n + 1, s =>
    match s.char? with
    | none => refuse .escapeAtEnd s.here
    | some c =>
      if (hexValue? c).isSome then do
        let (ds, s) ← readHexDigits n s.step
        return (c :: ds, s)
      else refuse .hexDigit s.charSpan

def readHexBraces (start : Nat) (s : Source) : Except Error (Expr × Source) :=
  let ahead := s.next.places
  let digits := ahead.takeWhile fun p => p.char? ≠ some '}'
  let close := s.first (ahead.dropWhile fun p => p.char? ≠ some '}')
  let ds := digits.filterMap Source.char?
  match digits.find? fun p => (p.char?.bind hexValue?).isNone with
  | some p => refuse .hexDigit p.charSpan
  | none =>
    if close.char? = none then refuse .escapeAtEnd (close.since s.offset)
    else
      let after := close.step
      if ds = [] then refuse .hexEmpty (after.since s.offset)
      else do
        let e ← hexLiteral (after.since start) (close.since (s.offset + 1)) false ds
        return (e, after)

/-- Reads a character given by its code point: two, four or eight digits after `x`, `u` or `U`,
or any number of them between braces. -/
def readHex (start : Nat) (kind : Char) (s : Source) : Except Error (Expr × Source) :=
  let s := s.step
  match s.char? with
  | none => refuse .escapeAtEnd s.here
  | some '{' => readHexBraces start s
  | some _ => do
    let count := if kind = 'x' then 2 else if kind = 'u' then 4 else 8
    let (ds, after) ← readHexDigits count s
    let e ← hexLiteral (after.since start) (after.since s.offset) (kind = 'x') ds
    return (e, after)

/-- A property query and whether it asks for the complement, from the text between braces. -/
def propertyQuery (t : Text) : Bool × PropertyQuery :=
  match t.cutAt? "!=".toList with
  | some (property, value) => (true, .value property value)
  | none =>
    match (t.cutAt? [':']).or (t.cutAt? ['=']) with
    | some (property, value) => (false, .value property value)
    | none => (false, .name t)

/-- Reads the name of a character property: one letter, or any text between braces. -/
def readProperty (start : Nat) (negated : Bool) (s : Source) : Except Error (Expr × Source) :=
  let s := s.step
  match s.char? with
  | none => refuse .escapeAtEnd s.here
  | some '{' =>
    let ahead := s.next.places
    let close := s.first (ahead.dropWhile fun p => p.char? ≠ some '}')
    if close.char? = none then refuse .escapeAtEnd close.here
    else
      let name := (ahead.takeWhile fun p => p.char? ≠ some '}').filterMap Source.char?
      let (unequal, query) := propertyQuery name
      .ok (.property (close.next.since start) (negated != unequal) query, close.next)
  | some '\\' => refuse .propertyName s.charSpan
  | some c => .ok (.property (s.step.since start) negated (.name [c]), s.step)

def isBoundaryNameChar (c : Char) : Bool := isAsciiLetter c || c == '-'

def boundaryNamed? (name : Text) : Option Anchor :=
  match String.ofList name with
  | "start" => some .wordStart
  | "end" => some .wordEnd
  | "start-half" => some .wordStartHalf
  | "end-half" => some .wordEndHalf
  | _ => none

/-- Reads the name of a special word boundary, from its opening brace. A brace that no name
follows belongs to a repetition. -/
def readBoundary (start : Nat) (s : Source) : Except Error (Option (Anchor × Source)) :=
  let inner := s.step
  match inner.char? with
  | none => refuse .boundaryAtEnd (inner.since start)
  | some c =>
    if !isBoundaryNameChar c then .ok none
    else
      let named (p : Source) : Bool := p.char?.any isBoundaryNameChar
      let close := s.first (inner.places.dropWhile named)
      if close.char? ≠ some '}' then refuse .boundaryUnclosed (close.since s.offset)
      else
        match boundaryNamed? ((inner.places.takeWhile named).filterMap Source.char?) with
        | some anchor => .ok (some (anchor, close.next))
        | none => refuse .boundaryUnknown (close.since inner.offset)

def shortClass? : Char → Option (Bool × ShortClass)
  | 'd' => some (false, .digit)
  | 's' => some (false, .blank)
  | 'w' => some (false, .word)
  | 'D' => some (true, .digit)
  | 'S' => some (true, .blank)
  | 'W' => some (true, .word)
  | _ => none

/-- The control character that a letter after a backslash stands for. -/
def controlChar? : Char → Option Char
  | 'a' => some '\x07'
  | 'f' => some '\x0C'
  | 't' => some '\t'
  | 'n' => some '\n'
  | 'r' => some '\r'
  | 'v' => some '\x0B'
  | _ => none

def escapedAnchor? : Char → Option Anchor
  | 'A' => some .textStart
  | 'z' => some .textEnd
  | 'b' => some .wordBoundary
  | 'B' => some .notWordBoundary
  | '<' => some .wordStart
  | '>' => some .wordEnd
  | _ => none

def isEscapable (c : Char) : Bool :=
  c.toNat < 128 && !(isAsciiLetter c || isAsciiDigit c || c == '<' || c == '>')

def readEscape (s : Source) : Except Error (Expr × Source) :=
  let start := s.offset
  let s := s.next
  match s.char? with
  | none => refuse .escapeAtEnd (s.since start)
  | some c =>
    let span := s.next.since start
    if isAsciiDigit c then refuse .backreference span
    else if c = 'x' ∨ c = 'u' ∨ c = 'U' then readHex start c s
    else if c = 'p' ∨ c = 'P' then readProperty start (c = 'P') s
    else if isEscapable c then .ok (.literal ⟨span, c, false⟩, s.next)
    else
      match shortClass? c, controlChar? c, escapedAnchor? c with
      | some (negated, cls), _, _ => .ok (.short span negated cls, s.next)
      | none, some control, _ => .ok (.literal ⟨span, control, false⟩, s.next)
      | none, none, some anchor =>
        if c = 'b' ∧ s.next.char? = some '{' then do
          match ← readBoundary start s.next with
          | some (special, after) => return (.anchor (after.since start) special, after)
          | none => return (.anchor span anchor, s.next)
        else .ok (.anchor span anchor, s.next)
      | none, none, none => refuse .escapeUnknown span

end Storygraph.Pattern
