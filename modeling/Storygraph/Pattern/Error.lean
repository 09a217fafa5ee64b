import Storygraph.Text.Decimal
import Storygraph.Pattern.Expr

/-!
# Pattern errors

Why a pattern is refused, where, and the report that shows the place under the pattern's text.
-/

namespace Storygraph.Pattern

inductive Fault where
  | classEscape | classRangeOrder | classRangeBound | classUnclosed
  | decimalTooLarge | hexEmpty | hexNotScalar | hexDigit
  | escapeAtEnd | escapeUnknown
  | flagDangling | flagTwice | negationTwice | flagsAtEnd | flagUnknown
  | nameTwice | nameEmpty | nameCharacter | nameAtEnd
  | groupUnclosed | groupUnopened
  | tooDeep (limit : Nat)
  | countOrder | countEmpty | countUnclosed | nothingToRepeat
  | boundaryUnclosed | boundaryUnknown | boundaryAtEnd
  | propertyName | backreference | lookAround
  | unicodeOff | invalidUtf8 | propertyUnknown | propertyValueUnknown
deriving DecidableEq, Repr

def Fault.message : Fault → String
  | classEscape => "invalid escape sequence found in character class"
  | classRangeOrder => "invalid character class range, the start must be <= the end"
  | classRangeBound => "invalid range boundary, must be a literal"
  | classUnclosed => "unclosed character class"
  | decimalTooLarge => "decimal literal invalid"
  | hexEmpty => "hexadecimal literal empty"
  | hexNotScalar => "hexadecimal literal is not a Unicode scalar value"
  | hexDigit => "invalid hexadecimal digit"
  | escapeAtEnd => "incomplete escape sequence, reached end of pattern prematurely"
  | escapeUnknown => "unrecognized escape sequence"
  | flagDangling => "dangling flag negation operator"
  | flagTwice => "duplicate flag"
  | negationTwice => "flag negation operator repeated"
  | flagsAtEnd => "expected flag but got end of regex"
  | flagUnknown => "unrecognized flag"
  | nameTwice => "duplicate capture group name"
  | nameEmpty => "empty capture group name"
  | nameCharacter => "invalid capture group character"
  | nameAtEnd => "unclosed capture group name"
  | groupUnclosed => "unclosed group"
  | groupUnopened => "unopened group"
  | tooDeep limit =>
    "exceed the maximum number of nested parentheses/brackets (" ++
      String.ofList (Text.ofNat limit) ++ ")"
  | countOrder => "invalid repetition count range, the start must be <= the end"
  | countEmpty => "repetition quantifier expects a valid decimal"
  | countUnclosed => "unclosed counted repetition"
  | nothingToRepeat => "repetition operator missing expression"
  | boundaryUnclosed =>
    "special word boundary assertion is either unclosed or contains an invalid character"
  | boundaryUnknown =>
    "unrecognized special word boundary assertion, valid choices are: " ++
      "start, end, start-half or end-half"
  | boundaryAtEnd =>
    "found either the beginning of a special word boundary or a bounded repetition on a \\b " ++
      "with an opening brace, but no closing brace"
  | propertyName => "invalid Unicode character class"
  | backreference => "backreferences are not supported"
  | lookAround => "look-around, including look-ahead and look-behind, is not supported"
  | unicodeOff => "Unicode not allowed here"
  | invalidUtf8 => "pattern can match invalid UTF-8"
  | propertyUnknown => "Unicode property not found"
  | propertyValueUnknown => "Unicode property value not found"

/-- A fault at a place. `related` is the place that it conflicts with, if there is one. -/
structure Error where
  fault : Fault
  span : Span
  related : Option Span
deriving DecidableEq, Repr

namespace Error

/-- A line and a column, both counted from one. -/
structure Place where
  line : Nat
  column : Nat

def placeAt (pattern : Text) (offset : Nat) : Place :=
  let before := pattern.take offset
  ⟨Text.lineFeeds before + 1, (before.reverse.takeWhile (· ≠ '\n')).length + 1⟩

def inOrder (a b : Span) : List Span :=
  if a.start < b.start ∨ (a.start = b.start ∧ a.stop ≤ b.stop) then [a, b] else [b, a]

def spans (e : Error) : List Span :=
  match e.related with
  | none => [e.span]
  | some other => inOrder e.span other

/-- Extends a row of carets by those under a stretch of columns, at least one. -/
def mark (row : Text) (first past : Nat) : Text :=
  row ++ List.replicate (first - 1 - row.length) ' ' ++ List.replicate (max 1 (past - first)) '^'

/-- The lines of a pattern as they are shown: a carriage return at the end of a line is left
out, and so is an empty last line. -/
def shownLines (pattern : Text) : List Text :=
  let withoutReturn (line : Text) : Text :=
    if line.getLast? = some '\r' then line.dropLast else line
  let pieces := pattern.lines
  let ended := pieces.dropLast.map withoutReturn
  match pieces.getLast? with
  | none | some [] => ended
  | some last => ended ++ [last]

/-- A pattern's lines with carets under the spans that lie on one line. -/
def notated (pattern : Text) (e : Error) : Text :=
  let shown := shownLines pattern
  let count := if pattern.getLast? = some '\n' then shown.length + 1 else shown.length
  let width := if count ≤ 1 then 0 else (Text.ofNat count).length
  let places := e.spans.map fun s => (placeAt pattern s.start, placeAt pattern s.stop)
  (shown.zipIdx 1).flatMap fun (line, number) =>
    let label := if width = 0 then "    ".toList
      else (Text.ofNat number).padLeft width ++ ": ".toList
    let here := places.filter fun (a, b) => a.line = number ∧ b.line = number
    let carets := here.foldl (fun row (a, b) => mark row a.column b.column) []
    let margin := if width = 0 then 4 else width + 2
    label ++ line ++ ['\n'] ++
      if here.isEmpty then [] else List.replicate margin ' ' ++ carets ++ ['\n']

/-- Where each span over several lines begins and ends. -/
def multiLineNotes (pattern : Text) (e : Error) : List Text :=
  e.spans.filterMap fun s =>
    let a := placeAt pattern s.start
    let b := placeAt pattern s.stop
    if a.line = b.line then none
    else some <|
      "on line ".toList ++ .ofNat a.line ++ " (column ".toList ++ .ofNat a.column ++
        ") through line ".toList ++ .ofNat b.line ++ " (column ".toList ++ .ofNat (b.column - 1) ++
        ")".toList

/-- The report of an error: the pattern with the place marked, and the fault. A pattern of
several lines stands between two rules. -/
def report (pattern : Text) (e : Error) : Text :=
  let rule := List.replicate 79 '~' ++ ['\n']
  let body :=
    if '\n' ∈ pattern then
      let notes := multiLineNotes pattern e
      rule ++ notated pattern e ++ rule ++
        if notes.isEmpty then [] else Text.join ['\n'] notes ++ ['\n']
    else notated pattern e
  "regex parse error:\n".toList ++ body ++ "error: ".toList ++ e.fault.message.toList

end Error

end Storygraph.Pattern
