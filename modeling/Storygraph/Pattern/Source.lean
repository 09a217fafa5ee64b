import Storygraph.Text.Blank
import Storygraph.Pattern.Error

/-!
# Reading position in a pattern

In verbose mode blanks and comments between the parts of a pattern have no meaning, so moving on
may pass over several characters at once.
-/

namespace Storygraph.Pattern

structure Source where
  offset : Nat
  rest : Text
  verbose : Bool

namespace Source

def char? (s : Source) : Option Char := s.rest.head?

def next (s : Source) : Source :=
  match s.rest with
  | [] => s
  | _ :: t => { s with offset := s.offset + 1, rest := t }

def drop (n : Nat) (s : Source) : Source := Nat.repeat next n s

/-- The places of a text where verbose mode sees a character. A comment runs from `#` to the end
of its line. -/
def visible (inComment : Bool) (offset : Nat) : Text → List Source
  | [] => []
  | c :: t =>
    if inComment then visible (c ≠ '\n') (offset + 1) t
    else if isBlank c then visible false (offset + 1) t
    else if c = '#' then visible true (offset + 1) t
    else ⟨offset, c :: t, true⟩ :: visible false (offset + 1) t

def every (offset : Nat) : Text → List Source
  | [] => []
  | c :: t => ⟨offset, c :: t, false⟩ :: every (offset + 1) t

/-- The places ahead at which a character counts. -/
def places (s : Source) : List Source :=
  if s.verbose then visible false s.offset s.rest else every s.offset s.rest

def atEnd (s : Source) : Source := { s with offset := s.offset + s.rest.length, rest := [] }

def first (s : Source) (ahead : List Source) : Source := ahead.head?.getD s.atEnd

/-- The number of characters of blanks and comments at the start of a text. -/
def hiddenLength (inComment : Bool) : Text → Nat
  | [] => 0
  | c :: t =>
    if inComment then hiddenLength (c ≠ '\n') t + 1
    else if isBlank c then hiddenLength false t + 1
    else if c = '#' then hiddenLength true t + 1
    else 0

/-- Moves past blanks and comments in verbose mode. -/
def skip (s : Source) : Source :=
  if s.verbose then s.drop (hiddenLength false s.rest) else s

def step (s : Source) : Source := s.next.skip

def skipBlanks (s : Source) : Source := s.drop (s.rest.takeWhile isBlank).length

def take? (word : String) (s : Source) : Option Source :=
  (Text.dropPrefix? word.toList s.rest).map fun t =>
    { s with offset := s.offset + word.toList.length, rest := t }

/-- The character after the next one. -/
def peek? (s : Source) : Option Char := s.rest[1]?

/-- The first character of a text that is neither blank nor the `#` before a comment; if there is
none, the first character. -/
def peekThrough (t : Text) : Option Char :=
  let ahead := t.dropWhile isBlank
  let ahead := match ahead with
    | '#' :: rest => rest.dropWhile isBlank
    | _ => ahead
  (ahead.head?).or t.head?

/-- The character after the next one, where verbose mode looks through blanks. -/
def peekSkip? (s : Source) : Option Char :=
  if s.verbose then peekThrough s.rest.tail else s.peek?

def charSpan (s : Source) : Span := ⟨s.offset, s.next.offset⟩

def here (s : Source) : Span := ⟨s.offset, s.offset⟩

def since (start : Nat) (s : Source) : Span := ⟨start, s.offset⟩

end Source

def refuse {α : Type} (fault : Fault) (span : Span) : Except Error α :=
  .error ⟨fault, span, none⟩

/-- Refuses a pattern for a conflict with an earlier place. -/
def refuseTwice {α : Type} (fault : Fault) (span earlier : Span) : Except Error α :=
  .error ⟨fault, span, some earlier⟩

end Storygraph.Pattern
