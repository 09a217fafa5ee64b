import Storygraph.Json.Error

/-!
# Reading position in a JSON text
-/

namespace Storygraph.Json

/-- What is left of a text to read, with the place reached and the length of the whole text. -/
structure Source where
  size : Nat
  place : Place
  rest : Text

namespace Source

def start (t : Text) : Source := ⟨t.length, ⟨1, 0⟩, t⟩

def placeAfter (p : Place) (c : Char) : Place :=
  if c = '\n' then ⟨p.line + 1, 0⟩ else ⟨p.line, p.column + c.utf8Size⟩

def next (s : Source) : Source :=
  match s.rest with
  | [] => s
  | c :: t => ⟨s.size, placeAfter s.place c, t⟩

def drop : Nat → Source → Source
  | 0, s => s
  | n + 1, s => drop n s.next

/-- The place `n` bytes ahead. It may lie inside a character. -/
def placeAhead (n : Nat) (p : Place) : Text → Place
  | [] => p
  | c :: t =>
    if c.utf8Size ≤ n then placeAhead (n - c.utf8Size) (placeAfter p c) t
    else ⟨p.line, p.column + n⟩

/-- The place one byte ahead, or here at the end. -/
def ahead (s : Source) : Place := placeAhead 1 s.place s.rest

def atEnd (s : Source) : Source := ⟨s.size, s.rest.foldl placeAfter s.place, []⟩

def isSpace (c : Char) : Bool := c == ' ' || c == '\n' || c == '\t' || c == '\r'

def skipWhile (p : Char → Bool) (s : Source) : Source := s.drop (s.rest.takeWhile p).length

def skipSpace (s : Source) : Source := s.skipWhile isSpace

@[simp] theorem rest_next (s : Source) : s.next.rest = s.rest.tail := by
  unfold next
  split <;> simp [*]

@[simp] theorem rest_drop (n : Nat) (s : Source) : (s.drop n).rest = s.rest.drop n := by
  induction n generalizing s with
  | zero => rfl
  | succ n ih => simp [drop, ih]

end Source

/-- Why reading stops. A fault that is noticed in a value as a whole has no place until the
innermost list or record around it has been left. -/
inductive Failure where
  | placed (e : Error)
  | floating (fault : Fault) (s : Source)

abbrev Reader := StateT Source (Except Failure)

namespace Reader

variable {α : Type}

def failHere (fault : Fault) : Reader α := fun s => .error (.placed ⟨fault, s.place⟩)

/-- Refuses the text at the next byte. -/
def failAhead (fault : Fault) : Reader α := fun s => .error (.placed ⟨fault, s.ahead⟩)

/-- Refuses the text at the end of what is being read. -/
def failAround (fault : Fault) : Reader α := fun s => .error (.floating fault s)

def peek? : Reader (Option Char) := fun s => .ok (s.rest.head?, s)

def advance : Reader Unit := fun s => .ok ((), s.next)

def skipSpace : Reader Unit := fun s => .ok ((), s.skipSpace)

def token? : Reader (Option Char) := do
  skipSpace
  peek?

/-- The length of the whole text: no more characters than that are left. -/
def size : Reader Nat := fun s => .ok (s.size, s)

/-- Reads the rest of a fixed word. -/
def readWord : List Char → Reader Unit
  | [] => pure ()
  | c :: cs => do
    match ← peek? with
    | none => failHere .endInValue
    | some d =>
      if d = c then
        advance
        readWord cs
      else failAhead .expectedIdent

end Reader

end Storygraph.Json
