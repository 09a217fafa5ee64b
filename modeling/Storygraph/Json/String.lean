import Storygraph.Json.Source

/-!
# Reading JSON strings

A string begins after its opening quotation mark here. `readText` gives its characters, and
`skipText` passes over it with fewer demands on its escapes.
-/

namespace Storygraph.Json

/-- The code unit of four hexadecimal digits, which take four bytes. -/
def hexUnit (s : Source) : Except Failure Nat :=
  let digits := s.rest.take 4
  if Text.byteSize digits < 4 then .error (.placed ⟨.endInText, s.atEnd.place⟩)
  else
    match Text.readDigits? hexValue? 16 digits with
    | some n => .ok n
    | none => .error (.placed ⟨.invalidEscape, Source.placeAhead 4 s.place s.rest⟩)

def isLeading (n : Nat) : Bool := 0xD800 ≤ n && n ≤ 0xDBFF

def isTrailing (n : Nat) : Bool := 0xDC00 ≤ n && n ≤ 0xDFFF

/-- Checks that a character comes next, as the escape of a second half begins. -/
def expectInPair (c : Char) (s : Source) : Except Failure Unit :=
  match s.rest with
  | [] => .error (.placed ⟨.endInText, s.place⟩)
  | d :: _ => if d = c then .ok () else .error (.placed ⟨.unpairedEscape, s.ahead⟩)

/-- The character of an escape by code units, from the first digit, and the number of characters
that it takes. -/
def unicodeEscape (s : Source) : Except Failure (Char × Nat) := do
  let first ← hexUnit s
  let s := s.drop 4
  if isTrailing first then .error (.placed ⟨.loneSurrogate, s.place⟩)
  else if isLeading first then
    expectInPair '\\' s
    expectInPair 'u' s.next
    let second ← hexUnit (s.drop 2)
    if isTrailing second then
      return (Char.ofNat ((first - 0xD800) * 0x400 + (second - 0xDC00) + 0x10000), 10)
    else .error (.placed ⟨.loneSurrogate, (s.drop 6).place⟩)
  else return (Char.ofNat first, 4)

def simpleEscape? : Char → Option Char
  | '"' => some '"'
  | '\\' => some '\\'
  | '/' => some '/'
  | 'b' => some '\x08'
  | 'f' => some '\x0C'
  | 'n' => some '\n'
  | 'r' => some '\r'
  | 't' => some '\t'
  | _ => none

/-- The character of an escape, from the character after its backslash, and the number of
characters that it takes. -/
def escape (s : Source) : Except Failure (Char × Nat) :=
  match s.rest with
  | [] => .error (.placed ⟨.endInText, s.place⟩)
  | c :: _ =>
    if c = 'u' then (unicodeEscape s.next).map fun (d, n) => (d, n + 1)
    else
      match simpleEscape? c with
      | some d => .ok (d, 1)
      | none => .error (.placed ⟨.invalidEscape, s.ahead⟩)

def stringRest (s : Source) : Except Failure (Text × Source) :=
  match _h : s.rest with
  | [] => .error (.placed ⟨.endInText, s.place⟩)
  | c :: _ =>
    if c = '"' then .ok ([], s.next)
    else if c = '\\' then do
      let (d, n) ← escape s.next
      let (t, s) ← stringRest (s.drop (n + 1))
      return (d :: t, s)
    else if c.toNat < 0x20 then .error (.placed ⟨.controlCharacter, s.ahead⟩)
    else do
      let (t, s) ← stringRest s.next
      return (c :: t, s)
termination_by s.rest.length
decreasing_by all_goals (simp [*]; try omega)

/-- The number of characters of an escape in a string that is passed over. A code unit need not
stand for a character. -/
def skippedEscape (s : Source) : Except Failure Nat :=
  match s.rest with
  | [] => .error (.placed ⟨.endInText, s.place⟩)
  | c :: _ =>
    if c = 'u' then (hexUnit s.next).map fun _ => 5
    else if (simpleEscape? c).isSome then .ok 1
    else .error (.placed ⟨.invalidEscape, s.ahead⟩)

/-- Passes over a string. A control character is reported where the string has been read up to. -/
def skippedString (s : Source) : Except Failure Source :=
  match _h : s.rest with
  | [] => .error (.placed ⟨.endInText, s.place⟩)
  | c :: _ =>
    if c = '"' then .ok s.next
    else if c = '\\' then do
      let n ← skippedEscape s.next
      skippedString (s.drop (n + 1))
    else if c.toNat < 0x20 then .error (.placed ⟨.controlCharacter, s.place⟩)
    else skippedString s.next
termination_by s.rest.length
decreasing_by all_goals (simp [*]; try omega)

namespace Reader

def readText : Reader Text := fun s => stringRest s

def skipText : Reader Unit := fun s => (skippedString s).map ((), ·)

end Reader

end Storygraph.Json
