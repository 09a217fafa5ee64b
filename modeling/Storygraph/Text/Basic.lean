/-!
# Text

Text is a list of characters. This module splits it into lines and joins it again.
-/

namespace Storygraph

/-- A text: the characters of a document, a line, a name or a message. -/
abbrev Text := List Char

namespace Text

/-- Puts the character `c` in front of the first of some pieces. -/
def consHead (c : Char) : List Text → List Text
  | [] => [[c]]
  | piece :: rest => (c :: piece) :: rest

/-- The pieces between occurrences of the character `sep`: one more than there are occurrences. -/
def splitAt (sep : Char) : Text → List Text
  | [] => [[]]
  | c :: t => if c = sep then [] :: splitAt sep t else consHead c (splitAt sep t)

/-- The lines of a text. Only a line feed ends a line. -/
def lines (t : Text) : List Text := splitAt '\n' t

def join (sep : Text) : List Text → Text
  | [] => []
  | [piece] => piece
  | piece :: rest => piece ++ sep ++ join sep rest

def lineFeeds (t : Text) : Nat := t.count '\n'

def dropPrefix? : (start : Text) → Text → Option Text
  | [], t => some t
  | _ :: _, [] => none
  | s :: start, c :: t => if s = c then dropPrefix? start t else none

theorem dropPrefix?_eq_some_iff {start t rest : Text} :
    dropPrefix? start t = some rest ↔ t = start ++ rest := by
  induction start generalizing t with
  | nil => exact ⟨Option.some.inj, congrArg some⟩
  | cons s start ih =>
    cases t with
    | nil => exact ⟨nofun, nofun⟩
    | cons c t =>
      rw [dropPrefix?, List.cons_append, List.cons.injEq, eq_comm (a := c), ← ih]
      split
      · rename_i same
        exact ⟨fun found => ⟨same, found⟩, And.right⟩
      · rename_i other
        exact ⟨nofun, fun both => absurd both.1 other⟩

theorem dropPrefix?_append (start t : Text) : dropPrefix? start (start ++ t) = some t :=
  dropPrefix?_eq_some_iff.mpr rfl

/-- Cuts a text at the first occurrence of `sep`, which belongs to neither side. -/
def cutAt? : (t : Text) → (sep : Text) → Option (Text × Text)
  | [], sep => if sep = [] then some ([], []) else none
  | c :: t, sep =>
    match dropPrefix? sep (c :: t) with
    | some rest => some ([], rest)
    | none => (cutAt? t sep).map fun (before, rest) => (c :: before, rest)

def padLeft (width : Nat) (t : Text) : Text := List.replicate (width - t.length) ' ' ++ t

def byteSize : Text → Nat
  | [] => 0
  | c :: t => c.utf8Size + byteSize t

end Text

end Storygraph
