import Storygraph.Text.Blank
import Storygraph.Text.Ascii
import Storygraph.Text.Decimal

/-!
# Sections

Lines of three dashes divide a document into pieces. A piece that is not blank is a section. It
is known by its position among all pieces and by the line of the document it starts on.
-/

namespace Storygraph

/-- What stands between two pieces of a document. -/
def delimiter : Text := "\n---\n".toList

/-- The pieces of a document between delimiters, found from left to right. -/
def pieces : Text → List Text
  | '\n' :: '-' :: '-' :: '-' :: '\n' :: t => [] :: pieces t
  | c :: t => Text.consHead c (pieces t)
  | [] => [[]]

/-- A piece of a document without the blanks around it. -/
structure Section where
  /-- The position among all pieces, blank ones included. -/
  index : Nat
  text : Text
  /-- The line of the document on which the text starts, counted from one. -/
  firstLine : Nat
deriving DecidableEq, Repr

namespace Section

/-- The sections among pieces, the first of which has the given position and starts on the given
line. A delimiter takes the line of dashes and the break after it. -/
def ofPieces (index line : Nat) : List Text → List Section
  | [] => []
  | piece :: rest =>
    let later := ofPieces (index + 1) (line + Text.lineFeeds piece + 2) rest
    if Text.trim piece = [] then later
    else ⟨index, Text.trim piece, line + Text.lineFeeds (piece.takeWhile isBlank)⟩ :: later

def split (document : Text) : List Section := ofPieces 0 1 (pieces document)

def nameMark : Text := "name:".toList

/-- The name that a text declares at its start. What follows the mark may begin on a later line;
where nothing but blanks follows, the name is empty. -/
def declaredName? (t : Text) : Option Text :=
  if Text.startsWithAscii t nameMark then
    let rest := t.drop nameMark.length
    match Text.trimStart rest with
    | [] => if rest.any fun c => isBlank c && c ≠ '\n' then some [] else none
    | c :: body => some (Text.trim ((c :: body).takeWhile (· ≠ '\n')))
  else none

/-- The first name declared at the start of a line. -/
def firstName? (lineStart : Bool) : Text → Option Text
  | [] => none
  | c :: t =>
    match if lineStart then declaredName? (c :: t) else none with
    | some name => some name
    | none => firstName? (c = '\n') t

/-- The name for a section that declares none. -/
def numberedName (index : Nat) : Text := "Section ".toList ++ Text.ofNat (index + 1)

def nameOf (text : Text) (index : Nat) : Text :=
  (firstName? true text).getD (numberedName index)

def name (s : Section) : Text := nameOf s.text s.index

end Section

end Storygraph
