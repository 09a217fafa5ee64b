import Storygraph.Text.Blank
import Storygraph.Text.Ascii
import Storygraph.Section
import Storygraph.Warning

/-!
# Items of a section

The lines of a section fall into single lines and conditionals. A conditional runs from its
header to the next `endif`; the markers `true:` and `false:` divide what is between them.
-/

namespace Storygraph

structure Line where
  number : Nat
  text : Text
deriving DecidableEq, Repr

/-- Lines numbered from `first` on. -/
def numberLines (first : Nat) (texts : List Text) : List Line :=
  (texts.zipIdx first).map fun (text, number) => ⟨number, text⟩

/-- The lines of a section, each without the blanks around it. -/
def Section.lines (s : Section) : List Line :=
  numberLines s.firstLine ((Text.lines s.text).map Text.trim)

/-- Whether a text is `if`, blanks and something else. -/
def opensWithIf (t : Text) : Bool :=
  match t with
  | i :: f :: rest =>
    asciiLower i == 'i' && asciiLower f == 'f' && rest.head?.any isBlank &&
      !(Text.trimStart rest).isEmpty
  | _ => false

def isHeader (t : Text) : Bool := opensWithIf t || Text.sameAscii t "If Show Variant".toList

def isEnd (t : Text) : Bool := Text.sameAscii t "endif".toList

/-- The parts of a conditional. -/
inductive Part where
  | heading | whenTrue | whenFalse
deriving DecidableEq, Repr

/-- The part that a line with the text begins. -/
def Part.begunBy? (t : Text) : Option Part :=
  if Text.sameAscii t "true:".toList then some .whenTrue
  else if Text.sameAscii t "false:".toList then some .whenFalse
  else none

/-- Whether a line with the text, in the heading of a conditional, describes its options. -/
def isMetadata (t : Text) : Bool :=
  Text.startsWithAscii t "variants:".toList || Text.startsWithAscii t "option".toList

structure Conditional where
  header : Line
  content : Text
  whenTrue : List Line
  whenFalse : List Line
deriving DecidableEq, Repr

inductive Item where
  | line (line : Line)
  | conditional (block : Conditional)
deriving DecidableEq, Repr

/-- A conditional while it is read, with all warnings so far. -/
structure Reading where
  header : Line
  /-- The part that the next line stands in. -/
  part : Part
  metadata : Array Line
  whenTrue : Array Line
  whenFalse : Array Line
  warnings : Array Warning

namespace Reading

/-- A conditional of which only the header is read. -/
def start (header : Line) (warnings : Array Warning) : Reading :=
  ⟨header, .heading, #[], #[], #[], warnings⟩

/-- Warns of a line that looks like the header of another conditional. -/
def remark (r : Reading) (line : Line) : Reading :=
  if isHeader line.text then
    { r with warnings := r.warnings.push (.nested line.number line.text) }
  else r

/-- Reads a line before the end. The heading keeps the lines that describe options, the branches
keep every line. -/
def add (r : Reading) (line : Line) : Reading :=
  match Part.begunBy? line.text with
  | some part => { r with part }
  | none =>
    match r.part with
    | .heading =>
      if isMetadata line.text then { r with metadata := r.metadata.push line } else r
    | .whenTrue =>
      let r := r.remark line
      { r with whenTrue := r.whenTrue.push line }
    | .whenFalse =>
      let r := r.remark line
      { r with whenFalse := r.whenFalse.push line }

/-- Reads lines to the first `endif` and gives back those after it. -/
def finish (r : Reading) : List Line → Reading × List Line
  | [] =>
    ({ r with warnings := r.warnings.push (.unterminated r.header.number r.header.text) }, [])
  | line :: rest => if isEnd line.text then (r, rest) else (r.add line).finish rest

/-- The conditional that has been read. -/
def conditional (r : Reading) : Conditional where
  header := r.header
  content := Text.join ['\n'] (r.header.text :: r.metadata.toList.map (·.text))
  whenTrue := r.whenTrue.toList
  whenFalse := r.whenFalse.toList

theorem length_finish_le (r : Reading) (lines : List Line) :
    (r.finish lines).2.length ≤ lines.length := by
  induction lines generalizing r with
  | nil => exact Nat.le_refl _
  | cons line rest ih =>
    rw [finish]
    split
    · exact Nat.le_succ _
    · exact Nat.le_succ_of_le (ih _)

end Reading

structure Scan where
  items : Array Item
  warnings : Array Warning

namespace Scan

/-- Takes a line by itself. An `endif` here closes nothing. -/
def addLine (s : Scan) (line : Line) : Scan where
  items := s.items.push (.line line)
  warnings := if isEnd line.text then s.warnings.push (.strayEnd line.number) else s.warnings

/-- Goes on with more lines. -/
def run (s : Scan) : List Line → Scan
  | [] => s
  | line :: rest =>
    if isHeader line.text then
      let read := (Reading.start line s.warnings).finish rest
      run ⟨s.items.push (.conditional read.1.conditional), read.1.warnings⟩ read.2
    else run (s.addLine line) rest
termination_by lines => lines.length
decreasing_by
  · have := Reading.length_finish_le (Reading.start line s.warnings) rest
    simp only [List.length_cons]
    omega
  · simp

/-- Scans lines after some warnings. -/
def ofLines (warnings : Array Warning) (lines : List Line) : Scan := run ⟨#[], warnings⟩ lines

end Scan

def items (lines : List Line) : List Item := (Scan.ofLines #[] lines).items.toList

def itemWarnings (lines : List Line) : List Warning := (Scan.ofLines #[] lines).warnings.toList

end Storygraph
