import Storygraph.Text.Blank
import Storygraph.Text.Ascii

/-!
# Declarations

The lines of a document that declare a name, which other documents refer to dialogues by.
-/

namespace Storygraph

/-- A name and the line that declares it, counted from one. -/
structure Declaration where
  line : Nat
  name : Text
deriving DecidableEq, Repr

namespace Declaration

/-- The name that a line declares: what follows `name` and a colon, if it is not blank. -/
def nameIn? (line : Text) : Option Text :=
  let t := Text.trimStart line
  if Text.startsWithAscii t "name".toList then
    match Text.trimStart (t.drop 4) with
    | ':' :: rest => if Text.trim rest = [] then none else some (Text.trim rest)
    | _ => none
  else none

def all (document : Text) : List Declaration :=
  ((Text.lines document).zipIdx 1).filterMap fun (line, number) =>
    (nameIn? line).map fun name => ⟨number, name⟩

def lineOf? (declarations : List Declaration) (name : Text) : Option Nat :=
  (declarations.find? (·.name = name)).map (·.line)

end Declaration

end Storygraph
