import Storygraph.Text.Blank
import Storygraph.Text.Ascii
import Storygraph.Unicode.CaseFold
import Storygraph.Unicode.Property

/-!
# Sets of characters

Sets of characters, and classes of characters that are alike up to letter case, with the operations
that patterns have on them.
-/

namespace Storygraph.Pattern

/-- A set of characters, as its membership test. -/
abbrev CharSet := Char → Bool

namespace CharSet

def empty : CharSet := fun _ => false

def all : CharSet := fun _ => true

def single (c : Char) : CharSet := fun d => d == c

def range (low high : Char) : CharSet := fun c => low ≤ c && c ≤ high

def ofList (cs : List Char) : CharSet := fun c => cs.contains c

def compl (s : CharSet) : CharSet := fun c => !s c

def negateIf (negated : Bool) (s : CharSet) : CharSet := if negated then s.compl else s

def ascii : CharSet := fun c => c.toNat < 128

end CharSet

/-- The forms of a character that differ in ASCII letter case alone. -/
def asciiForms (c : Char) : List Char :=
  [c, asciiLower c] ++ if 'a' ≤ c && c ≤ 'z' then [Char.ofNat (c.toNat - 32)] else []

/-- A class of characters: a test on the forms of a character. It answers for all forms alike, so
that sums, complements and differences of classes do so too. -/
abbrev CharClass := List Char → Bool

namespace CharClass

/-- The characters with a form in the set. -/
def ofSet (s : CharSet) : CharClass := fun forms => forms.any s

def empty : CharClass := fun _ => false

def union (s t : CharClass) : CharClass := fun forms => s forms || t forms

def inter (s t : CharClass) : CharClass := fun forms => s forms && t forms

def diff (s t : CharClass) : CharClass := fun forms => s forms && !t forms

def symmDiff (s t : CharClass) : CharClass := fun forms => s forms != t forms

def negateIf (negated : Bool) (s : CharClass) : CharClass := fun forms => negated != s forms

end CharClass

end Storygraph.Pattern
