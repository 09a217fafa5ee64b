import Storygraph.Text.Basic

/-!
# ASCII letter case

Comparisons that treat the letters `A` to `Z` as `a` to `z` and every other character as itself.
-/

namespace Storygraph

def asciiLower (c : Char) : Char :=
  if 'A' ≤ c ∧ c ≤ 'Z' then Char.ofNat (c.toNat + 32) else c

def isAsciiLetter (c : Char) : Bool := ('a' ≤ c && c ≤ 'z') || ('A' ≤ c && c ≤ 'Z')

def isAsciiDigit (c : Char) : Bool := '0' ≤ c && c ≤ '9'

namespace Text

def asciiLower (t : Text) : Text := t.map Storygraph.asciiLower

def sameAscii (s t : Text) : Bool := s.asciiLower == t.asciiLower

/-- Whether a text begins with `start`, up to ASCII letter case. -/
def startsWithAscii (t start : Text) : Bool := sameAscii (t.take start.length) start

end Text

end Storygraph
