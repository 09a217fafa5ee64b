import Storygraph.Unicode.Property
import Storygraph.Unicode.Table.Addition

/-!
# The newest edition

The tables of categories hold the characters of one edition, which patterns go by. Names and quoted
text also know what the next edition adds.
-/

namespace Storygraph.Unicode.Newest

def isAlphabetic (c : Char) : Bool := Unicode.isAlphabetic c || onRuns Table.alphabeticAddition c

/-- Whether the character is alphabetic or a number in the newest edition. -/
def isAlphanumeric (c : Char) : Bool :=
  isAlphabetic c || inCategories Category.numbers c || onRuns Table.numericAddition c

def isAttached (c : Char) : Bool :=
  Category.nonspacingMark.contains c || Category.enclosingMark.contains c ||
    onRuns Table.attachedMark c || onRuns Table.attachedAddition c

/-- The letters that fill a place without showing a form. -/
def isFiller (c : Char) : Bool :=
  c == '\u115F' || c == '\u1160' || c == '\u3164' || c == '\uFFA0'

/-- Whether the character has a form of its own on the page. The space is the one separator that
does. -/
def isPrintable (c : Char) : Bool :=
  c == ' ' ||
    !(isAttached c || isFiller c || inCategories Category.separators c ||
      (inCategories Category.others c && !onRuns Table.addition c))

end Storygraph.Unicode.Newest
