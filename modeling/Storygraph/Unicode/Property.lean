import Storygraph.Unicode.Category
import Storygraph.Unicode.Table.Derived

/-!
# Derived character properties

Alphabetic characters, letter case and the characters that words are made of.
-/

namespace Storygraph.Unicode

/-- The property Alphabetic: letters, letter numbers and a few signs that count as letters. -/
def isAlphabetic (c : Char) : Bool :=
  inCategories Category.letters c || Category.letterNumber.contains c ||
    onRuns Table.otherAlphabetic c

def isUppercase (c : Char) : Bool :=
  Category.uppercaseLetter.contains c || onRuns Table.otherUppercase c

def isLowercase (c : Char) : Bool :=
  Category.lowercaseLetter.contains c || onRuns Table.otherLowercase c

/-- The characters that words are made of: alphabetic ones, marks, decimal digits, connectors and
the two joiners. -/
def isWord (c : Char) : Bool :=
  isAlphabetic c || inCategories Category.marks c || Category.decimalNumber.contains c ||
    Category.connectorPunctuation.contains c || c == '\u200C' || c == '\u200D'

def isAsciiWord (c : Char) : Bool :=
  ('a' ≤ c && c ≤ 'z') || ('A' ≤ c && c ≤ 'Z') || ('0' ≤ c && c ≤ '9') || c == '_'

end Storygraph.Unicode
