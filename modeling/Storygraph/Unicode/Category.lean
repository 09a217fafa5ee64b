import Storygraph.Text.Basic
import Storygraph.Unicode.Table.Letter
import Storygraph.Unicode.Table.Mark
import Storygraph.Unicode.Table.Number
import Storygraph.Unicode.Table.Punctuation
import Storygraph.Unicode.Table.Symbol
import Storygraph.Unicode.Table.Other

/-!
# General categories

Every character belongs to exactly one general category. Groups of categories have names too.
Names are compared in the loose form that `looseName` gives.
-/

namespace Storygraph.Unicode

inductive Category where
  | uppercaseLetter | lowercaseLetter | titlecaseLetter | modifierLetter | otherLetter
  | nonspacingMark | spacingMark | enclosingMark | decimalNumber | letterNumber | otherNumber
  | connectorPunctuation | dashPunctuation | openPunctuation | closePunctuation
  | initialPunctuation | finalPunctuation | otherPunctuation | mathSymbol | currencySymbol
  | modifierSymbol | otherSymbol | spaceSeparator | lineSeparator | paragraphSeparator | control
  | format | surrogate | privateUse | unassigned
deriving DecidableEq

namespace Category

/-- The code points of a category other than `unassigned`. -/
def assignedRuns : Category → List Run
  | uppercaseLetter => Table.uppercaseLetter
  | lowercaseLetter => Table.lowercaseLetter
  | titlecaseLetter => Table.titlecaseLetter
  | modifierLetter => Table.modifierLetter
  | otherLetter => Table.otherLetter
  | nonspacingMark => Table.nonspacingMark
  | spacingMark => Table.spacingMark
  | enclosingMark => Table.enclosingMark
  | decimalNumber => Table.decimalNumber
  | letterNumber => Table.letterNumber
  | otherNumber => Table.otherNumber
  | connectorPunctuation => Table.connectorPunctuation
  | dashPunctuation => Table.dashPunctuation
  | openPunctuation => Table.openPunctuation
  | closePunctuation => Table.closePunctuation
  | initialPunctuation => Table.initialPunctuation
  | finalPunctuation => Table.finalPunctuation
  | otherPunctuation => Table.otherPunctuation
  | mathSymbol => Table.mathSymbol
  | currencySymbol => Table.currencySymbol
  | modifierSymbol => Table.modifierSymbol
  | otherSymbol => Table.otherSymbol
  | spaceSeparator => Table.spaceSeparator
  | lineSeparator => Table.lineSeparator
  | paragraphSeparator => Table.paragraphSeparator
  | control => Table.control
  | format => Table.format
  | surrogate => Table.surrogate
  | privateUse => Table.privateUse
  | unassigned => []

/-- The categories of assigned characters. -/
def assigned : List Category := [
  .uppercaseLetter, .lowercaseLetter, .titlecaseLetter, .modifierLetter, .otherLetter,
  .nonspacingMark, .spacingMark, .enclosingMark, .decimalNumber, .letterNumber, .otherNumber,
  .connectorPunctuation, .dashPunctuation, .openPunctuation, .closePunctuation,
  .initialPunctuation, .finalPunctuation, .otherPunctuation, .mathSymbol, .currencySymbol,
  .modifierSymbol, .otherSymbol, .spaceSeparator, .lineSeparator, .paragraphSeparator, .control,
  .format, .surrogate, .privateUse]

def contains : Category → Char → Bool
  | unassigned, c => assigned.all fun k => !onRuns k.assignedRuns c
  | k, c => onRuns k.assignedRuns c

def letters : List Category :=
  [.uppercaseLetter, .lowercaseLetter, .titlecaseLetter, .modifierLetter, .otherLetter]

def casedLetters : List Category := [.uppercaseLetter, .lowercaseLetter, .titlecaseLetter]

def marks : List Category := [.nonspacingMark, .spacingMark, .enclosingMark]

def numbers : List Category := [.decimalNumber, .letterNumber, .otherNumber]

def punctuation : List Category :=
  [.connectorPunctuation, .dashPunctuation, .openPunctuation, .closePunctuation,
   .initialPunctuation, .finalPunctuation, .otherPunctuation]

def symbols : List Category := [.mathSymbol, .currencySymbol, .modifierSymbol, .otherSymbol]

def separators : List Category := [.spaceSeparator, .lineSeparator, .paragraphSeparator]

/-- The categories outside letters, marks, numbers, punctuation, symbols and separators. -/
def others : List Category := [.control, .format, .surrogate, .privateUse, .unassigned]

/-- The names of categories and of their groups, in loose form. -/
def names : List (String × List Category) := [
  ("letter", letters), ("l", letters), ("casedletter", casedLetters), ("lc", casedLetters),
  ("mark", marks), ("m", marks), ("combiningmark", marks), ("number", numbers), ("n", numbers),
  ("punctuation", punctuation), ("p", punctuation), ("punct", punctuation),
  ("symbol", symbols), ("s", symbols), ("separator", separators), ("z", separators),
  ("other", others), ("c", others),
  ("uppercaseletter", [.uppercaseLetter]), ("lu", [.uppercaseLetter]),
  ("lowercaseletter", [.lowercaseLetter]), ("ll", [.lowercaseLetter]),
  ("titlecaseletter", [.titlecaseLetter]), ("lt", [.titlecaseLetter]),
  ("modifierletter", [.modifierLetter]), ("lm", [.modifierLetter]),
  ("otherletter", [.otherLetter]), ("lo", [.otherLetter]), ("nonspacingmark", [.nonspacingMark]),
  ("mn", [.nonspacingMark]), ("spacingmark", [.spacingMark]), ("mc", [.spacingMark]),
  ("enclosingmark", [.enclosingMark]), ("me", [.enclosingMark]),
  ("decimalnumber", [.decimalNumber]), ("nd", [.decimalNumber]), ("digit", [.decimalNumber]),
  ("letternumber", [.letterNumber]), ("nl", [.letterNumber]), ("othernumber", [.otherNumber]),
  ("no", [.otherNumber]), ("connectorpunctuation", [.connectorPunctuation]),
  ("pc", [.connectorPunctuation]), ("dashpunctuation", [.dashPunctuation]),
  ("pd", [.dashPunctuation]), ("openpunctuation", [.openPunctuation]), ("ps", [.openPunctuation]),
  ("closepunctuation", [.closePunctuation]), ("pe", [.closePunctuation]),
  ("initialpunctuation", [.initialPunctuation]), ("pi", [.initialPunctuation]),
  ("finalpunctuation", [.finalPunctuation]), ("pf", [.finalPunctuation]),
  ("otherpunctuation", [.otherPunctuation]), ("po", [.otherPunctuation]),
  ("mathsymbol", [.mathSymbol]), ("sm", [.mathSymbol]), ("currencysymbol", [.currencySymbol]),
  ("sc", [.currencySymbol]), ("modifiersymbol", [.modifierSymbol]), ("sk", [.modifierSymbol]),
  ("othersymbol", [.otherSymbol]), ("so", [.otherSymbol]), ("spaceseparator", [.spaceSeparator]),
  ("zs", [.spaceSeparator]), ("lineseparator", [.lineSeparator]), ("zl", [.lineSeparator]),
  ("paragraphseparator", [.paragraphSeparator]), ("zp", [.paragraphSeparator]),
  ("control", [.control]), ("cc", [.control]), ("cntrl", [.control]), ("format", [.format]),
  ("cf", [.format]), ("surrogate", [.surrogate]), ("cs", [.surrogate]),
  ("privateuse", [.privateUse]), ("co", [.privateUse]), ("unassigned", [.unassigned]),
  ("cn", [.unassigned])]

def named? (name : Text) : Option (List Category) :=
  (names.find? fun entry => entry.1.toList == name).map (·.2)

end Category

def inCategories (ks : List Category) (c : Char) : Bool := ks.any (·.contains c)

end Storygraph.Unicode
