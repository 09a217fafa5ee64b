import Storygraph.Text.Decimal

/-!
# Warnings

What is odd about a script without keeping it from being compiled.
-/

namespace Storygraph

inductive WarningCode where
  /-- A conditional that its section ends before it is closed. -/
  | unterminated
  /-- The header of a conditional inside another. -/
  | nested
  /-- An `endif` that closes nothing. -/
  | strayEnd
deriving DecidableEq, Repr

namespace WarningCode

def all : List WarningCode := [unterminated, nested, strayEnd]

def name : WarningCode → String
  | unterminated => "UnterminatedConditional"
  | nested => "NestedConditional"
  | strayEnd => "StrayEndif"

def named? (name : Text) : Option WarningCode := all.find? (·.name.toList == name)

/-- The label that a warning shows to readers. -/
def label : WarningCode → String
  | unterminated => "snil/warn/unterminated-conditional"
  | nested => "snil/warn/nested-conditional"
  | strayEnd => "snil/warn/stray-endif"

end WarningCode

/-- A warning about a line of a document, counted from one. -/
structure Warning where
  code : WarningCode
  message : Text
  line : Nat
deriving DecidableEq, Repr

namespace Warning

def unterminated (line : Nat) (header : Text) : Warning :=
  ⟨.unterminated,
    "conditional '".toList ++ header ++ "' has no 'endif'; closed at end of section".toList, line⟩

def nested (line : Nat) (header : Text) : Warning :=
  ⟨.nested,
    "nested conditional '".toList ++ header ++ "' is not supported; treated as a statement".toList,
    line⟩

def strayEnd (line : Nat) : Warning :=
  ⟨.strayEnd, "'endif' without an open conditional; treated as a statement".toList, line⟩

def toText (w : Warning) : Text :=
  "line ".toList ++ Text.ofNat w.line ++ ": ".toList ++ w.message ++ " [".toList ++
    w.code.label.toList ++ "]".toList

end Warning

end Storygraph
