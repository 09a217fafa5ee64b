import Storygraph.Text.Decimal

/-!
# Notices

What a run tells about its work while it goes on, one line at a time.
-/

namespace Storygraph.Cli

inductive Level where
  | warning | information | detail
deriving DecidableEq, Repr

namespace Level

def label : Level → Text
  | warning => "WARN".toList
  | information => "INFO".toList
  | detail => "DEBUG".toList

/-- How verbose a run has to be to show notices of the level. -/
def verbosity : Level → Nat
  | warning => 0
  | information => 1
  | detail => 2

end Level

inductive Speaker where
  | commands | compiler | graphs
deriving DecidableEq, Repr

def Speaker.name : Speaker → Text
  | commands => "snil_graph".toList
  | compiler => "sg_parser".toList
  | graphs => "sg_parser::graph_builder".toList

structure Notice where
  level : Level
  speaker : Speaker
  message : Text
  fields : List (String × Text)
deriving DecidableEq, Repr

namespace Notice

/-- A character of a message. Those that a terminal takes for commands are shown by their code
points. -/
def shownChar (c : Char) : Text :=
  if c.toNat ∈ [0x07, 0x08, 0x0c, 0x1b, 0x7f] then
    "\\x".toList ++ (if c.toNat < 16 then ['0'] else []) ++ Text.hexOfNat c.toNat
  else if 0x80 ≤ c.toNat ∧ c.toNat ≤ 0x9f then
    "\\u\x7b".toList ++ Text.hexOfNat c.toNat ++ ['\x7d']
  else [c]

/-- The line of a notice. Values are shown as they are. -/
def toLine (n : Notice) : Text :=
  Text.padLeft 5 n.level.label ++ [' '] ++ n.speaker.name ++ ": ".toList ++
    n.message.flatMap shownChar ++
    (n.fields.flatMap fun (key, value) => ' ' :: key.toList ++ '=' :: value) ++ ['\n']

def isShown (verbosity : Nat) (quiet : Bool) (n : Notice) : Bool :=
  !quiet && n.level.verbosity ≤ verbosity

end Notice

end Storygraph.Cli
