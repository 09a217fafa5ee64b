import Storygraph.Text.Basic

/-!
# Rulebooks

A rulebook says which lines are statements of which kind: ordered rules, the tag of the lines
that none of them matches, and the patterns of lines that are no statements at all.
-/

namespace Storygraph

/-- Lines that match the pattern get the name as their tag. -/
structure Rule where
  name : Text
  pattern : Text
  description : Text
deriving DecidableEq, Repr

/-- Rules in the order in which they are tried, with what surrounds them. -/
structure Rulebook where
  rules : List Rule
  defaultTag : Text
  ignored : List Text
deriving DecidableEq, Repr

namespace Rulebook

def rule (name pattern description : String) : Rule :=
  ⟨name.toList, pattern.toList, description.toList⟩

/-- The rulebook that is used where none is given. -/
def builtin : Rulebook where
  rules := [
    rule "start" "^START" "Start of a dialogue or section",
    rule "end" "^END" "End of a dialogue or section",
    rule "function" "^\\s*function\\s+" "Function definition",
    rule "function_call" "^\\s*call\\s+" "Function call",
    rule "jump" "^\\s*jump\\s+to\\s+" "Jump to another section",
    rule "wait" "^\\s*wait\\s+" "Wait/pause in the dialogue",
    rule "show" "^\\s*show\\s+" "Show character or background"]
  defaultTag := "dialogue".toList
  ignored := ["^\\s*name\\s*:".toList, "^\\s*$".toList]

/-- The tags of a rulebook: those of the rules in order, and the default tag where no rule
has it. -/
def tags (b : Rulebook) : List Text :=
  let named := b.rules.map (·.name)
  if b.defaultTag ∈ named then named else named ++ [b.defaultTag]

end Rulebook

end Storygraph
