import Storygraph.Pattern.CharSet

/-!
# Regular expressions

The core that patterns are compiled to.
-/

namespace Storygraph.Pattern

inductive Regex where
  | empty
  | one (set : CharSet)
  /-- Matches nothing at the start of the line. -/
  | lineStart
  /-- Matches nothing where `holds` is true of the characters before and after. -/
  | look (holds : Option Char → Option Char → Bool)
  | seq (first second : Regex)
  | alt (left right : Regex)
  /-- Matches the body once or more. -/
  | plus (body : Regex)

namespace Regex

def concat : List Regex → Regex
  | [] => empty
  | [r] => r
  | r :: rs => seq r (concat rs)

/-- Any of the expressions; of none, the expression without a match. -/
def anyOf : List Regex → Regex
  | [] => one .empty
  | [r] => r
  | r :: rs => alt r (anyOf rs)

def isCondition : Regex → Bool
  | empty | lineStart | look _ => true
  | one _ => false
  | seq r s | alt r s => r.isCondition && s.isCondition
  | plus r => r.isCondition

/-- Whether a match can begin at the start of the line only. -/
def isPinned : Regex → Bool
  | empty | one _ | look _ => false
  | lineStart => true
  | seq r s => r.isPinned || r.isCondition && s.isPinned
  | alt r s => r.isPinned && s.isPinned
  | plus r => r.isPinned

def power (r : Regex) (n : Nat) : Regex :=
  if n = 0 then empty
  else if n = 1 then r
  else seq (r.power (n / 2)) (r.power (n - n / 2))
termination_by n

def optional (r : Regex) : Regex := alt empty r

/-- The expression at least `least` times and at most `most` times in a row. What reads no
character holds any number of times if it holds once. -/
def repeated (r : Regex) (least : Nat) (most : Option Nat) : Regex :=
  if r.isCondition then if least = 0 then empty else r
  else
    match least, most with
    | 0, none => r.plus.optional
    | n + 1, none => seq (r.power n) r.plus
    | n, some most => seq (r.power n) (r.optional.power (most - n))

end Regex

end Storygraph.Pattern
