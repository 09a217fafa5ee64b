import Storygraph.Graph
import Storygraph.Rulebook
import Storygraph.Pattern.Compile

/-!
# Classifying lines

A classifier is a rulebook with its patterns compiled. A line is ignored if any of the ignored
patterns matches it; otherwise the first rule that matches it decides its kind.
-/

namespace Storygraph

inductive PatternRole where
  | ignored | rule
deriving DecidableEq, Repr

/-- A pattern of a rulebook that does not compile. -/
structure BadPattern where
  role : PatternRole
  pattern : Text
  error : Pattern.Error
deriving DecidableEq, Repr

namespace BadPattern

/-- What is wrong with the pattern, as the text that is compiled for it shows. -/
def report (bad : BadPattern) : Text := bad.error.report (Pattern.anchored bad.pattern)

def message (bad : BadPattern) : Text :=
  let role := match bad.role with
    | .ignored => "ignore"
    | .rule => "node type"
  "invalid ".toList ++ role.toList ++ " pattern '".toList ++ bad.pattern ++ "': ".toList ++
    bad.report

end BadPattern

structure Classifier where
  ignored : List Pattern.Regex
  rules : List (Pattern.Regex × Kind)
  default : Kind

namespace Classifier

/-- Compiles one pattern, which is to match at the start of a line. -/
def compilePattern (role : PatternRole) (pattern : Text) : Except BadPattern Pattern.Regex :=
  (Pattern.compile (Pattern.anchored pattern)).mapError fun error => ⟨role, pattern, error⟩

/-- Compiles a rulebook: the ignored patterns first, then those of the rules. -/
def ofRulebook (book : Rulebook) : Except BadPattern Classifier := do
  let ignored ← book.ignored.mapM (compilePattern .ignored)
  let rules ← book.rules.mapM fun rule => do
    return (← compilePattern .rule rule.pattern, Kind.ofTag rule.name)
  return ⟨ignored, rules, Kind.ofTag book.defaultTag⟩

def builtin : Classifier := (ofRulebook .builtin).toOption.getD ⟨[], [], .dialogue⟩

/-- The kind of a line, or `none` for a line that is ignored. -/
def classify (c : Classifier) (line : Text) : Option Kind :=
  if c.ignored.any (·.isMatch line) then none
  else some (((c.rules.find? (·.1.isMatch line)).map (·.2)).getD c.default)

end Classifier

end Storygraph
