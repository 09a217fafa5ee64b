import Storygraph.Pattern.Meaning
import Storygraph.Pattern.Search
import Storygraph.Pattern.Parse

/-!
# Compiling patterns

`compile` accepts exactly the patterns that can be read and have a meaning. What a pattern may grow
to is not limited: an engine that keeps its programs to 10 MiB refuses `\w{300}`, which has a
meaning and is accepted here.
-/

namespace Storygraph.Pattern

def compile (pattern : Text) : Except Error Regex := do
  let e ← parse pattern
  let (r, _) ← e.regex .initial
  return r

/-- The text that is compiled for a pattern which is to match at the start of a line. -/
def anchored (pattern : Text) : Text := "^(?:".toList ++ pattern ++ ")".toList

end Storygraph.Pattern
