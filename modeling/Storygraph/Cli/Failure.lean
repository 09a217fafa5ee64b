import Storygraph.Classifier
import Storygraph.Cli.Surroundings
import Storygraph.Json.Error

/-!
# Failures

Why a run fails, and the report about it.
-/

namespace Storygraph.Cli

inductive Failure where
  | standardInput (fault : ReadFault)
  | file (path : Text) (fault : ReadFault)
  | rulebook (bad : BadPattern)
  /-- A summary that cannot be read back. -/
  | reread (e : Json.Error)
deriving DecidableEq, Repr

namespace Failure

def summary : Failure → Text
  | standardInput _ => "Failed to read from stdin".toList
  | file path _ => "Failed to read file: ".toList ++ path
  | rulebook _ => "Failed to compile node type configuration".toList
  | reread e => e.message

/-- Why it could not be done, and why that is so. -/
def causes : Failure → List Text
  | standardInput fault | file _ fault => [fault.message]
  | rulebook bad => [bad.message, bad.report]
  | reread _ => []

/-- A text with a margin in front of its first line and one in front of each other line. -/
def indent (first others : Text) (t : Text) : Text :=
  first ++ Text.join ('\n' :: others) (Text.lines t)

/-- The causes as they stand in a report. Several causes are numbered from zero. -/
def causeLines : List Text → List Text
  | [cause] => [indent "    ".toList "    ".toList cause]
  | causes => causes.zipIdx.map fun (cause, i) =>
    indent (Text.padLeft 5 (Text.ofNat i) ++ ": ".toList) "       ".toList cause

def report (f : Failure) : Text :=
  let because := if f.causes = [] then [] else
    "\n\nCaused by:\n".toList ++ Text.join ['\n'] (causeLines f.causes)
  "Error: ".toList ++ f.summary ++ because ++ ['\n']

end Failure

end Storygraph.Cli
