import Storygraph.Cli.Surroundings

/-!
# Workspaces

A directory that is known file by file, and where paths lead in it. The directories around it
hold nothing but each other.
-/

namespace Storygraph.Cli

def maxNameSize : Nat := 255

def maxPathSize : Nat := 4095

/-- Files with their contents. The steps to a file are the directories that it is in and its
name. -/
structure Workspace where
  files : List (List Text × ByteArray)

inductive Directory where
  /-- The one at the end of some steps from the workspace. -/
  | inside (steps : List Text)
  /-- One of those around the workspace. -/
  | outside
deriving DecidableEq, Repr

def Directory.parent : Directory → Directory
  | inside [] => outside
  | inside (first :: rest) => inside (first :: rest).dropLast
  | outside => outside

namespace Workspace

/-- The steps of a path, without those that stay where they are. -/
def stepsOf (path : Text) : List Text :=
  (Text.splitAt '/' path).filter fun step => step ≠ [] ∧ step ≠ ['.']

def ofFiles (files : List (Text × ByteArray)) : Workspace :=
  ⟨files.map fun (path, bytes) => (stepsOf path, bytes)⟩

/-- What is at the end of a walk from a directory. A file ends a walk that has steps left,
whatever they are. -/
def walk (w : Workspace) (here : Directory) : List Text → Except ReadFault ByteArray
  | [] => .error .directory
  | step :: rest =>
    if step = [] ∨ step = ['.'] then w.walk here rest
    else if step = ['.', '.'] then w.walk here.parent rest
    else if Text.byteSize step > maxNameSize then .error .nameTooLong
    else
      match here with
      | .outside => .error .missing
      | .inside steps =>
        let there := steps ++ [step]
        match w.files.lookup there with
        | some bytes => if rest = [] then .ok bytes else .error .notDirectory
        | none =>
          if w.files.any (there.isPrefixOf ·.1) then w.walk (.inside there) rest
          else .error .missing

def bytesAt (w : Workspace) (path : Text) : Except ReadFault ByteArray :=
  if path = [] then .error .missing
  else if Text.byteSize path > maxPathSize then .error .nameTooLong
  else
    let start := if path.head? = some '/' then .outside else .inside []
    w.walk start (Text.splitAt '/' path)

end Workspace

end Storygraph.Cli
