import Storygraph.Text.Basic

/-!
# Surroundings

What a run can read: standard input, and what it finds at paths.
-/

namespace Storygraph.Cli

inductive ReadFault where
  | missing | notDirectory | nameTooLong | directory | notText
  /-- The path cannot be followed to its end: a directory on it may not be entered, or its links
  go round. -/
  | unreachable (cause : Text)
  | other (cause : Text)
deriving DecidableEq, Repr

namespace ReadFault

def message : ReadFault → Text
  | missing => "No such file or directory (os error 2)".toList
  | notDirectory => "Not a directory (os error 20)".toList
  | nameTooLong => "File name too long (os error 36)".toList
  | directory => "Is a directory (os error 21)".toList
  | notText => "stream did not contain valid UTF-8".toList
  | unreachable cause | other cause => cause

/-- Whether, as far as the fault tells, nothing is at the path. -/
def leadsNowhere : ReadFault → Bool
  | missing | notDirectory | nameTooLong | unreachable _ => true
  | directory | notText | other _ => false

end ReadFault

structure Surroundings where
  standardInput : ByteArray
  bytesAt : Text → Except ReadFault ByteArray

def decode (bytes : ByteArray) : Except ReadFault Text :=
  match String.fromUTF8? bytes with
  | some s => .ok s.toList
  | none => .error .notText

namespace Surroundings

def textAt (s : Surroundings) (path : Text) : Except ReadFault Text := s.bytesAt path >>= decode

end Surroundings

end Storygraph.Cli
