import Storygraph.Cli.Run

/-!
# The program

Reads what a command needs, carries it out, and writes what it prints.
-/

namespace Storygraph.Cli

def Command.paths : Command → List Text
  | parse input rulebook _ _ | sections input rulebook _ => input :: rulebook.toList
  | dialogues input _ => [input]
  | config rulebook => rulebook.toList

def Command.readsStandardInput : Command → Bool
  | parse input _ _ _ | sections input _ _ | dialogues input _ => input == Subcommand.defaultInput
  | config _ => false

/-- The fault with a system's code for it, which some calls give with a minus sign. -/
def ReadFault.ofCode (code : UInt32) (details : String) : ReadFault :=
  match code.toInt32.toInt.natAbs with
  | 2 => .missing
  | 13 => .other "Permission denied (os error 13)".toList
  | 20 => .notDirectory
  | 21 => .directory
  | 36 => .nameTooLong
  | 40 => .other "Too many levels of symbolic links (os error 40)".toList
  | n => .other (details.toList ++ " (os error ".toList ++ Text.ofNat n ++ ")".toList)

def ReadFault.ofError : IO.Error → ReadFault
  | .noFileOrDirectory _ code details | .inappropriateType _ code details
  | .invalidArgument _ code details | .permissionDenied _ code details
  | .resourceExhausted _ code details | .noSuchThing _ code details
  | .otherError code details | .unsupportedOperation code details
  | .illegalOperation code details => .ofCode code details
  | e => .other (toString e).toList

/-- The fault, if the path could not be followed to what was to be read. -/
def ReadFault.onTheWay : ReadFault → ReadFault
  | .other cause => .unreachable cause
  | fault => fault

def canFollow (path : Text) : IO Bool := do
  try
    let _ ← IO.FS.realPath (String.ofList path)
    return true
  catch _ =>
    return false

def readPath (path : Text) : IO (Except ReadFault ByteArray) := do
  try
    return .ok (← IO.FS.readBinFile (String.ofList path))
  catch e =>
    let fault := ReadFault.ofError e
    return .error (if ← canFollow path then fault else fault.onTheWay)

/-- Reads a stream to its end. -/
partial def readToEnd (stream : IO.FS.Stream) (bytes : ByteArray) : IO ByteArray := do
  let more ← stream.read 65536
  if more.isEmpty then return bytes else readToEnd stream (bytes ++ more)

/-- Reads what a command needs of its surroundings. -/
def readSurroundings (c : Command) : IO Surroundings := do
  let found ← c.paths.mapM fun path => return (path, ← readPath path)
  let input ← if c.readsStandardInput then readToEnd (← IO.getStdin) .empty else pure .empty
  return ⟨input, fun path => (found.lookup path).getD (.error .missing)⟩

def Outcome.write (o : Outcome) : IO UInt32 := do
  (← IO.getStdout).putStr (String.ofList o.stdout)
  (← IO.getStderr).putStr (String.ofList o.stderr)
  return o.exit.toUInt32

end Storygraph.Cli

def main (args : List String) : IO UInt32 := do
  match Storygraph.Cli.Request.ofArguments (args.map String.toList) with
  | .error halt => halt.outcome.write
  | .ok request =>
    let surroundings ← Storygraph.Cli.readSurroundings request.command
    (request.outcome surroundings).write
