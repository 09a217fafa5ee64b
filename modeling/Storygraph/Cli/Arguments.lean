import Storygraph.Text.Basic

/-!
# Command lines

The arguments of a run: a subcommand with its input and switches. A switch is written as a word
after two dashes or as a letter after one, and letters may share a dash. After an argument of two
dashes alone there are no more switches.
-/

namespace Storygraph.Cli

inductive Switch where
  | verbose | quiet | version | rulebook | full | pretty | json
deriving DecidableEq, Repr

namespace Switch

def word : Switch → Text
  | verbose => "verbose".toList
  | quiet => "quiet".toList
  | version => "version".toList
  | rulebook => "config".toList
  | full => "full".toList
  | pretty => "pretty".toList
  | json => "json".toList

def letter? : Switch → Option Char
  | verbose => some 'v'
  | quiet => some 'q'
  | version => some 'V'
  | rulebook => some 'c'
  | full | pretty | json => none

def takesValue (s : Switch) : Bool := s == rulebook

/-- Whether a switch may be given again beside itself. -/
def repeats (s : Switch) : Bool := s == verbose

end Switch

inductive Misuse where
  | unknownSwitch (written : Text)
  | repeatedSwitch (s : Switch)
  | missingValue (s : Switch)
  | unwantedValue (s : Switch)
  | missingSubcommand
  | unknownSubcommand (name : Text)
  | unexpected (argument : Text)
deriving DecidableEq, Repr

namespace Misuse

def shown (s : Switch) : Text := "'--".toList ++ s.word ++ "'".toList

def message : Misuse → Text
  | unknownSwitch written => "unknown switch '".toList ++ written ++ "'".toList
  | repeatedSwitch s => shown s ++ " is given more than once".toList
  | missingValue s => shown s ++ " needs a value".toList
  | unwantedValue s => shown s ++ " takes no value".toList
  | missingSubcommand => "a subcommand is needed".toList
  | unknownSubcommand name => "unknown subcommand '".toList ++ name ++ "'".toList
  | unexpected argument => "unexpected argument '".toList ++ argument ++ "'".toList

end Misuse

inductive Halt where
  | version
  | misuse (m : Misuse)
deriving DecidableEq, Repr

/-- The switches that have been read, with their values. Those that take none have an empty one. -/
abbrev Given := List (Switch × Text)

namespace Given

def count (g : Given) (s : Switch) : Nat := g.countP (·.1 = s)

def has (g : Given) (s : Switch) : Bool := g.any (·.1 = s)

def value? (g : Given) (s : Switch) : Option Text := (g.find? (·.1 = s)).map (·.2)

/-- Adds a switch. Asking for the version ends the reading. -/
def add (g : Given) (s : Switch) (value : Text) : Except Halt Given :=
  if s = .version then .error .version
  else if has g s && !s.repeats then .error (.misuse (.repeatedSwitch s))
  else .ok (g ++ [(s, value)])

end Given

/-- Reads the letters after a dash. A switch that takes a value takes the rest of them, less an
equals sign; if there is no rest, it waits for the next argument. -/
def readLetters (known : List Switch) (given : Given) : Text → Except Halt (Given × Option Switch)
  | [] => .ok (given, none)
  | c :: rest =>
    match known.find? (·.letter? = some c) with
    | none => .error (.misuse (.unknownSwitch ['-', c]))
    | some s =>
      if s.takesValue then
        if rest = [] then .ok (given, some s)
        else do return (← given.add s ((Text.dropPrefix? ['='] rest).getD rest), none)
      else do
        let given ← given.add s []
        readLetters known given rest

/-- Reads what follows two dashes: a word, and a value after an equals sign. A switch that is
still without its value waits for the next argument. -/
def readWord (known : List Switch) (given : Given) (t : Text) :
    Except Halt (Given × Option Switch) :=
  let (word, value) := match Text.cutAt? t ['='] with
    | some (word, value) => (word, some value)
    | none => (t, none)
  match known.find? (·.word = word), value with
  | none, _ => .error (.misuse (.unknownSwitch ("--".toList ++ word)))
  | some s, some value =>
    if s.takesValue then do return (← given.add s value, none)
    else .error (.misuse (.unwantedValue s))
  | some s, none =>
    if s.takesValue then .ok (given, some s) else do return (← given.add s [], none)

def endOfSwitches : Text := "--".toList

/-- Reads an argument that begins with a dash. One dash alone is a name like any other, and two
dashes alone are no switch. -/
def readSwitch? (known : List Switch) (given : Given) (argument : Text) :
    Option (Except Halt (Given × Option Switch)) :=
  match argument with
  | ['-'] | ['-', '-'] => none
  | '-' :: '-' :: t => some (readWord known given t)
  | '-' :: t => some (readLetters known given t)
  | _ => none

/-- Whether an argument can be the value that a switch waits for. -/
def isValue (argument : Text) : Bool := argument == ['-'] || argument.head? != some '-'

/-- Reads switches up to the first argument that is none, and returns the arguments from there. -/
def readSwitches (known : List Switch) (given : Given) :
    List Text → Except Halt (Given × List Text)
  | [] => .ok (given, [])
  | argument :: rest =>
    match readSwitch? known given argument with
    | none => .ok (given, argument :: rest)
    | some (.error halt) => .error halt
    | some (.ok (given, none)) => readSwitches known given rest
    | some (.ok (given, some s)) =>
      match rest with
      | [] => .error (.misuse (.missingValue s))
      | value :: rest =>
        if isValue value then do
          let given ← given.add s value
          readSwitches known given rest
        else .error (.misuse (.missingValue s))

/-- Takes the one argument that may be left, which is the input. -/
def readInput? : List Text → Except Halt (Option Text)
  | [] => .ok none
  | [input] => .ok (some input)
  | _ :: other :: _ => .error (.misuse (.unexpected other))

/-- Reads the arguments of a subcommand: switches before and after the input, if there is one. -/
def readArguments (known : List Switch) (arguments : List Text) :
    Except Halt (Given × Option Text) := do
  let (given, rest) ← readSwitches known [] arguments
  match rest with
  | [] => return (given, none)
  | first :: rest =>
    if first = endOfSwitches then return (given, ← readInput? rest)
    let (given, rest) ← readSwitches known given rest
    match rest with
    | [] => return (given, some first)
    | next :: rest =>
      let others := if next = endOfSwitches then rest else next :: rest
      return (given, ← readInput? (first :: others))

/-- What a run is to do. The input is a path, the text itself, or a dash for standard input; the
rulebook is a path. -/
inductive Command where
  /-- Print the summary of a compilation, or its graphs in full. -/
  | parse (input : Text) (rulebook : Option Text) (full pretty : Bool)
  /-- List the sections with their sizes. -/
  | sections (input : Text) (rulebook : Option Text) (json : Bool)
  /-- List the names that the input declares. -/
  | dialogues (input : Text) (json : Bool)
  /-- Print the rulebook that is in effect. -/
  | config (rulebook : Option Text)
deriving DecidableEq, Repr

inductive Subcommand where
  | parse | sections | dialogues | config
deriving DecidableEq, Repr

namespace Subcommand

def named? (name : Text) : Option Subcommand :=
  match String.ofList name with
  | "parse" => some parse
  | "sections" => some sections
  | "dialogues" => some dialogues
  | "config" => some config
  | _ => none

def shared : List Switch := [.verbose, .quiet]

def switches : Subcommand → List Switch
  | parse => shared ++ [.rulebook, .full, .pretty]
  | sections => shared ++ [.rulebook, .json]
  | dialogues => shared ++ [.json]
  | config => shared ++ [.rulebook]

/-- The input of a run that is given none: standard input. -/
def defaultInput : Text := ['-']

def command (s : Subcommand) (given : Given) (input : Option Text) : Except Halt Command :=
  let source := input.getD defaultInput
  match s, input with
  | parse, _ => .ok (.parse source (given.value? .rulebook) (given.has .full) (given.has .pretty))
  | sections, _ => .ok (.sections source (given.value? .rulebook) (given.has .json))
  | dialogues, _ => .ok (.dialogues source (given.has .json))
  | config, none => .ok (.config (given.value? .rulebook))
  | config, some argument => .error (.misuse (.unexpected argument))

end Subcommand

structure Request where
  command : Command
  verbosity : Nat
  quiet : Bool
deriving DecidableEq, Repr

namespace Request

/-- Reads a command line. Verbosity that is asked for after the subcommand takes the place of
what is asked for before it. -/
def ofArguments (arguments : List Text) : Except Halt Request := do
  let (before, rest) ← readSwitches (.version :: Subcommand.shared) [] arguments
  match rest with
  | [] => .error (.misuse .missingSubcommand)
  | name :: rest =>
    match Subcommand.named? name with
    | none => .error (.misuse (.unknownSubcommand name))
    | some subcommand =>
      let (after, input) ← readArguments subcommand.switches rest
      return {
        command := ← subcommand.command after input
        verbosity := if after.has .verbose then after.count .verbose else before.count .verbose
        quiet := before.has .quiet || after.has .quiet }

end Request

end Storygraph.Cli
