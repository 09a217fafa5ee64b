import Storygraph.Unicode.Newest
import Storygraph.Pattern.Source

/-!
# Group openings

What follows an opening parenthesis: a name, flags for the group, or flags for what follows.
-/

namespace Storygraph.Pattern

def flag? : Char → Option Flag
  | 'i' => some .ignoreCase
  | 'm' => some .multiLine
  | 's' => some .dotAll
  | 'U' => some .swapGreed
  | 'u' => some .unicode
  | 'R' => some .crlf
  | 'x' => some .verbose
  | _ => none

/-- Flags as written; `none` is the `-` that negates those after it. -/
abbrev WrittenFlags := List (Option Flag × Span)

def WrittenFlags.switches (items : WrittenFlags) : Switches :=
  let on := items.takeWhile (·.1.isSome)
  let off := items.dropWhile (·.1.isSome)
  on.filterMap (fun item => item.1.map (·, true)) ++ off.filterMap fun item => item.1.map (·, false)

def Switches.find? (switches : Switches) (flag : Flag) : Option Bool :=
  (List.find? (·.1 = flag) switches).map (·.2)

/-- Reads flags up to a colon or closing parenthesis. `seen` holds those before, last first. -/
def readFlags (offset : Nat) (seen : WrittenFlags) : Text → Except Error (WrittenFlags × Text)
  | [] => refuse .flagsAtEnd ⟨offset, offset⟩
  | c :: t =>
    let span : Span := ⟨offset, offset + 1⟩
    if c = ':' ∨ c = ')' then
      match seen with
      | (none, dash) :: _ => refuse .flagDangling dash
      | _ => .ok (seen.reverse, c :: t)
    else if c = '-' then
      match seen.find? (·.1 = none) with
      | some (_, earlier) => refuseTwice .negationTwice span earlier
      | none => readFlags (offset + 1) ((none, span) :: seen) t
    else
      match flag? c with
      | none => refuse .flagUnknown span
      | some flag =>
        match seen.find? (·.1 = some flag) with
        | some (_, earlier) => refuseTwice .flagTwice span earlier
        | none => readFlags (offset + 1) ((some flag, span) :: seen) t

def isNameChar (atStart : Bool) (c : Char) : Bool :=
  c == '_' ||
    if atStart then Unicode.Newest.isAlphabetic c
    else c == '.' || c == '[' || c == ']' || Unicode.Newest.isAlphanumeric c

abbrev GroupNames := List (Text × Span)

def readName (names : GroupNames) (s : Source) : Except Error (GroupNames × Source) :=
  let name := s.rest.takeWhile (· ≠ '>')
  let close := s.drop name.length
  let span := close.since s.offset
  match name.zipIdx.find? fun (c, i) => !isNameChar (i == 0) c with
  | some (_, i) => refuse .nameCharacter ⟨s.offset + i, s.offset + i + 1⟩
  | none =>
    if close.char? = none then refuse .nameAtEnd close.here
    else if name = [] then refuse .nameEmpty s.here
    else
      match names.find? (·.1 = name) with
      | some (_, earlier) => refuseTwice .nameTwice span earlier
      | none => .ok ((name, span) :: names, close.next)

inductive Opening where
  | switch (span : Span) (switches : Switches)
  | group (parenthesis : Span) (switches : Switches)

/-- The beginnings of look-around groups, which patterns do not have. -/
def lookArounds : List String := ["?=", "?!", "?<=", "?<!"]

def readOpening (names : GroupNames) (s : Source) :
    Except Error (Opening × GroupNames × Source) := do
  let parenthesis := s.charSpan
  let inner := s.step
  if let some after := lookArounds.findSome? inner.take? then
    refuse .lookAround (after.since parenthesis.start)
  else if let some named := (inner.take? "?P<").or (inner.take? "?<") then
    let (names, after) ← readName names named
    return (.group parenthesis [], names, after)
  else if let some flags := inner.take? "?" then
    if flags.rest = [] then refuse .groupUnclosed parenthesis
    else
      let (items, rest) ← readFlags flags.offset [] flags.rest
      let last := flags.drop (flags.rest.length - rest.length)
      let after := last.next
      if last.char? = some ')' then
        if items.isEmpty then refuse .nothingToRepeat inner.here
        else return (.switch (after.since parenthesis.start) items.switches, names, after)
      else return (.group parenthesis items.switches, names, after)
  else return (.group parenthesis [], names, inner)

end Storygraph.Pattern
