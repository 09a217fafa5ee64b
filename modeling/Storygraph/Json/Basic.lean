import Storygraph.Text.Decimal

/-!
# Writing JSON

The JSON values that are written, in a compact form without blanks and in an indented form.
-/

namespace Storygraph

/-- A JSON value without fractions and truth values. The members of a record keep their order. -/
inductive Json where
  | natural (n : Nat)
  | text (t : Text)
  | list (items : List Json)
  | record (members : List (Text × Json))

namespace Json

/-- A character inside a string. Quotation marks, backslashes and control characters below the
space are escaped, and nothing else. -/
def escapeChar (c : Char) : Text :=
  if c = '"' then ['\\', '"']
  else if c = '\\' then ['\\', '\\']
  else if c = '\x08' then ['\\', 'b']
  else if c = '\t' then ['\\', 't']
  else if c = '\n' then ['\\', 'n']
  else if c = '\x0C' then ['\\', 'f']
  else if c = '\r' then ['\\', 'r']
  else if c.toNat < 0x20 then
    ['\\', 'u', '0', '0', digitChar (c.toNat / 16), digitChar (c.toNat % 16)]
  else [c]

def quote (t : Text) : Text := '"' :: t.flatMap escapeChar ++ ['"']

mutual

def compact : Json → Text
  | natural n => Text.ofNat n
  | text t => quote t
  | list items => '[' :: compactItems items ++ [']']
  | record members => '{' :: compactMembers members ++ ['}']

def compactItems : List Json → Text
  | [] => []
  | [item] => compact item
  | item :: rest => compact item ++ ',' :: compactItems rest

def compactMembers : List (Text × Json) → Text
  | [] => []
  | [(key, value)] => quote key ++ ':' :: compact value
  | (key, value) :: rest => quote key ++ ':' :: compact value ++ ',' :: compactMembers rest

end

def newline (depth : Nat) : Text := '\n' :: List.replicate (2 * depth) ' '

mutual

/-- A value with every item and member on a line of its own, two blanks deeper than what holds
it. Lists and records that are empty stay on the line. -/
def pretty (depth : Nat) : Json → Text
  | natural n => Text.ofNat n
  | text t => quote t
  | list [] => ['[', ']']
  | list items => '[' :: prettyItems (depth + 1) items ++ newline depth ++ [']']
  | record [] => ['{', '}']
  | record members => '{' :: prettyMembers (depth + 1) members ++ newline depth ++ ['}']

def prettyItems (depth : Nat) : List Json → Text
  | [] => []
  | [item] => newline depth ++ pretty depth item
  | item :: rest => newline depth ++ pretty depth item ++ ',' :: prettyItems depth rest

def prettyMembers (depth : Nat) : List (Text × Json) → Text
  | [] => []
  | [(key, value)] => newline depth ++ quote key ++ ':' :: ' ' :: pretty depth value
  | (key, value) :: rest =>
    newline depth ++ quote key ++ ':' :: ' ' :: pretty depth value ++
      ',' :: prettyMembers depth rest

end

def indented (value : Json) : Text := pretty 0 value

/-- A record from the names of its members. -/
def object (members : List (String × Json)) : Json :=
  record (members.map fun (key, value) => (key.toList, value))

end Json

end Storygraph
