import Storygraph.Text.Basic

/-!
# Pattern expressions

The tree that a pattern is read into. Every part that a later error can point at keeps the span
of the pattern's text that it came from.
-/

namespace Storygraph.Pattern

/-- The characters of a pattern from the one at offset `start` to the one before `stop`. -/
structure Span where
  start : Nat
  stop : Nat
deriving DecidableEq, Repr

inductive Flag where
  | ignoreCase | multiLine | dotAll | swapGreed | unicode | crlf | verbose
deriving DecidableEq, Repr

/-- Flags with the state that each is switched to, in the order they are written. -/
abbrev Switches := List (Flag × Bool)

structure Literal where
  span : Span
  char : Char
  /-- Written as two hexadecimal digits, so that it names a byte where Unicode mode is off. -/
  byte : Bool

inductive Anchor where
  | lineStart | lineEnd | textStart | textEnd
  | wordBoundary | notWordBoundary | wordStart | wordEnd | wordStartHalf | wordEndHalf
deriving DecidableEq, Repr

inductive ShortClass where
  | digit | blank | word
deriving DecidableEq, Repr

inductive NamedClass where
  | alnum | alpha | ascii | blank | cntrl | digit | graph | lower | print | punct | space | upper
  | word | xdigit
deriving DecidableEq, Repr

inductive PropertyQuery where
  | name (name : Text)
  | value (property value : Text)
deriving DecidableEq, Repr

inductive SetOp where
  | intersection | difference | symmetricDifference
deriving DecidableEq, Repr

inductive ClassExpr where
  | empty (span : Span)
  | literal (lit : Literal)
  | range (first last : Literal)
  | named (span : Span) (negated : Bool) (cls : NamedClass)
  | short (span : Span) (negated : Bool) (cls : ShortClass)
  | property (span : Span) (negated : Bool) (query : PropertyQuery)
  | union (span : Span) (items : List ClassExpr)
  | binary (span : Span) (op : SetOp) (left right : ClassExpr)
  | bracketed (span : Span) (negated : Bool) (body : ClassExpr)

def ClassExpr.span : ClassExpr → Span
  | empty span | named span _ _ | short span _ _ | property span _ _ | union span _
  | binary span _ _ _ | bracketed span _ _ => span
  | literal lit => lit.span
  | range first last => ⟨first.span.start, last.span.stop⟩

inductive Expr where
  | empty (span : Span)
  /-- Switches flags for what follows in the same group. -/
  | switch (span : Span) (switches : Switches)
  | literal (lit : Literal)
  | dot (span : Span)
  | anchor (span : Span) (anchor : Anchor)
  | short (span : Span) (negated : Bool) (cls : ShortClass)
  | property (span : Span) (negated : Bool) (query : PropertyQuery)
  | bracketed (span : Span) (negated : Bool) (body : ClassExpr)
  | repetition (span : Span) (least : Nat) (most : Option Nat) (body : Expr)
  | group (span : Span) (switches : Switches) (body : Expr)
  | alternation (span : Span) (branches : List Expr)
  | concat (span : Span) (parts : List Expr)

def Expr.span : Expr → Span
  | empty span | switch span _ | dot span | anchor span _ | short span _ _ | property span _ _
  | bracketed span _ _ | repetition span _ _ _ | group span _ _ | alternation span _
  | concat span _ => span
  | literal lit => lit.span

end Storygraph.Pattern
