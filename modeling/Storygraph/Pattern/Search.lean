import Storygraph.Pattern.Regex

/-!
# Searching a line

A line is read once, from its start to its end. The search keeps the expression, with a mark on
every set that has read the last character in some attempt at a match. Each character moves the
marks on, so the work for it does not exceed the size of the expression.
-/

namespace Storygraph.Pattern

/-- An expression at a position of a line. `reached` is the mark of a set. `skips` says whether a
part matches the empty text at the position, and `ends` whether a match of the part that read the
last character can end there. -/
inductive Marked where
  | empty
  | one (set : CharSet) (reached : Bool)
  | lineStart (skips : Bool)
  | look (holds : Option Char → Option Char → Bool) (skips : Bool)
  | seq (skips ends : Bool) (first second : Marked)
  | alt (skips ends : Bool) (left right : Marked)
  | plus (skips ends : Bool) (body : Marked)

namespace Marked

/-- Whether the expression matches the empty text here. -/
def skips : Marked → Bool
  | empty => true
  | one .. => false
  | lineStart skips | look _ skips | seq skips .. | alt skips .. | plus skips .. => skips

/-- Whether a match that read the last character can end here. -/
def ends : Marked → Bool
  | empty | lineStart _ | look .. => false
  | one _ reached => reached
  | seq _ ends .. | alt _ ends .. | plus _ ends _ => ends

/-- Whether some attempt at a match has read the last character. -/
def isLive : Marked → Bool
  | empty | lineStart _ | look .. => false
  | one _ reached => reached
  | seq _ _ p q | alt _ _ p q => p.isLive || q.isLive
  | plus _ _ p => p.isLive

def join (p q : Marked) : Marked :=
  seq (p.skips && q.skips) (q.ends || p.ends && q.skips) p q

def fork (p q : Marked) : Marked := alt (p.skips || q.skips) (p.ends || q.ends) p q

def loop (p : Marked) : Marked := plus p.skips p.ends p

def start (before after : Option Char) : Regex → Marked
  | .empty => empty
  | .one set => one set false
  | .lineStart => lineStart before.isNone
  | .look holds => look holds (holds before after)
  | .seq r s => join (start before after r) (start before after s)
  | .alt r s => fork (start before after r) (start before after s)
  | .plus r => loop (start before after r)

/-- Reads a character, which `after` follows. A match of the part may begin with it if `enter`. -/
def step (c : Char) (after : Option Char) : (enter : Bool) → Marked → Marked
  | _, empty => empty
  | enter, one set _ => one set (enter && set c)
  | _, lineStart _ => lineStart false
  | _, look holds _ => look holds (holds (some c) after)
  | enter, seq _ _ p q =>
    join (step c after enter p) (step c after (p.ends || enter && p.skips) q)
  | enter, alt _ _ p q => fork (step c after enter p) (step c after enter q)
  | enter, plus _ _ p => loop (step c after (enter || p.ends) p)

/-- Whether a match ends here or in the rest of the line. Attempts begin at the next positions too
unless the expression is pinned to the start. -/
def finds (pinned : Bool) (p : Marked) : Text → Bool
  | [] => p.skips || p.ends
  | c :: rest =>
    let next := p.step c rest.head? true
    p.skips || p.ends || (!pinned || next.isLive) && next.finds pinned rest

end Marked

/-- Whether the expression matches somewhere in the line. -/
def Regex.isMatch (r : Regex) (line : Text) : Bool :=
  (Marked.start none line.head? r).finds r.isPinned line

end Storygraph.Pattern
