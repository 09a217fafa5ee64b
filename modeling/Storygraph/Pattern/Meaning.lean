import Storygraph.Pattern.Expr
import Storygraph.Pattern.Property
import Storygraph.Pattern.Regex
import Storygraph.Pattern.Source

/-!
# The meaning of patterns

`Expr.regex` turns a pattern into the regular expression that it stands for under the modes in
force. A pattern may never match a text that is cut inside a character: with Unicode mode off
a class may hold ASCII characters only, so complements and the dot are refused there.
-/

namespace Storygraph.Pattern

structure Modes where
  ignoreCase : Bool
  multiLine : Bool
  dotAll : Bool
  unicode : Bool
  crlf : Bool

namespace Modes

def initial : Modes := ⟨true, false, false, true, false⟩

/-- Switches one mode. Whether a repetition is greedy changes where a match ends, and verbose
mode is a matter of reading: neither decides if there is a match. -/
def switch (m : Modes) : Flag × Bool → Modes
  | (.ignoreCase, on) => { m with ignoreCase := on }
  | (.multiLine, on) => { m with multiLine := on }
  | (.dotAll, on) => { m with dotAll := on }
  | (.unicode, on) => { m with unicode := on }
  | (.crlf, on) => { m with crlf := on }
  | (.swapGreed, _) | (.verbose, _) => m

def switchAll (m : Modes) (switches : Switches) : Modes := switches.foldl switch m

/-- The forms of a character that a class does not tell apart. -/
def forms (m : Modes) (c : Char) : List Char :=
  if !m.ignoreCase then [c] else if m.unicode then Unicode.foldOrbit c else asciiForms c

def members (m : Modes) (k : CharClass) : CharSet := fun c => k (m.forms c)

def isWord (m : Modes) (c : Char) : Bool :=
  if m.unicode then Unicode.isWord c else Unicode.isAsciiWord c

def dot (m : Modes) : CharSet := fun c => m.dotAll || !(c == '\n' || (m.crlf && c == '\r'))

end Modes

def atLineStart (m : Modes) (before after : Option Char) : Bool :=
  match before with
  | none => true
  | some b => m.multiLine && (b == '\n' || (m.crlf && b == '\r' && after != some '\n'))

def atLineEnd (m : Modes) (before after : Option Char) : Bool :=
  match after with
  | none => true
  | some a =>
    m.multiLine &&
      if m.crlf then a == '\r' || (a == '\n' && before != some '\r') else a == '\n'

def Anchor.holds (m : Modes) (anchor : Anchor) (before after : Option Char) : Bool :=
  let left := before.any m.isWord
  let right := after.any m.isWord
  match anchor with
  | .lineStart => atLineStart m before after
  | .lineEnd => atLineEnd m before after
  | .textStart => before.isNone
  | .textEnd => after.isNone
  | .wordBoundary => left != right
  | .notWordBoundary => left == right
  | .wordStart => !left && right
  | .wordEnd => left && !right
  | .wordStartHalf => !left
  | .wordEndHalf => !right

/-- The condition that an anchor stands for. -/
def Anchor.regex (m : Modes) (anchor : Anchor) : Regex :=
  match anchor with
  | .textStart => .lineStart
  | .lineStart => if m.multiLine then .look (anchor.holds m) else .lineStart
  | _ => .look (anchor.holds m)

def NamedClass.set : NamedClass → CharSet
  | alnum => fun c => isAsciiLetter c || isAsciiDigit c
  | alpha => isAsciiLetter
  | ascii => .ascii
  | blank => .ofList ['\t', ' ']
  | cntrl => fun c => c.toNat < 0x20 || c.toNat == 0x7F
  | digit => isAsciiDigit
  | graph => .range '!' '~'
  | lower => .range 'a' 'z'
  | print => .range ' ' '~'
  | punct => fun c => '!' ≤ c && c ≤ '~' && !(isAsciiLetter c || isAsciiDigit c)
  | space => .ofList ['\t', '\n', '\x0B', '\x0C', '\r', ' ']
  | upper => .range 'A' 'Z'
  | word => Unicode.isAsciiWord
  | xdigit => fun c => (hexValue? c).isSome

/-- The characters of a class that has an escape. -/
def ShortClass.set (unicode : Bool) : ShortClass → CharSet
  | digit => if unicode then Unicode.Category.decimalNumber.contains else isAsciiDigit
  | blank => if unicode then isBlank else NamedClass.space.set
  | word => if unicode then Unicode.isWord else Unicode.isAsciiWord

def SetOp.apply : SetOp → CharClass → CharClass → CharClass
  | .intersection => .inter
  | .difference => .diff
  | .symmetricDifference => .symmDiff

/-- Refuses a complement while Unicode mode is off, as it would leave ASCII. -/
def checkNegation (m : Modes) (span : Span) (negated : Bool) : Except Error Unit :=
  if negated && !m.unicode then refuse .invalidUtf8 span else .ok ()

def shortSet (m : Modes) (span : Span) (negated : Bool) (cls : ShortClass) :
    Except Error CharSet := do
  checkNegation m span negated
  return (cls.set m.unicode).negateIf negated

def propertyClass (m : Modes) (span : Span) (negated : Bool) (query : PropertyQuery) :
    Except Error CharClass :=
  if !m.unicode then refuse .unicodeOff span
  else
    match query.set with
    | .ok set => .ok ((CharClass.ofSet set).negateIf negated)
    | .error fault => refuse fault span

/-- Refuses a literal that names a byte outside ASCII while Unicode mode is off. -/
def checkByte (m : Modes) (lit : Literal) : Except Error Unit :=
  if !m.unicode && lit.byte && 128 ≤ lit.char.toNat then refuse .invalidUtf8 lit.span else .ok ()

/-- The character of a literal in a class, which must be ASCII while Unicode mode is off. -/
def classChar (m : Modes) (lit : Literal) : Except Error Char := do
  checkByte m lit
  if !m.unicode && 128 ≤ lit.char.toNat then refuse .unicodeOff lit.span else return lit.char

mutual

/-- The class that a class expression stands for. Its single parts are tested on every form of a
character; a class with an escape is complemented before that, a named class or property after. -/
def ClassExpr.meaning (m : Modes) : ClassExpr → Except Error CharClass
  | .empty _ => .ok .empty
  | .literal lit => do return .ofSet (.single (← classChar m lit))
  | .range first last => do
    let low ← classChar m first
    let high ← classChar m last
    return .ofSet (.range low high)
  | .named span negated cls => do
    checkNegation m span negated
    return (CharClass.ofSet cls.set).negateIf negated
  | .short span negated cls => do return .ofSet (← shortSet m span negated cls)
  | .property span negated query => propertyClass m span negated query
  | .union _ items => ClassExpr.unionMeaning m items
  | .binary _ op left right => do
    let left ← left.meaning m
    let right ← right.meaning m
    return op.apply left right
  | .bracketed span negated body => do
    let k ← body.meaning m
    checkNegation m span negated
    return k.negateIf negated

def ClassExpr.unionMeaning (m : Modes) : List ClassExpr → Except Error CharClass
  | [] => .ok .empty
  | item :: items => do
    let s ← item.meaning m
    let t ← ClassExpr.unionMeaning m items
    return s.union t

end

/-- The set of a literal. While Unicode mode is off, a character outside ASCII has no other form. -/
def literalSet (m : Modes) (lit : Literal) : Except Error CharSet := do
  checkByte m lit
  if m.ignoreCase && m.unicode then
    let image := Unicode.foldCode lit.char.toNat
    return fun c => Unicode.foldCode c.toNat == image
  else return m.members (.ofSet (.single lit.char))

mutual

/-- The regular expression of a pattern under the modes in force, and the modes after it. -/
def Expr.regex (m : Modes) : Expr → Except Error (Regex × Modes)
  | .empty _ => .ok (.empty, m)
  | .switch _ switches => .ok (.empty, m.switchAll switches)
  | .literal lit => do return (.one (← literalSet m lit), m)
  | .dot span => if m.unicode then .ok (.one m.dot, m) else refuse .invalidUtf8 span
  | .anchor _ a => .ok (a.regex m, m)
  | .short span negated cls => do return (.one (← shortSet m span negated cls), m)
  | .property span negated query => do
    return (.one (m.members (← propertyClass m span negated query)), m)
  | .bracketed span negated body => do
    let k ← body.meaning m
    checkNegation m span negated
    return (.one (m.members (k.negateIf negated)), m)
  | .repetition _ least most body => do
    let (r, m) ← body.regex m
    return (r.repeated least most, m)
  | .group _ switches body => do
    let (r, _) ← body.regex (m.switchAll switches)
    return (r, m)
  | .alternation _ branches => do
    let (rs, m) ← Expr.regexes m branches
    return (.anyOf rs, m)
  | .concat _ parts => do
    let (rs, m) ← Expr.regexes m parts
    return (.concat rs, m)

/-- The regular expressions of consecutive parts; each switches modes for those after it. -/
def Expr.regexes (m : Modes) : List Expr → Except Error (List Regex × Modes)
  | [] => .ok ([], m)
  | e :: es => do
    let (r, m) ← e.regex m
    let (rs, m) ← Expr.regexes m es
    return (r :: rs, m)

end

end Storygraph.Pattern
