import Storygraph.Pattern.Meaning
import Storygraph.Pattern.Parse

/-!
# Patterns without their places

The spans in a pattern's tree serve its errors alone: the expression that the tree stands for
(`Expr.regex_bare`) and how deeply it is nested (`Expr.tooDeep?_bare`) do not depend on them.
-/

namespace Storygraph.Pattern

/-- The span that stands for any other. -/
def Span.zero : Span := ⟨0, 0⟩

def Literal.bare (lit : Literal) : Literal := { lit with span := .zero }

mutual

def ClassExpr.bare : ClassExpr → ClassExpr
  | .empty _ => .empty .zero
  | .literal lit => .literal lit.bare
  | .range first last => .range first.bare last.bare
  | .named _ negated cls => .named .zero negated cls
  | .short _ negated cls => .short .zero negated cls
  | .property _ negated query => .property .zero negated query
  | .union _ items => .union .zero (ClassExpr.bareAll items)
  | .binary _ op left right => .binary .zero op left.bare right.bare
  | .bracketed _ negated body => .bracketed .zero negated body.bare

def ClassExpr.bareAll : List ClassExpr → List ClassExpr
  | [] => []
  | item :: items => item.bare :: ClassExpr.bareAll items

end

mutual

def Expr.bare : Expr → Expr
  | .empty _ => .empty .zero
  | .switch _ switches => .switch .zero switches
  | .literal lit => .literal lit.bare
  | .dot _ => .dot .zero
  | .anchor _ a => .anchor .zero a
  | .short _ negated cls => .short .zero negated cls
  | .property _ negated query => .property .zero negated query
  | .bracketed _ negated body => .bracketed .zero negated body.bare
  | .repetition _ least most body => .repetition .zero least most body.bare
  | .group _ switches body => .group .zero switches body.bare
  | .alternation _ branches => .alternation .zero (Expr.bareAll branches)
  | .concat _ parts => .concat .zero (Expr.bareAll parts)

def Expr.bareAll : List Expr → List Expr
  | [] => []
  | e :: es => e.bare :: Expr.bareAll es

end

theorem ClassExpr.bareAll_eq_map (items : List ClassExpr) : bareAll items = items.map bare := by
  induction items with
  | nil => rfl
  | cons item items ih => rw [bareAll, ih, List.map_cons]

theorem Expr.bareAll_eq_map (es : List Expr) : bareAll es = es.map bare := by
  induction es with
  | nil => rfl
  | cons e es ih => rw [bareAll, ih, List.map_cons]

/-! ### Results without errors -/

section

variable {ε α β : Type}

theorem toOption_bind (x : Except ε α) (f : α → Except ε β) :
    (x >>= f).toOption = x.toOption.bind fun a => (f a).toOption := by
  cases x <;> rfl

theorem toOption_bind_congr {x x' : Except ε α} {f f' : α → Except ε β}
    (first : x.toOption = x'.toOption) (second : ∀ a, (f a).toOption = (f' a).toOption) :
    (x >>= f).toOption = (x' >>= f').toOption := by
  rw [toOption_bind, toOption_bind, first]
  exact congrArg _ (funext second)

end

theorem toOption_checkNegation (m : Modes) (span span' : Span) (negated : Bool) :
    (checkNegation m span negated).toOption = (checkNegation m span' negated).toOption := by
  unfold checkNegation
  split <;> rfl

theorem toOption_shortSet (m : Modes) (span span' : Span) (negated : Bool) (cls : ShortClass) :
    (shortSet m span negated cls).toOption = (shortSet m span' negated cls).toOption :=
  toOption_bind_congr (toOption_checkNegation m span span' negated) fun _ => rfl

theorem toOption_propertyClass (m : Modes) (span span' : Span) (negated : Bool)
    (query : PropertyQuery) : (propertyClass m span negated query).toOption =
      (propertyClass m span' negated query).toOption := by
  unfold propertyClass
  split
  · rfl
  · split <;> rfl

theorem toOption_checkByte_bare (m : Modes) (lit : Literal) :
    (checkByte m lit.bare).toOption = (checkByte m lit).toOption := by
  unfold checkByte
  change (if !m.unicode && lit.byte && 128 ≤ lit.char.toNat then _ else _ : Except _ _).toOption = _
  split <;> rfl

theorem toOption_classChar_bare (m : Modes) (lit : Literal) :
    (classChar m lit.bare).toOption = (classChar m lit).toOption := by
  refine toOption_bind_congr (toOption_checkByte_bare m lit) fun _ => ?_
  change (if !m.unicode && 128 ≤ lit.char.toNat then _ else _ : Except _ _).toOption = _
  split <;> rfl

theorem toOption_literalSet_bare (m : Modes) (lit : Literal) :
    (literalSet m lit.bare).toOption = (literalSet m lit).toOption :=
  toOption_bind_congr (toOption_checkByte_bare m lit) fun _ => rfl

/-! ### Meaning -/

mutual

theorem ClassExpr.meaning_bare (m : Modes) (e : ClassExpr) :
    (e.bare.meaning m).toOption = (e.meaning m).toOption := by
  cases e with
  | empty => rfl
  | literal lit =>
    rw [bare, meaning, meaning]
    exact toOption_bind_congr (toOption_classChar_bare m lit) fun _ => rfl
  | range first last =>
    rw [bare, meaning, meaning]
    exact toOption_bind_congr (toOption_classChar_bare m first) fun _ =>
      toOption_bind_congr (toOption_classChar_bare m last) fun _ => rfl
  | named span negated cls =>
    rw [bare, meaning, meaning]
    exact toOption_bind_congr (toOption_checkNegation m _ _ negated) fun _ => rfl
  | short span negated cls =>
    rw [bare, meaning, meaning]
    exact toOption_bind_congr (toOption_shortSet m _ _ negated cls) fun _ => rfl
  | property span negated query =>
    rw [bare, meaning, meaning]
    exact toOption_propertyClass m _ _ negated query
  | union span items =>
    rw [bare, meaning, meaning]
    exact unionMeaning_bare m items
  | binary span op left right =>
    rw [bare, meaning, meaning]
    exact toOption_bind_congr (meaning_bare m left) fun _ =>
      toOption_bind_congr (meaning_bare m right) fun _ => rfl
  | bracketed span negated body =>
    rw [bare, meaning, meaning]
    exact toOption_bind_congr (meaning_bare m body) fun _ =>
      toOption_bind_congr (toOption_checkNegation m _ _ negated) fun _ => rfl

theorem ClassExpr.unionMeaning_bare (m : Modes) (items : List ClassExpr) :
    (unionMeaning m (bareAll items)).toOption = (unionMeaning m items).toOption := by
  cases items with
  | nil => rfl
  | cons item items =>
    rw [bareAll, unionMeaning, unionMeaning]
    exact toOption_bind_congr (meaning_bare m item) fun _ =>
      toOption_bind_congr (unionMeaning_bare m items) fun _ => rfl

end

mutual

theorem Expr.regex_bare (m : Modes) (e : Expr) :
    (e.bare.regex m).toOption = (e.regex m).toOption := by
  cases e with
  | empty | switch | anchor => rfl
  | literal lit =>
    rw [bare, regex, regex]
    exact toOption_bind_congr (toOption_literalSet_bare m lit) fun _ => rfl
  | dot span =>
    rw [bare, regex, regex]
    split <;> rfl
  | short span negated cls =>
    rw [bare, regex, regex]
    exact toOption_bind_congr (toOption_shortSet m _ _ negated cls) fun _ => rfl
  | property span negated query =>
    rw [bare, regex, regex]
    exact toOption_bind_congr (toOption_propertyClass m _ _ negated query) fun _ => rfl
  | bracketed span negated body =>
    rw [bare, regex, regex]
    exact toOption_bind_congr (ClassExpr.meaning_bare m body) fun _ =>
      toOption_bind_congr (toOption_checkNegation m _ _ negated) fun _ => rfl
  | repetition span least most body =>
    rw [bare, regex, regex]
    exact toOption_bind_congr (regex_bare m body) fun _ => rfl
  | group span switches body =>
    rw [bare, regex, regex]
    exact toOption_bind_congr (regex_bare _ body) fun _ => rfl
  | alternation span branches =>
    rw [bare, regex, regex]
    exact toOption_bind_congr (regexes_bare m branches) fun _ => rfl
  | concat span parts =>
    rw [bare, regex, regex]
    exact toOption_bind_congr (regexes_bare m parts) fun _ => rfl

theorem Expr.regexes_bare (m : Modes) (es : List Expr) :
    (regexes m (bareAll es)).toOption = (regexes m es).toOption := by
  cases es with
  | nil => rfl
  | cons e es =>
    rw [bareAll, regexes, regexes]
    exact toOption_bind_congr (regex_bare m e) fun p =>
      toOption_bind_congr (regexes_bare p.2 es) fun _ => rfl

end

/-! ### Depth -/

theorem isNone_or_congr {α : Type} {a a' b b' : Option α} (first : a.isNone = a'.isNone)
    (second : b.isNone = b'.isNone) : (a.or b).isNone = (a'.or b').isNone := by
  rw [Option.isNone_or, Option.isNone_or, first, second]

mutual

theorem ClassExpr.tooDeep?_bare (room : Nat) (e : ClassExpr) :
    (e.bare.tooDeep? room).isNone = (e.tooDeep? room).isNone := by
  cases e with
  | empty | literal | range | named | short | property => rfl
  | union span items =>
    cases room with
    | zero => rfl
    | succ room => exact anyTooDeep?_bare room items
  | binary span op left right =>
    cases room with
    | zero => rfl
    | succ room => exact isNone_or_congr (tooDeep?_bare room left) (tooDeep?_bare room right)
  | bracketed span negated body =>
    cases room with
    | zero => rfl
    | succ room => exact tooDeep?_bare room body

theorem ClassExpr.anyTooDeep?_bare (room : Nat) (items : List ClassExpr) :
    (anyTooDeep? room (bareAll items)).isNone = (anyTooDeep? room items).isNone := by
  cases items with
  | nil => rfl
  | cons item items =>
    exact isNone_or_congr (tooDeep?_bare room item) (anyTooDeep?_bare room items)

end

mutual

theorem Expr.tooDeep?_bare (room : Nat) (e : Expr) :
    (e.bare.tooDeep? room).isNone = (e.tooDeep? room).isNone := by
  cases e with
  | empty | switch | literal | dot | anchor | short | property => rfl
  | bracketed span negated body =>
    cases room with
    | zero => rfl
    | succ room => exact body.tooDeep?_bare room
  | repetition span least most body =>
    cases room with
    | zero => rfl
    | succ room => exact tooDeep?_bare room body
  | group span switches body =>
    cases room with
    | zero => rfl
    | succ room => exact tooDeep?_bare room body
  | alternation span branches =>
    cases room with
    | zero => rfl
    | succ room => exact anyTooDeep?_bare room branches
  | concat span parts =>
    cases room with
    | zero => rfl
    | succ room => exact anyTooDeep?_bare room parts

theorem Expr.anyTooDeep?_bare (room : Nat) (es : List Expr) :
    (anyTooDeep? room (bareAll es)).isNone = (anyTooDeep? room es).isNone := by
  cases es with
  | nil => rfl
  | cons e es => exact isNone_or_congr (tooDeep?_bare room e) (anyTooDeep?_bare room es)

end

/-! ### More room -/

mutual

theorem ClassExpr.tooDeep?_succ {room : Nat} (e : ClassExpr) (fits : e.tooDeep? room = none) :
    e.tooDeep? (room + 1) = none := by
  cases e with
  | empty | literal | range | named | short | property => rfl
  | union span items =>
    cases room with
    | zero => cases fits
    | succ room => exact anyTooDeep?_succ items fits
  | binary span op left right =>
    cases room with
    | zero => cases fits
    | succ room =>
      obtain ⟨first, second⟩ := Option.or_eq_none_iff.mp fits
      exact Option.or_eq_none_iff.mpr ⟨tooDeep?_succ left first, tooDeep?_succ right second⟩
  | bracketed span negated body =>
    cases room with
    | zero => cases fits
    | succ room => exact tooDeep?_succ body fits

theorem ClassExpr.anyTooDeep?_succ {room : Nat} (items : List ClassExpr)
    (fits : anyTooDeep? room items = none) : anyTooDeep? (room + 1) items = none := by
  cases items with
  | nil => rfl
  | cons item items =>
    obtain ⟨first, others⟩ := Option.or_eq_none_iff.mp fits
    exact Option.or_eq_none_iff.mpr ⟨tooDeep?_succ item first, anyTooDeep?_succ items others⟩

end

mutual

theorem Expr.tooDeep?_succ {room : Nat} (e : Expr) (fits : e.tooDeep? room = none) :
    e.tooDeep? (room + 1) = none := by
  cases e with
  | empty | switch | literal | dot | anchor | short | property => rfl
  | bracketed span negated body =>
    cases room with
    | zero => cases fits
    | succ room => exact body.tooDeep?_succ fits
  | repetition span least most body =>
    cases room with
    | zero => cases fits
    | succ room => exact tooDeep?_succ body fits
  | group span switches body =>
    cases room with
    | zero => cases fits
    | succ room => exact tooDeep?_succ body fits
  | alternation span branches =>
    cases room with
    | zero => cases fits
    | succ room => exact anyTooDeep?_succ branches fits
  | concat span parts =>
    cases room with
    | zero => cases fits
    | succ room => exact anyTooDeep?_succ parts fits

theorem Expr.anyTooDeep?_succ {room : Nat} (es : List Expr) (fits : anyTooDeep? room es = none) :
    anyTooDeep? (room + 1) es = none := by
  cases es with
  | nil => rfl
  | cons e es =>
    obtain ⟨first, others⟩ := Option.or_eq_none_iff.mp fits
    exact Option.or_eq_none_iff.mpr ⟨tooDeep?_succ e first, anyTooDeep?_succ es others⟩

end

end Storygraph.Pattern
