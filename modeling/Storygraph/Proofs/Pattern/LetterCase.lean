import Mathlib.Data.Finset.Dedup
import Mathlib.Data.List.Find
import Storygraph.Proofs.Compiling
import Storygraph.Proofs.Pattern.Matching

/-!
# Patterns and letter case

Patterns are read with letter case ignored. Unless a pattern switches that off, the expression it
stands for answers alike for capital and small ASCII letters (`Expr.caseBlind_regex`), and so do
the search (`Regex.isMatch_asciiLower`) and a classifier made of such patterns
(`Classifier.classify_asciiLower`).
-/

namespace Storygraph

/-- What has the same value for the small letters as for the capital ones has it for all characters
up to ASCII letter case. -/
theorem apply_asciiLower {α : Type} {f : Char → α}
    (alike : ∀ i < 26, f (Char.ofNat (97 + i)) = f (Char.ofNat (65 + i))) (c : Char) :
    f (asciiLower c) = f c := by
  unfold asciiLower
  split
  · rename_i capital
    have low : 65 ≤ c.toNat := capital.1
    have high : c.toNat ≤ 90 := capital.2
    have here := alike (c.toNat - 65) (by omega)
    rwa [show 97 + (c.toNat - 65) = c.toNat + 32 by omega,
      show 65 + (c.toNat - 65) = c.toNat by omega, Char.ofNat_toNat] at here
  · rfl

theorem isBlank_asciiLower (c : Char) : isBlank (asciiLower c) = isBlank c :=
  apply_asciiLower (by decide +kernel) c

namespace Pattern

/-! ### Searching -/

def Regex.CaseBlind : Regex → Prop
  | empty | lineStart => True
  | one set => ∀ c, set (asciiLower c) = set c
  | look holds => ∀ before after,
      holds (before.map asciiLower) (after.map asciiLower) = holds before after
  | seq r s | alt r s => r.CaseBlind ∧ s.CaseBlind
  | plus r => r.CaseBlind

namespace Marked

theorem start_asciiLower {r : Regex} (blind : r.CaseBlind) (before after : Option Char) :
    start (before.map asciiLower) (after.map asciiLower) r = start before after r := by
  induction r with
  | empty | one => rfl
  | lineStart => rw [start, start, Option.isNone_map]
  | look holds => rw [start, start, blind]
  | seq r s ihr ihs => rw [start, start, ihr blind.1, ihs blind.2]
  | alt r s ihr ihs => rw [start, start, ihr blind.1, ihs blind.2]
  | plus r ih => rw [start, start, ih blind]

theorem step_asciiLower {p : Marked} (blind : p.erase.CaseBlind) (c : Char) (after : Option Char)
    (enter : Bool) :
    p.step (asciiLower c) (after.map asciiLower) enter = p.step c after enter := by
  induction p generalizing enter with
  | empty | lineStart => rfl
  | one set reached => rw [step, step, blind]
  | look holds => rw [step, step, ← blind (some c) after, Option.map_some]
  | seq _ _ p q ihp ihq => rw [step, step, ihp blind.1, ihq blind.2]
  | alt _ _ p q ihp ihq => rw [step, step, ihp blind.1, ihq blind.2]
  | plus _ _ p ih => rw [step, step, ih blind]

theorem finds_asciiLower {pinned : Bool} {p : Marked} (blind : p.erase.CaseBlind) (line : Text) :
    p.finds pinned line.asciiLower = p.finds pinned line := by
  induction line generalizing p with
  | nil => rfl
  | cons c rest ih =>
    have next : p.step (asciiLower c) (Text.asciiLower rest).head? true =
        p.step c rest.head? true := by
      rw [Text.asciiLower, List.head?_map, step_asciiLower blind]
    change finds pinned p (asciiLower c :: Text.asciiLower rest) = _
    rw [finds, finds, next, ih (by rwa [erase_step])]

end Marked

namespace Regex

theorem isMatch_asciiLower {r : Regex} (blind : r.CaseBlind) (line : Text) :
    r.isMatch line.asciiLower = r.isMatch line := by
  have opening : Marked.start none line.asciiLower.head? r = Marked.start none line.head? r := by
    rw [Text.asciiLower, List.head?_map]
    exact Marked.start_asciiLower blind none line.head?
  rw [isMatch, isMatch, opening, Marked.finds_asciiLower (by rwa [Marked.erase_start])]

/-! ### Expressions made of others -/

variable {r : Regex} {rs : List Regex}

theorem CaseBlind.concat (blind : ∀ r ∈ rs, r.CaseBlind) : (concat rs).CaseBlind := by
  fun_induction Regex.concat rs with
  | case1 => trivial
  | case2 r => exact blind r List.mem_cons_self
  | case3 r rs _ ih =>
    exact ⟨blind r List.mem_cons_self, ih fun s member => blind s (List.mem_cons_of_mem _ member)⟩

theorem CaseBlind.anyOf (blind : ∀ r ∈ rs, r.CaseBlind) : (anyOf rs).CaseBlind := by
  fun_induction Regex.anyOf rs with
  | case1 => exact fun _ => rfl
  | case2 r => exact blind r List.mem_cons_self
  | case3 r rs _ ih =>
    exact ⟨blind r List.mem_cons_self, ih fun s member => blind s (List.mem_cons_of_mem _ member)⟩

theorem CaseBlind.power (blind : r.CaseBlind) (n : Nat) : (r.power n).CaseBlind := by
  fun_induction Regex.power r n with
  | case1 => trivial
  | case2 => exact blind
  | case3 n _ _ first second => exact ⟨first, second⟩

theorem CaseBlind.repeated (blind : r.CaseBlind) (least : Nat) (most : Option Nat) :
    (r.repeated least most).CaseBlind := by
  have optional {s : Regex} (blind : s.CaseBlind) : s.optional.CaseBlind := ⟨trivial, blind⟩
  unfold Regex.repeated
  split
  · split
    · trivial
    · exact blind
  · split
    · exact optional blind
    · exact ⟨blind.power _, blind⟩
    · exact ⟨blind.power _, (optional blind).power _⟩

end Regex

/-! ### Sets and classes -/

def CharClass.Unordered (k : CharClass) : Prop :=
  ∀ ⦃forms forms' : List Char⦄, (∀ c, c ∈ forms ↔ c ∈ forms') → k forms = k forms'

namespace CharClass

variable {s t : CharClass}

theorem unordered_ofSet (set : CharSet) : (ofSet set).Unordered := by
  intro forms forms' same
  rw [ofSet, ofSet, Bool.eq_iff_iff, List.any_eq_true, List.any_eq_true]
  simp only [same]

theorem Unordered.map₂ (hs : s.Unordered) (ht : t.Unordered) (f : Bool → Bool → Bool) :
    CharClass.Unordered fun forms => f (s forms) (t forms) :=
  fun _ _ same => congrArg₂ f (hs same) (ht same)

theorem Unordered.negateIf (hs : s.Unordered) (negated : Bool) : (s.negateIf negated).Unordered :=
  fun _ _ same => congrArg (negated != ·) (hs same)

theorem Unordered.apply (hs : s.Unordered) (ht : t.Unordered) (op : SetOp) :
    (op.apply s t).Unordered := by
  cases op with
  | intersection => exact hs.map₂ ht (· && ·)
  | difference => exact hs.map₂ ht (· && !·)
  | symmetricDifference => exact hs.map₂ ht (· != ·)

end CharClass

theorem lineFeed_asciiLower (c : Char) : (asciiLower c == '\n') = (c == '\n') :=
  apply_asciiLower (f := (· == '\n')) (by decide) c

theorem carriageReturn_asciiLower (c : Char) : (asciiLower c == '\r') = (c == '\r') :=
  apply_asciiLower (f := (· == '\r')) (by decide) c

theorem foldCode_asciiLower (c : Char) :
    Unicode.foldCode (asciiLower c).toNat = Unicode.foldCode c.toNat :=
  apply_asciiLower (f := fun c => Unicode.foldCode c.toNat) (by decide +kernel) c

theorem mem_asciiForms_asciiLower (c d : Char) :
    d ∈ asciiForms (asciiLower c) ↔ d ∈ asciiForms c := by
  have same := apply_asciiLower (f := fun c => (asciiForms c).toFinset) (by decide +kernel) c
  rw [← List.mem_toFinset, ← List.mem_toFinset, same]

namespace Modes

variable {m : Modes}

theorem mem_forms_asciiLower (on : m.ignoreCase = true) (c d : Char) :
    d ∈ m.forms (asciiLower c) ↔ d ∈ m.forms c := by
  rw [forms, forms, on, Bool.not_true, if_neg Bool.false_ne_true, if_neg Bool.false_ne_true]
  split
  · rw [Unicode.foldOrbit, Unicode.foldOrbit, foldCode_asciiLower]
  · exact mem_asciiForms_asciiLower c d

theorem members_asciiLower (on : m.ignoreCase = true) {k : CharClass} (unordered : k.Unordered)
    (c : Char) : m.members k (asciiLower c) = m.members k c :=
  unordered (mem_forms_asciiLower on c)

theorem isWord_asciiLower (m : Modes) (c : Char) : m.isWord (asciiLower c) = m.isWord c := by
  unfold isWord
  split
  · exact apply_asciiLower (by decide +kernel) c
  · exact apply_asciiLower (by decide +kernel) c

theorem dot_asciiLower (m : Modes) (c : Char) : m.dot (asciiLower c) = m.dot c := by
  rw [dot, dot, lineFeed_asciiLower, carriageReturn_asciiLower]

end Modes

theorem any_map_isWord (m : Modes) (edge : Option Char) :
    (edge.map asciiLower).any m.isWord = edge.any m.isWord := by
  cases edge with
  | none => rfl
  | some c => exact m.isWord_asciiLower c

theorem atLineStart_asciiLower (m : Modes) (before after : Option Char) :
    atLineStart m (before.map asciiLower) (after.map asciiLower) = atLineStart m before after := by
  cases before with
  | none => rfl
  | some b =>
    have next : (after.map asciiLower == some '\n') = (after == some '\n') := by
      cases after with
      | none => rfl
      | some a => exact lineFeed_asciiLower a
    simp only [atLineStart, Option.map_some, lineFeed_asciiLower, carriageReturn_asciiLower, bne,
      next]

theorem atLineEnd_asciiLower (m : Modes) (before after : Option Char) :
    atLineEnd m (before.map asciiLower) (after.map asciiLower) = atLineEnd m before after := by
  cases after with
  | none => rfl
  | some a =>
    have previous : (before.map asciiLower == some '\r') = (before == some '\r') := by
      cases before with
      | none => rfl
      | some b => exact carriageReturn_asciiLower b
    simp only [atLineEnd, Option.map_some, lineFeed_asciiLower, carriageReturn_asciiLower, bne,
      previous]

theorem Anchor.holds_asciiLower (m : Modes) (anchor : Anchor) (before after : Option Char) :
    anchor.holds m (before.map asciiLower) (after.map asciiLower) = anchor.holds m before after := by
  simp only [holds, any_map_isWord, atLineStart_asciiLower, atLineEnd_asciiLower,
    Option.isNone_map]

theorem Anchor.caseBlind_regex (m : Modes) (anchor : Anchor) : (anchor.regex m).CaseBlind := by
  unfold Anchor.regex
  split
  · trivial
  · split
    · exact holds_asciiLower m _
    · trivial
  · exact holds_asciiLower m _

theorem ShortClass.set_asciiLower (unicode : Bool) (cls : ShortClass) (c : Char) :
    cls.set unicode (asciiLower c) = cls.set unicode c := by
  cases cls <;> cases unicode <;> exact apply_asciiLower (by decide +kernel) c

theorem shortSet_asciiLower {m : Modes} {span : Span} {negated : Bool} {cls : ShortClass}
    {set : CharSet} (made : shortSet m span negated cls = .ok set) (c : Char) :
    set (asciiLower c) = set c := by
  obtain ⟨-, -, made⟩ := bind_ok made
  cases made
  cases negated with
  | false => exact cls.set_asciiLower m.unicode c
  | true => exact congrArg not (cls.set_asciiLower m.unicode c)

theorem literalSet_asciiLower {m : Modes} (on : m.ignoreCase = true) {lit : Literal}
    {set : CharSet} (made : literalSet m lit = .ok set) (c : Char) :
    set (asciiLower c) = set c := by
  obtain ⟨-, -, made⟩ := bind_ok made
  split at made
  · cases made
    exact congrArg (· == _) (foldCode_asciiLower c)
  · cases made
    exact Modes.members_asciiLower on (CharClass.unordered_ofSet _) c

theorem unordered_propertyClass {m : Modes} {span : Span} {negated : Bool} {query : PropertyQuery}
    {k : CharClass} (made : propertyClass m span negated query = .ok k) : k.Unordered := by
  unfold propertyClass at made
  split at made
  · cases made
  · split at made
    · cases made
      exact (CharClass.unordered_ofSet _).negateIf negated
    · cases made

mutual

theorem ClassExpr.unordered_meaning {m : Modes} {e : ClassExpr} {k : CharClass}
    (made : e.meaning m = .ok k) : k.Unordered := by
  cases e with
  | empty =>
    rw [meaning] at made
    cases made
    exact fun _ _ _ => rfl
  | literal lit =>
    rw [meaning] at made
    obtain ⟨c, -, made⟩ := bind_ok made
    cases made
    exact CharClass.unordered_ofSet _
  | range first last =>
    rw [meaning] at made
    obtain ⟨low, -, made⟩ := bind_ok made
    obtain ⟨high, -, made⟩ := bind_ok made
    cases made
    exact CharClass.unordered_ofSet _
  | named span negated cls =>
    rw [meaning] at made
    obtain ⟨-, -, made⟩ := bind_ok made
    cases made
    exact (CharClass.unordered_ofSet _).negateIf negated
  | short span negated cls =>
    rw [meaning] at made
    obtain ⟨set, -, made⟩ := bind_ok made
    cases made
    exact CharClass.unordered_ofSet _
  | property span negated query =>
    rw [meaning] at made
    exact unordered_propertyClass made
  | union span items =>
    rw [meaning] at made
    exact unordered_unionMeaning made
  | binary span op left right =>
    rw [meaning] at made
    obtain ⟨s, first, made⟩ := bind_ok made
    obtain ⟨t, second, made⟩ := bind_ok made
    cases made
    exact (unordered_meaning first).apply (unordered_meaning second) op
  | bracketed span negated body =>
    rw [meaning] at made
    obtain ⟨k, inside, made⟩ := bind_ok made
    obtain ⟨-, -, made⟩ := bind_ok made
    cases made
    exact (unordered_meaning inside).negateIf negated

theorem ClassExpr.unordered_unionMeaning {m : Modes} {items : List ClassExpr} {k : CharClass}
    (made : ClassExpr.unionMeaning m items = .ok k) : k.Unordered := by
  cases items with
  | nil =>
    rw [unionMeaning] at made
    cases made
    exact fun _ _ _ => rfl
  | cons item items =>
    rw [unionMeaning] at made
    obtain ⟨s, first, made⟩ := bind_ok made
    obtain ⟨t, others, made⟩ := bind_ok made
    cases made
    exact (unordered_meaning first).map₂ (unordered_unionMeaning others) (· || ·)

end

/-! ### Expressions -/

def Switches.keepCase (switches : Switches) : Bool := !switches.contains (.ignoreCase, false)

mutual

def Expr.keepsCase : Expr → Bool
  | .switch _ switches => switches.keepCase
  | .group _ switches body => switches.keepCase && body.keepsCase
  | .repetition _ _ _ body => body.keepsCase
  | .alternation _ parts | .concat _ parts => Expr.allKeepCase parts
  | _ => true

def Expr.allKeepCase : List Expr → Bool
  | [] => true
  | e :: es => e.keepsCase && Expr.allKeepCase es

end

theorem Modes.ignoreCase_switchAll {m : Modes} (on : m.ignoreCase = true) {switches : Switches}
    (keep : switches.keepCase = true) : (m.switchAll switches).ignoreCase = true := by
  induction switches generalizing m with
  | nil => exact on
  | cons change switches ih =>
    rw [Switches.keepCase, List.contains_cons, Bool.not_or, Bool.and_eq_true] at keep
    refine ih ?_ keep.2
    obtain ⟨flag, state⟩ := change
    cases flag with
    | ignoreCase =>
      cases state with
      | false => cases keep.1
      | true => rfl
    | _ => exact on

mutual

theorem Expr.caseBlind_regex {e : Expr} {m m' : Modes} {r : Regex} (keeps : e.keepsCase = true)
    (on : m.ignoreCase = true) (made : e.regex m = .ok (r, m')) :
    r.CaseBlind ∧ m'.ignoreCase = true := by
  cases e with
  | empty =>
    rw [regex] at made
    cases made
    exact ⟨trivial, on⟩
  | switch span switches =>
    rw [regex] at made
    cases made
    exact ⟨trivial, Modes.ignoreCase_switchAll on keeps⟩
  | literal lit =>
    rw [regex] at made
    obtain ⟨set, set?, made⟩ := bind_ok made
    cases made
    exact ⟨literalSet_asciiLower on set?, on⟩
  | dot span =>
    rw [regex] at made
    split at made
    · cases made
      exact ⟨Modes.dot_asciiLower m, on⟩
    · cases made
  | anchor span a =>
    rw [regex] at made
    cases made
    exact ⟨a.caseBlind_regex m, on⟩
  | short span negated cls =>
    rw [regex] at made
    obtain ⟨set, set?, made⟩ := bind_ok made
    cases made
    exact ⟨shortSet_asciiLower set?, on⟩
  | property span negated query =>
    rw [regex] at made
    obtain ⟨k, class?, made⟩ := bind_ok made
    cases made
    exact ⟨Modes.members_asciiLower on (unordered_propertyClass class?), on⟩
  | bracketed span negated body =>
    rw [regex] at made
    obtain ⟨k, class?, made⟩ := bind_ok made
    obtain ⟨-, -, made⟩ := bind_ok made
    cases made
    exact ⟨Modes.members_asciiLower on
      ((ClassExpr.unordered_meaning class?).negateIf negated), on⟩
  | repetition span least most body =>
    rw [regex] at made
    obtain ⟨⟨s, m₁⟩, inside, made⟩ := bind_ok made
    cases made
    rw [keepsCase] at keeps
    obtain ⟨blind, on⟩ := caseBlind_regex keeps on inside
    exact ⟨blind.repeated least most, on⟩
  | group span switches body =>
    rw [regex] at made
    obtain ⟨⟨s, m₁⟩, inside, made⟩ := bind_ok made
    cases made
    rw [keepsCase, Bool.and_eq_true] at keeps
    exact ⟨(caseBlind_regex keeps.2 (Modes.ignoreCase_switchAll on keeps.1) inside).1, on⟩
  | alternation span branches =>
    rw [regex] at made
    obtain ⟨⟨rs, m₁⟩, inside, made⟩ := bind_ok made
    cases made
    obtain ⟨blind, on⟩ := caseBlind_regexes keeps on inside
    exact ⟨.anyOf blind, on⟩
  | concat span parts =>
    rw [regex] at made
    obtain ⟨⟨rs, m₁⟩, inside, made⟩ := bind_ok made
    cases made
    obtain ⟨blind, on⟩ := caseBlind_regexes keeps on inside
    exact ⟨.concat blind, on⟩

theorem Expr.caseBlind_regexes {es : List Expr} {m m' : Modes} {rs : List Regex}
    (keep : Expr.allKeepCase es = true) (on : m.ignoreCase = true)
    (made : Expr.regexes m es = .ok (rs, m')) :
    (∀ r ∈ rs, r.CaseBlind) ∧ m'.ignoreCase = true := by
  cases es with
  | nil =>
    rw [regexes] at made
    cases made
    exact ⟨nofun, on⟩
  | cons e es =>
    rw [regexes] at made
    obtain ⟨⟨r, m₁⟩, first, made⟩ := bind_ok made
    obtain ⟨⟨rs, m₂⟩, others, made⟩ := bind_ok made
    cases made
    rw [allKeepCase, Bool.and_eq_true] at keep
    obtain ⟨blind, on⟩ := caseBlind_regex keep.1 on first
    obtain ⟨blinds, on⟩ := caseBlind_regexes keep.2 on others
    exact ⟨List.forall_mem_cons.mpr ⟨blind, blinds⟩, on⟩

end

end Pattern

/-! ### Classifiers -/

def Rulebook.patterns (book : Rulebook) : List Text := book.ignored ++ book.rules.map (·.pattern)

namespace Classifier

structure CaseBlind (c : Classifier) : Prop where
  ignored : ∀ r ∈ c.ignored, r.CaseBlind
  rules : ∀ rule ∈ c.rules, rule.1.CaseBlind

theorem CaseBlind.classify_asciiLower {c : Classifier} (blind : c.CaseBlind) (line : Text) :
    c.classify line.asciiLower = c.classify line := by
  have ignored : c.ignored.any (·.isMatch line.asciiLower) = c.ignored.any (·.isMatch line) := by
    rw [Bool.eq_iff_iff, List.any_eq_true, List.any_eq_true]
    refine exists_congr fun r => and_congr_right fun member => ?_
    rw [Pattern.Regex.isMatch_asciiLower (blind.ignored r member)]
  have rules : c.rules.find? (·.1.isMatch line.asciiLower) = c.rules.find? (·.1.isMatch line) :=
    List.find?_congr fun rule member =>
      Pattern.Regex.isMatch_asciiLower (blind.rules rule member) line
  rw [classify, classify, ignored, rules]

theorem caseBlind_of_compile {pattern : Text} {r : Pattern.Regex}
    (keeps : ∀ e, Pattern.parse (Pattern.anchored pattern) = .ok e → e.keepsCase = true)
    (compiled : Pattern.compile (Pattern.anchored pattern) = .ok r) : r.CaseBlind := by
  obtain ⟨e, parsed, compiled⟩ := bind_ok compiled
  obtain ⟨⟨r, m⟩, meant, compiled⟩ := bind_ok compiled
  cases compiled
  exact (Pattern.Expr.caseBlind_regex (keeps e parsed) rfl meant).1

theorem caseBlind_of_ofRulebook {book : Rulebook} {c : Classifier}
    (keep : ∀ pattern ∈ book.patterns, ∀ e,
      Pattern.parse (Pattern.anchored pattern) = .ok e → e.keepsCase = true)
    (of : ofRulebook book = .ok c) : c.CaseBlind := by
  have made := ofRulebook_eq_ok_iff.mp of
  constructor
  · intro r member
    obtain ⟨pattern, inside, compiled⟩ := exists_of_forall₂ made.ignored r member
    exact caseBlind_of_compile (keep pattern (List.mem_append_left _ inside)) compiled
  · intro q member
    obtain ⟨rule, inside, compiled, -⟩ := exists_of_forall₂ made.rules q member
    exact caseBlind_of_compile
      (keep rule.pattern (List.mem_append_right _ (List.mem_map_of_mem inside))) compiled

theorem caseBlind_builtin : builtin.CaseBlind := by
  have keep : ∀ pattern ∈ Rulebook.builtin.patterns,
      (Pattern.parse (Pattern.anchored pattern)).toOption.all (·.keepsCase) = true := by
    decide +kernel
  rw [builtin]
  cases of : ofRulebook .builtin with
  | error bad => exact ⟨nofun, nofun⟩
  | ok c =>
    refine caseBlind_of_ofRulebook (fun pattern member e parsed => ?_) of
    have here := keep pattern member
    rwa [parsed] at here

end Classifier

end Storygraph
