import Mathlib.Tactic.Common
import Storygraph.Pattern.Search

/-!
# What the search finds

`Regex.Matches` says which texts an expression matches between two characters of a line. The
search moves marks along the line; `Marked.Resumes` says what a mark stands for, namely a match
that has begun, and `Marked.resumes_step` that reading a character moves on exactly these matches.
Main statement: the search answers yes if and only if some part of the line is matched
(`Regex.isMatch_iff`).
-/

namespace Storygraph.Pattern

/-- The expression matches the whole of a text that stands between the characters `before` and
`after` of a line, which are missing at its ends. -/
inductive Regex.Matches : Regex → (before : Option Char) → Text → (after : Option Char) → Prop
  | empty {before after} : Matches .empty before [] after
  | one {set before c after} (member : set c = true) : Matches (.one set) before [c] after
  | lineStart {after} : Matches .lineStart none [] after
  | look {holds before after} (true : holds before after = true) :
      Matches (.look holds) before [] after
  | seq {r s before u v after} (first : Matches r before u (v.head?.or after))
      (second : Matches s (u.getLast?.or before) v after) : Matches (.seq r s) before (u ++ v) after
  | left {r s before w after} (here : Matches r before w after) : Matches (.alt r s) before w after
  | right {r s before w after} (here : Matches s before w after) : Matches (.alt r s) before w after
  | last {r before w after} (here : Matches r before w after) : Matches (.plus r) before w after
  | more {r before u v after} (first : Matches r before u (v.head?.or after))
      (others : Matches (.plus r) (u.getLast?.or before) v after) :
      Matches (.plus r) before (u ++ v) after

namespace Regex

variable {r s : Regex} {before after : Option Char} {w : Text}

theorem matches_seq : (seq r s).Matches before w after ↔ ∃ u v, w = u ++ v ∧
    r.Matches before u (v.head?.or after) ∧ s.Matches (u.getLast?.or before) v after := by
  constructor
  · rintro ⟨⟩
    exact ⟨_, _, rfl, ‹_›, ‹_›⟩
  · rintro ⟨u, v, rfl, first, second⟩
    exact .seq first second

theorem matches_alt :
    (alt r s).Matches before w after ↔ r.Matches before w after ∨ s.Matches before w after := by
  constructor
  · rintro ⟨⟩
    · exact .inl ‹_›
    · exact .inr ‹_›
  · rintro (here | here)
    · exact .left here
    · exact .right here

/-- What is true of a split of a text that begins with `c` is true of a split before it or of one
after it. -/
theorem exists_append_eq_cons {P : Text → Text → Prop} {c : Char} {w : Text} :
    (∃ u v, c :: w = u ++ v ∧ P u v) ↔ P [] (c :: w) ∨ ∃ u v, w = u ++ v ∧ P (c :: u) v := by
  constructor
  · rintro ⟨u, v, cut, here⟩
    cases u with
    | nil => exact .inl (cut ▸ here)
    | cons d u =>
      obtain ⟨rfl, rfl⟩ := List.cons.inj cut
      exact .inr ⟨u, v, rfl, here⟩
  · rintro (here | ⟨u, v, rfl, here⟩)
    · exact ⟨[], c :: w, rfl, here⟩
    · exact ⟨c :: u, v, rfl, here⟩

theorem getLast?_cons_or (c : Char) (u : Text) (before : Option Char) :
    (c :: u).getLast?.or before = u.getLast?.or (some c) := by
  cases u <;> simp [List.getLast?_cons]

theorem head?_or_head?_append (v w : Text) (after : Option Char) :
    (v ++ w).head?.or after = v.head?.or (w.head?.or after) := by
  rw [List.head?_append, Option.or_assoc]

theorem matches_seq_nil : (seq r s).Matches before [] after ↔
    r.Matches before [] after ∧ s.Matches before [] after := by
  rw [matches_seq]
  constructor
  · rintro ⟨u, v, cut, first, second⟩
    obtain ⟨rfl, rfl⟩ := List.append_eq_nil_iff.mp cut.symm
    exact ⟨first, second⟩
  · rintro ⟨first, second⟩
    exact ⟨[], [], rfl, first, second⟩

/-- Empty iterations can be left out: a repetition begins with one that reads a character, unless
it consists of one alone. -/
theorem matches_plus_first (here : (plus r).Matches before w after) :
    r.Matches before w after ∨ ∃ u v, u ≠ [] ∧ w = u ++ v ∧
      r.Matches before u (v.head?.or after) ∧ (plus r).Matches (u.getLast?.or before) v after := by
  generalize shape : plus r = e at here
  induction here with
  | last here =>
    cases shape
    exact .inl here
  | @more _ _ u v _ first others _ ih =>
    cases shape
    cases u with
    | nil => exact ih rfl
    | cons c u => exact .inr ⟨c :: u, v, List.cons_ne_nil _ _, rfl, first, others⟩
  | _ => cases shape

theorem matches_plus_nil : (plus r).Matches before [] after ↔ r.Matches before [] after := by
  refine ⟨fun here => ?_, .last⟩
  rcases matches_plus_first here with here | ⟨u, v, visible, cut, -⟩
  · exact here
  · exact absurd (List.append_eq_nil_iff.mp cut.symm).1 visible

theorem matches_plus_cons {c : Char} : (plus r).Matches before (c :: w) after ↔
    r.Matches before (c :: w) after ∨ ∃ u v, w = u ++ v ∧
      r.Matches before (c :: u) (v.head?.or after) ∧
        (plus r).Matches (u.getLast?.or (some c)) v after := by
  constructor
  · intro here
    rcases matches_plus_first here with here | ⟨u, v, visible, cut, first, others⟩
    · exact .inl here
    · obtain ⟨d, u, rfl⟩ := List.exists_cons_of_ne_nil visible
      obtain ⟨rfl, rfl⟩ := List.cons.inj cut
      rw [getLast?_cons_or] at others
      exact .inr ⟨u, v, rfl, first, others⟩
  · rintro (here | ⟨u, v, rfl, first, others⟩)
    · exact .last here
    · rw [← getLast?_cons_or c u before] at others
      exact .more first others

theorem matches_seq_cons {c : Char} : (seq r s).Matches before (c :: w) after ↔
    r.Matches before [] (some c) ∧ s.Matches before (c :: w) after ∨ ∃ u v, w = u ++ v ∧
      r.Matches before (c :: u) (v.head?.or after) ∧ s.Matches (u.getLast?.or (some c)) v after := by
  rw [matches_seq, exists_append_eq_cons]
  simp only [getLast?_cons_or, List.head?_cons, Option.some_or, List.getLast?_nil, Option.none_or]

/-! ### Expressions that read nothing, and expressions that hold at the start alone -/

theorem eq_nil_of_isCondition (condition : r.isCondition = true)
    (here : r.Matches before w after) : w = [] := by
  induction here with
  | empty | lineStart | look => rfl
  | one => cases condition
  | seq _ _ first second =>
    rw [isCondition, Bool.and_eq_true] at condition
    rw [first condition.1, second condition.2, List.append_nil]
  | left _ ih =>
    rw [isCondition, Bool.and_eq_true] at condition
    exact ih condition.1
  | right _ ih =>
    rw [isCondition, Bool.and_eq_true] at condition
    exact ih condition.2
  | last _ ih => exact ih condition
  | more _ _ first others => rw [first condition, others condition, List.append_nil]

theorem before_eq_none_of_isPinned (pinned : r.isPinned = true)
    (here : r.Matches before w after) : before = none := by
  induction here with
  | lineStart => rfl
  | empty | one | look => cases pinned
  | seq first _ atFirst atSecond =>
    rw [isPinned, Bool.or_eq_true, Bool.and_eq_true] at pinned
    rcases pinned with pinned | ⟨condition, pinned⟩
    · exact atFirst pinned
    · rw [eq_nil_of_isCondition condition first] at atSecond
      exact atSecond pinned
  | left _ ih =>
    rw [isPinned, Bool.and_eq_true] at pinned
    exact ih pinned.1
  | right _ ih =>
    rw [isPinned, Bool.and_eq_true] at pinned
    exact ih pinned.2
  | last _ ih => exact ih pinned
  | more _ _ ih _ => exact ih pinned

end Regex

/-! ### Marked expressions -/

namespace Marked

variable {p : Marked} {before after : Option Char} {w : Text}

def erase : Marked → Regex
  | empty => .empty
  | one set _ => .one set
  | lineStart _ => .lineStart
  | look holds _ => .look holds
  | seq _ _ p q => .seq p.erase q.erase
  | alt _ _ p q => .alt p.erase q.erase
  | plus _ _ p => .plus p.erase

/-- Some match of the expression that has read the last character, `before`, is complete once it
has read a text that stands before `after`. -/
def Resumes (before : Option Char) : Marked → Text → (after : Option Char) → Prop
  | empty, _, _ | lineStart _, _, _ | look .., _, _ => False
  | one _ reached, w, _ => reached = true ∧ w = []
  | seq _ _ p q, w, after =>
    q.Resumes before w after ∨ ∃ u v, w = u ++ v ∧ p.Resumes before u (v.head?.or after) ∧
      q.erase.Matches (u.getLast?.or before) v after
  | alt _ _ p q, w, after => p.Resumes before w after ∨ q.Resumes before w after
  | plus _ _ p, w, after =>
    p.Resumes before w after ∨ ∃ u v, w = u ++ v ∧ p.Resumes before u (v.head?.or after) ∧
      (Regex.plus p.erase).Matches (u.getLast?.or before) v after

/-- What the expression keeps about a position is right for the one between `before` and
`after`. -/
def Current (before after : Option Char) : Marked → Prop
  | empty | one .. => True
  | lineStart skips => skips = before.isNone
  | look holds skips => skips = holds before after
  | seq skips ends p q => skips = (p.skips && q.skips) ∧ ends = (q.ends || p.ends && q.skips) ∧
      p.Current before after ∧ q.Current before after
  | alt skips ends p q => skips = (p.skips || q.skips) ∧ ends = (p.ends || q.ends) ∧
      p.Current before after ∧ q.Current before after
  | plus skips ends p => skips = p.skips ∧ ends = p.ends ∧ p.Current before after

theorem skips_iff (current : p.Current before after) :
    p.skips = true ↔ p.erase.Matches before [] after := by
  induction p with
  | empty => exact iff_of_true rfl .empty
  | one => exact iff_of_false Bool.false_ne_true nofun
  | lineStart atStart =>
    rw [skips, show atStart = before.isNone from current, Option.isNone_iff_eq_none]
    constructor
    · rintro rfl
      exact .lineStart
    · rintro ⟨⟩
      rfl
  | look holds here =>
    rw [skips, show here = holds before after from current]
    constructor
    · exact .look
    · rintro ⟨⟩
      assumption
  | seq _ _ p q ihp ihq =>
    obtain ⟨cached, -, atFirst, atSecond⟩ := current
    rw [skips, cached, Bool.and_eq_true, ihp atFirst, ihq atSecond, erase,
      Regex.matches_seq_nil]
  | alt _ _ p q ihp ihq =>
    obtain ⟨cached, -, atLeft, atRight⟩ := current
    rw [skips, cached, Bool.or_eq_true, ihp atLeft, ihq atRight, erase, Regex.matches_alt]
  | plus _ _ p ih =>
    obtain ⟨cached, -, inside⟩ := current
    rw [skips, cached, ih inside, erase, Regex.matches_plus_nil]

theorem ends_iff (current : p.Current before after) :
    p.ends = true ↔ p.Resumes before [] after := by
  induction p with
  | empty | lineStart | look => exact iff_of_false Bool.false_ne_true id
  | one set reached => simp [ends, Resumes]
  | seq _ _ p q ihp ihq =>
    obtain ⟨-, cached, atFirst, atSecond⟩ := current
    rw [ends, cached, Bool.or_eq_true, Bool.and_eq_true, ihp atFirst, ihq atSecond,
      skips_iff atSecond, Resumes]
    simp
  | alt _ _ p q ihp ihq =>
    obtain ⟨-, cached, atLeft, atRight⟩ := current
    rw [ends, cached, Bool.or_eq_true, ihp atLeft, ihq atRight, Resumes]
  | plus _ _ p ih =>
    obtain ⟨-, cached, inside⟩ := current
    rw [ends, cached, ih inside, Resumes]
    refine (or_iff_left_of_imp ?_).symm
    rintro ⟨u, v, cut, resumed, -⟩
    obtain ⟨rfl, rfl⟩ := List.append_eq_nil_iff.mp cut.symm
    exact resumed

/-! ### One character -/

theorem erase_step (c : Char) (enter : Bool) :
    (p.step c after enter).erase = p.erase := by
  induction p generalizing enter with
  | empty | one | lineStart | look => rfl
  | seq _ _ p q ihp ihq => exact congrArg₂ Regex.seq (ihp _) (ihq _)
  | alt _ _ p q ihp ihq => exact congrArg₂ Regex.alt (ihp _) (ihq _)
  | plus _ _ p ih => exact congrArg Regex.plus (ih _)

theorem current_step (c : Char) (enter : Bool) :
    (p.step c after enter).Current (some c) after := by
  induction p generalizing enter with
  | empty | one => trivial
  | lineStart | look => rfl
  | seq _ _ p q ihp ihq => exact ⟨rfl, rfl, ihp _, ihq _⟩
  | alt _ _ p q ihp ihq => exact ⟨rfl, rfl, ihp _, ihq _⟩
  | plus _ _ p ih => exact ⟨rfl, rfl, ih _⟩

/-- `resumes_step` for a part of which only the text `u` before the rest `v` is read. -/
theorem exists_resumes_step {c : Char} {enter : Bool} {K : Text → Text → Prop}
    (moved : ∀ {u : Text} {after : Option Char},
      (p.step c (u.head?.or after) enter).Resumes (some c) u after ↔
        p.Resumes before (c :: u) after ∨
          enter = true ∧ p.erase.Matches before (c :: u) after) :
    (∃ u v, w = u ++ v ∧
        (p.step c (w.head?.or after) enter).Resumes (some c) u (v.head?.or after) ∧ K u v) ↔
      (∃ u v, w = u ++ v ∧ p.Resumes before (c :: u) (v.head?.or after) ∧ K u v) ∨
        enter = true ∧
          ∃ u v, w = u ++ v ∧ p.erase.Matches before (c :: u) (v.head?.or after) ∧ K u v := by
  constructor
  · rintro ⟨u, v, rfl, here, rest⟩
    rw [Regex.head?_or_head?_append, moved] at here
    rcases here with here | ⟨entered, here⟩
    · exact .inl ⟨u, v, rfl, here, rest⟩
    · exact .inr ⟨entered, u, v, rfl, here, rest⟩
  · rintro (⟨u, v, rfl, here, rest⟩ | ⟨entered, u, v, rfl, here, rest⟩)
    · refine ⟨u, v, rfl, ?_, rest⟩
      rw [Regex.head?_or_head?_append, moved]
      exact .inl here
    · refine ⟨u, v, rfl, ?_, rest⟩
      rw [Regex.head?_or_head?_append, moved]
      exact .inr ⟨entered, here⟩

theorem resumes_seq_cons {skips ends : Bool} {q : Marked} {c : Char} :
    (seq skips ends p q).Resumes before (c :: w) after ↔ q.Resumes before (c :: w) after ∨
      p.Resumes before [] (some c) ∧ q.erase.Matches before (c :: w) after ∨ ∃ u v, w = u ++ v ∧
        p.Resumes before (c :: u) (v.head?.or after) ∧
          q.erase.Matches (u.getLast?.or (some c)) v after := by
  rw [Resumes, Regex.exists_append_eq_cons]
  simp only [Regex.getLast?_cons_or, List.head?_cons, Option.some_or, List.getLast?_nil,
    Option.none_or]

theorem resumes_plus_cons {skips ends : Bool} {c : Char} :
    (plus skips ends p).Resumes before (c :: w) after ↔ p.Resumes before (c :: w) after ∨
      p.Resumes before [] (some c) ∧ (Regex.plus p.erase).Matches before (c :: w) after ∨
        ∃ u v, w = u ++ v ∧ p.Resumes before (c :: u) (v.head?.or after) ∧
          (Regex.plus p.erase).Matches (u.getLast?.or (some c)) v after := by
  rw [Resumes, Regex.exists_append_eq_cons]
  simp only [Regex.getLast?_cons_or, List.head?_cons, Option.some_or, List.getLast?_nil,
    Option.none_or]

/-- Reading a character moves on the matches that have begun, and those that begin with it if it
may begin one. -/
theorem resumes_step {c : Char} {enter : Bool} (current : p.Current before (some c)) :
    (p.step c (w.head?.or after) enter).Resumes (some c) w after ↔
      p.Resumes before (c :: w) after ∨
        enter = true ∧ p.erase.Matches before (c :: w) after := by
  induction p generalizing enter w after with
  | empty | lineStart | look =>
    simp only [step, Resumes, erase, false_or, false_iff, not_and]
    exact fun _ => nofun
  | one set reached =>
    simp only [step, Resumes, erase, List.cons_ne_nil, and_false, false_or, Bool.and_eq_true]
    constructor
    · rintro ⟨⟨entered, member⟩, rfl⟩
      exact ⟨entered, .one member⟩
    · rintro ⟨entered, ⟨⟩⟩
      exact ⟨⟨entered, ‹_›⟩, rfl⟩
  | seq _ _ p q ihp ihq =>
    obtain ⟨-, -, atFirst, atSecond⟩ := current
    rw [step, join, Resumes, ihq atSecond, erase_step, exists_resumes_step (ihp atFirst),
      Bool.or_eq_true, Bool.and_eq_true, ends_iff atFirst, skips_iff atFirst, resumes_seq_cons,
      erase, Regex.matches_seq_cons]
    simp only [or_and_right, and_or_left, and_assoc, or_assoc, or_left_comm]
  | alt _ _ p q ihp ihq =>
    obtain ⟨-, -, atLeft, atRight⟩ := current
    rw [step, fork, Resumes, ihp atLeft, ihq atRight, Resumes, erase, Regex.matches_alt]
    tauto
  | plus _ _ p ih =>
    obtain ⟨-, -, inside⟩ := current
    rw [step, loop, Resumes, ih inside, erase_step, exists_resumes_step (ih inside),
      Bool.or_eq_true, ends_iff inside, resumes_plus_cons, erase, Regex.matches_plus_cons]
    clear ih
    grind

/-! ### The start, and the rest of a line -/

theorem erase_start (before after : Option Char) (r : Regex) :
    (start before after r).erase = r := by
  induction r with
  | empty | one | lineStart | look => rfl
  | seq r s ihr ihs => exact congrArg₂ Regex.seq ihr ihs
  | alt r s ihr ihs => exact congrArg₂ Regex.alt ihr ihs
  | plus r ih => exact congrArg Regex.plus ih

theorem current_start (before after : Option Char) (r : Regex) :
    (start before after r).Current before after := by
  induction r with
  | empty | one => trivial
  | lineStart | look => rfl
  | seq r s ihr ihs => exact ⟨rfl, rfl, ihr, ihs⟩
  | alt r s ihr ihs => exact ⟨rfl, rfl, ihr, ihs⟩
  | plus r ih => exact ⟨rfl, rfl, ih⟩

theorem isLive_of_resumes (here : p.Resumes before w after) : p.isLive = true := by
  induction p generalizing w after with
  | empty | lineStart | look => exact here.elim
  | one => exact here.1
  | seq _ _ p q ihp ihq =>
    rw [isLive, Bool.or_eq_true]
    rcases here with here | ⟨u, v, -, here, -⟩
    · exact .inr (ihq here)
    · exact .inl (ihp here)
  | alt _ _ p q ihp ihq =>
    rw [isLive, Bool.or_eq_true]
    exact here.imp ihp ihq
  | plus _ _ p ih =>
    rcases here with here | ⟨u, v, -, here, -⟩
    · exact ih here
    · exact ih here

theorem isLive_start (before after : Option Char) (r : Regex) :
    (start before after r).isLive = false := by
  induction r with
  | empty | one | lineStart | look => rfl
  | seq r s ihr ihs => exact congrArg₂ or ihr ihs
  | alt r s ihr ihs => exact congrArg₂ or ihr ihs
  | plus r ih => exact ih

/-- Something that ends in `line`: a match that has begun, or one that begins in it. -/
def Found (p : Marked) (before : Option Char) (line : Text) : Prop :=
  (∃ w y, line = w ++ y ∧ p.Resumes before w y.head?) ∨
    ∃ x w y, line = x ++ w ++ y ∧ p.erase.Matches (x.getLast?.or before) w y.head?

theorem found_nil : p.Found before [] ↔
    p.Resumes before [] none ∨ p.erase.Matches before [] none := by
  constructor
  · rintro (⟨w, y, cut, here⟩ | ⟨x, w, y, cut, here⟩)
    · obtain ⟨rfl, rfl⟩ := List.append_eq_nil_iff.mp cut.symm
      exact .inl here
    · obtain ⟨left, rfl⟩ := List.append_eq_nil_iff.mp cut.symm
      obtain ⟨rfl, rfl⟩ := List.append_eq_nil_iff.mp left
      exact .inr here
  · rintro (here | here)
    · exact .inl ⟨[], [], rfl, here⟩
    · exact .inr ⟨[], [], [], rfl, here⟩

theorem found_cons {c : Char} {rest : Text} (current : p.Current before (some c)) :
    p.Found before (c :: rest) ↔ p.Resumes before [] (some c) ∨
      p.erase.Matches before [] (some c) ∨ (p.step c rest.head? true).Found (some c) rest := by
  have moved {w y : Text} : (p.step c ((w ++ y).head?) true).Resumes (some c) w y.head? ↔
      p.Resumes before (c :: w) y.head? ∨ p.erase.Matches before (c :: w) y.head? := by
    rw [List.head?_append, resumes_step current, eq_self, true_and]
  constructor
  · rintro (⟨w, y, cut, here⟩ | ⟨x, w, y, cut, here⟩)
    · cases w with
      | nil =>
        subst cut
        exact .inl here
      | cons d w =>
        obtain ⟨rfl, rfl⟩ := List.cons.inj cut
        exact .inr (.inr (.inl ⟨w, y, rfl, moved.mpr (.inl here)⟩))
    · cases x with
      | nil =>
        cases w with
        | nil =>
          subst cut
          exact .inr (.inl here)
        | cons d w =>
          obtain ⟨rfl, rfl⟩ := List.cons.inj cut
          exact .inr (.inr (.inl ⟨w, y, rfl, moved.mpr (.inr here)⟩))
      | cons d x =>
        obtain ⟨rfl, rfl⟩ := List.cons.inj cut
        rw [Regex.getLast?_cons_or] at here
        refine .inr (.inr (.inr ⟨x, w, y, rfl, ?_⟩))
        rwa [erase_step]
  · rintro (here | here | ⟨w, y, rfl, here⟩ | ⟨x, w, y, rfl, here⟩)
    · exact .inl ⟨[], c :: rest, rfl, here⟩
    · exact .inr ⟨[], [], c :: rest, rfl, here⟩
    · rcases moved.mp here with here | here
      · exact .inl ⟨c :: w, y, rfl, here⟩
      · exact .inr ⟨[], c :: w, y, rfl, here⟩
    · rw [erase_step, ← Regex.getLast?_cons_or c x before] at here
      exact .inr ⟨c :: x, w, y, rfl, here⟩

/-- After the start, an expression that is pinned there is found only if a match has begun. -/
theorem not_found_of_isPinned {c : Char} {rest : Text} (pinned : p.erase.isPinned = true)
    (still : p.isLive = false) : ¬p.Found (some c) rest := by
  rintro (⟨w, y, -, here⟩ | ⟨x, w, y, -, here⟩)
  · exact Bool.noConfusion (still.symm.trans (isLive_of_resumes here))
  · have edge := Regex.before_eq_none_of_isPinned pinned here
    cases x <;> simp [List.getLast?_cons] at edge

theorem finds_iff {pinned : Bool} {line : Text} (current : p.Current before line.head?)
    (atStart : pinned = true → p.erase.isPinned = true) :
    p.finds pinned line = true ↔ p.Found before line := by
  induction line generalizing p before with
  | nil =>
    rw [finds, Bool.or_eq_true, skips_iff current, ends_iff current, found_nil, or_comm]
    rfl
  | cons c rest ih =>
    have current : p.Current before (some c) := current
    have later := ih (current_step (p := p) c true) (by rwa [erase_step])
    rw [finds, Bool.or_eq_true, Bool.or_eq_true, Bool.and_eq_true, later, skips_iff current,
      ends_iff current, found_cons current, or_assoc, or_left_comm]
    refine or_congr_right (or_congr_right (and_iff_right_of_imp fun found => ?_))
    rw [Bool.or_eq_true, Bool.not_eq_true', ← Bool.not_eq_true]
    refine Classical.or_iff_not_imp_left.mpr fun pinned => ?_
    by_contra still
    refine not_found_of_isPinned ?_ (Bool.eq_false_iff.mpr still) found
    rw [erase_step]
    exact atStart (not_not.mp pinned)

end Marked

/-- The search finds a part of the line that is matched between what stands around it, wherever
there is one. -/
theorem Regex.isMatch_iff {r : Regex} {line : Text} : r.isMatch line = true ↔
    ∃ x w y, line = x ++ w ++ y ∧ r.Matches x.getLast? w y.head? := by
  have current := Marked.current_start none line.head? r
  rw [isMatch, Marked.finds_iff current fun pinned => by rwa [Marked.erase_start], Marked.Found,
    Marked.erase_start]
  constructor
  · rintro (⟨w, y, -, here⟩ | found)
    · exact nomatch (Marked.isLive_start none line.head? r).symm.trans (Marked.isLive_of_resumes here)
    · simpa only [Option.or_none] using found
  · intro found
    exact .inr (by simpa only [Option.or_none] using found)

/-- An expression behind the start of the line is found if and only if it matches from there. -/
theorem Regex.isMatch_lineStart {r : Regex} {line : Text} :
    (seq lineStart r).isMatch line = true ↔ ∃ w y, line = w ++ y ∧ r.Matches none w y.head? := by
  rw [isMatch_iff]
  constructor
  · rintro ⟨x, w, y, rfl, here⟩
    obtain ⟨u, v, rfl, start, rest⟩ := matches_seq.mp here
    generalize edge : x.getLast? = before at start rest
    cases start
    rw [List.getLast?_eq_none_iff] at edge
    subst edge
    exact ⟨v, y, rfl, rest⟩
  · rintro ⟨w, y, rfl, here⟩
    exact ⟨[], w, y, rfl, .seq (u := []) .lineStart here⟩

end Storygraph.Pattern
