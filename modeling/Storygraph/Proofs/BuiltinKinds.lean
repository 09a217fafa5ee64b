import Storygraph.Proofs.Pattern.Words

/-!
# The built-in kinds of lines

`kindByWords?` finds the kind of a line by the words that it begins with, without any patterns.
`ofRulebook_builtin` shows what the patterns of the built-in rulebook are compiled to, and
`classify_builtin` that the built-in classifier gives every line the kind found by its words.
-/

namespace Storygraph

def Text.readsName : Text → Bool :=
  reads "name".toList fun rest => (trimStart rest).head? == some ':'

/-- The kind of a line by the words that it begins with; none if it is blank or gives a name. The
words for the start and the end stand at the very beginning, others may have blanks in front. -/
def kindByWords? (line : Text) : Option Kind :=
  let t := Text.trimStart line
  let word (w : String) (follows : Text → Bool) (t : Text) : Bool := Text.reads w.toList follows t
  if t.isEmpty || t.readsName then none
  else if word "start" (fun _ => true) line then some .start
  else if word "end" (fun _ => true) line then some .finish
  else if word "function" Text.startsBlank t || word "call" Text.startsBlank t then some .function
  else if word "jump" (fun rest => Text.startsBlank rest &&
      word "to" Text.startsBlank (Text.trimStart rest)) t then some .jump
  else if word "wait" Text.startsBlank t then some .wait
  else if word "show" Text.startsBlank t then some .show
  else some .dialogue

namespace Text

variable {follows : Text → Bool}

theorem spells_colon (c : Char) : spells ':' c = (c == ':') := by
  rw [spells_of_ne (by decide)]
  exact apply_asciiLower (f := (· == ':')) (by decide) c

theorem reads_colon_iff {t : Text} :
    reads ":".toList follows t = true ↔ ∃ rest, t = ':' :: rest ∧ follows rest = true := by
  cases t with
  | nil => simp [reads]
  | cons c t => simp [reads, spells_colon, and_assoc]

theorem reads_colon (t : Text) :
    reads ":".toList (fun _ => true) t = (t.head? == some ':') := by
  rw [Bool.eq_iff_iff, reads_colon_iff]
  simp [List.head?_eq_some_iff]

end Text

namespace Classifier

open Pattern Pattern.Regex

/-- What the patterns of the built-in rulebook are compiled to. -/
theorem ofRulebook_builtin : ofRulebook .builtin = .ok {
    ignored := [
      pinned (blanks 0 :: (letters "name".toList ++ blanks 0 :: (letters ":".toList ++ []))),
      pinned [blanks 0, .look (Anchor.holds .initial .lineEnd)]]
    rules := [
      (pinned (letters "start".toList ++ []), .start),
      (pinned (letters "end".toList ++ []), .finish),
      (pinned (blanks 0 :: (letters "function".toList ++ [blanks 1])), .function),
      (pinned (blanks 0 :: (letters "call".toList ++ [blanks 1])), .function),
      (pinned (blanks 0 :: (letters "jump".toList ++
        blanks 1 :: (letters "to".toList ++ [blanks 1]))), .jump),
      (pinned (blanks 0 :: (letters "wait".toList ++ [blanks 1])), .wait),
      (pinned (blanks 0 :: (letters "show".toList ++ [blanks 1])), .show)]
    default := .dialogue } := by
  rfl

/-! ### Each of the patterns -/

section

variable {line : Text}

theorem isMatch_name :
    (pinned (blanks 0 :: (letters "name".toList ++ blanks 0 :: (letters ":".toList ++ [])))).isMatch
      line = (Text.trimStart line).readsName := by
  have ends : (concat []).Reads (fun _ => true) fun _ => true := reads_nil
  have colon := ends.word ":".toList (by decide) (by decide)
  rw [isMatch_pinned (colon.word "name".toList (by decide) (by decide))]
  simp only [Text.readsName, Text.reads_colon]

theorem isMatch_blank :
    (pinned [blanks 0, .look (Anchor.holds .initial .lineEnd)]).isMatch line =
      (Text.trimStart line).isEmpty := by
  have ends : Anchor.holds .initial .lineEnd = fun _ after => after.isNone := by
    funext before after
    cases after <;> rfl
  rw [ends, isMatch_pinned ((reads_look Option.isNone).blanks fun t none => ?_)]
  · cases Text.trimStart line <;> rfl
  · cases t with
    | nil => rfl
    | cons c t => cases none

theorem isMatch_bare {word : Text} (plain : isPlain word = true) :
    (pinned (letters word ++ [])).isMatch line = Text.reads word (fun _ => true) line :=
  isMatch_pinned (reads_nil.letters plain) line

theorem isMatch_word {word : Text} (some : word ≠ []) (plain : isPlain word = true) :
    (pinned (blanks 0 :: (letters word ++ [blanks 1]))).isMatch line =
      Text.reads word Text.startsBlank (Text.trimStart line) :=
  isMatch_pinned (reads_last_blanks.word word some plain) line

theorem isMatch_jump :
    (pinned (blanks 0 :: (letters "jump".toList ++
      blanks 1 :: (letters "to".toList ++ [blanks 1])))).isMatch line =
      Text.reads "jump".toList (fun rest => Text.startsBlank rest &&
        Text.reads "to".toList Text.startsBlank (Text.trimStart rest)) (Text.trimStart line) := by
  have plain : isPlain "to".toList = true := by decide
  have target := (reads_last_blanks.letters plain).some_blanks fun t =>
    startsBlank_of_plain (by decide) plain
  exact isMatch_pinned (target.word "jump".toList (by decide) (by decide)) line

end

/-! ### The whole rulebook -/

def firstKind (rules : List (Regex × Kind)) (default : Kind) (line : Text) : Kind :=
  ((rules.find? (·.1.isMatch line)).map (·.2)).getD default

theorem firstKind_cons (r : Regex) (kind : Kind) (rules : List (Regex × Kind)) (default : Kind)
    (line : Text) : firstKind ((r, kind) :: rules) default line =
      if r.isMatch line then kind else firstKind rules default line := by
  rw [firstKind, List.find?_cons]
  cases r.isMatch line <;> rfl

theorem ofRulebook_builtin_eq : ofRulebook .builtin = .ok builtin := by
  rw [builtin, ofRulebook_builtin]
  rfl

theorem any_ignored_builtin (line : Text) : builtin.ignored.any (·.isMatch line) =
    ((Text.trimStart line).isEmpty || (Text.trimStart line).readsName) := by
  rw [Except.ok.inj (ofRulebook_builtin_eq.symm.trans ofRulebook_builtin)]
  simp only [List.any_cons, List.any_nil, Bool.or_false, isMatch_name, isMatch_blank]
  exact Bool.or_comm _ _

/-- The built-in rulebook compiles, and the kind of each line is found by its words. -/
theorem classify_builtin : ofRulebook .builtin = .ok builtin ∧
    ∀ line, builtin.classify line = kindByWords? line := by
  refine ⟨ofRulebook_builtin_eq, fun line => ?_⟩
  have tries : builtin.classify line = if builtin.ignored.any (·.isMatch line) then none
      else some (firstKind builtin.rules builtin.default line) := rfl
  rw [tries, any_ignored_builtin,
    Except.ok.inj (ofRulebook_builtin_eq.symm.trans ofRulebook_builtin)]
  simp only [firstKind_cons, isMatch_jump]
  rw [isMatch_bare (by decide), isMatch_bare (by decide), isMatch_word (by decide) (by decide),
    isMatch_word (by decide) (by decide), isMatch_word (by decide) (by decide),
    isMatch_word (by decide) (by decide)]
  -- the function and the call are two rules of one kind
  unfold kindByWords?
  simp only [Bool.or_eq_true, ite_or, apply_ite some]
  rfl

/-- The long s is read as an s, and `START` need not end a word. -/
example : kindByWords? "\u017FTARTER".toList = some .start := by decide

end Classifier
end Storygraph
