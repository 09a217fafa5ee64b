import Storygraph.Json.Decode

/-!
# What readers answer

A property of every answer that a reader gives, whatever it reads. `ensures_natural`,
`ensures_list` and `ensures_record` carry such properties from the parts of a value to the whole.
-/

namespace Storygraph.Json

def Number.InRange : Number → Prop
  | natural n => n ≤ maxNatural
  | negative _ => True
  | fraction _ _ => True

namespace Reader

variable {α β σ : Type} {good : α → Prop}

def Ensures (read : Reader α) (good : α → Prop) : Prop :=
  ∀ s a s', read s = .ok (a, s') → good a

theorem ensures_true (read : Reader α) : Ensures read fun _ => True := fun _ _ _ _ => trivial

theorem ensures_pure {a : α} (holds : good a) : Ensures (pure a) good := by
  intro s b s' answers
  cases answers
  exact holds

theorem Ensures.bind {read : Reader β} {next : β → Reader α} {between : β → Prop}
    (first : Ensures read between) (second : ∀ b, between b → Ensures (next b) good) :
    Ensures (read >>= next) good := by
  intro s a s' answers
  change Except.bind (read s) (fun p => next p.1 p.2) = _ at answers
  cases ran : read s with
  | error failure =>
    rw [ran] at answers
    cases answers
  | ok p =>
    rw [ran] at answers
    exact second p.1 (first s p.1 p.2 ran) p.2 a s' answers

theorem ensures_bind {read : Reader β} {next : β → Reader α}
    (second : ∀ b, Ensures (next b) good) : Ensures (read >>= next) good :=
  (ensures_true read).bind fun b _ => second b

theorem ensures_failHere (fault : Fault) : Ensures (failHere fault) good :=
  fun _ _ _ answers => by cases answers

theorem ensures_failAhead (fault : Fault) : Ensures (failAhead fault) good :=
  fun _ _ _ answers => by cases answers

theorem ensures_failAround (fault : Fault) : Ensures (failAround fault) good :=
  fun _ _ _ answers => by cases answers

theorem ensures_ite {p : Prop} [Decidable p] {yes no : Reader α} (whenTrue : Ensures yes good)
    (whenFalse : Ensures no good) : Ensures (if p then yes else no) good := by
  split
  · exact whenTrue
  · exact whenFalse

theorem ensures_when {p : Prop} [Decidable p] {step : Reader Unit} {next : Unit → Reader α}
    (always : ∀ u, Ensures (next u) good) :
    Ensures (if p then step >>= next else next ()) good :=
  ensures_ite (ensures_bind always) (always ())

theorem Ensures.within {leave : Reader Unit} {after : Source → Source} {read : Reader α}
    (inside : Ensures read good) : Ensures (within leave after read) good := by
  intro s a s' answers
  rw [Reader.within] at answers
  split at answers
  · rename_i b left ran
    cases leaves : leave left with
    | error failure =>
      rw [leaves] at answers
      cases answers
    | ok p =>
      rw [leaves] at answers
      cases answers
      exact inside s a left ran
  · cases answers
  · cases answers

/-! ### Numbers -/

theorem fitting_le {m : Nat} (small : m ≤ maxNatural) (ds : Text) :
    (fitting m ds).2 ≤ maxNatural := by
  induction ds generalizing m with
  | nil => exact small
  | cons c ds ih =>
    rw [fitting]
    split
    · rename_i fits
      exact ih fits
    · exact small

theorem ensures_finish (below : Bool) (p : Parts) : Ensures (finish below p) Number.InRange := by
  rw [finish]
  split
  · exact ensures_pure trivial
  · exact ensures_failHere _

theorem ensures_readExponent (below : Bool) (p : Parts) :
    Ensures (readExponent below p) Number.InRange := by
  rw [readExponent]
  refine ensures_bind fun _ => ensures_bind fun sign => ensures_bind fun _ => ensures_when fun _ =>
    ensures_bind fun ds => ensures_ite ?_ ?_
  · exact ensures_bind fun _ => ensures_ite (ensures_failHere _) (ensures_failAhead _)
  · split
    refine ensures_bind fun _ => ensures_ite (ensures_finish _ _) (ensures_ite ?_ ?_)
    · exact ensures_failHere _
    · exact ensures_bind fun _ => ensures_pure trivial

theorem ensures_finishWithExponent (below : Bool) (p : Parts) :
    Ensures (finishWithExponent below p) Number.InRange := by
  rw [finishWithExponent]
  refine ensures_bind fun _ => ?_
  split
  · exact ensures_readExponent below p
  · exact ensures_readExponent below p
  · exact ensures_finish below p

theorem ensures_readFraction (below : Bool) (p : Parts) :
    Ensures (readFraction below p) Number.InRange := by
  rw [readFraction]
  refine ensures_bind fun _ => ensures_bind fun ds => ensures_ite ?_ ?_
  · exact ensures_bind fun _ => ensures_ite (ensures_failAhead _) (ensures_failAhead _)
  · exact ensures_bind fun _ => ensures_finishWithExponent below _

theorem ensures_readLong (below : Bool) (p : Parts) :
    Ensures (readLong below p) Number.InRange := by
  rw [readLong]
  refine ensures_bind fun _ => ?_
  split
  · exact ensures_readFraction below p
  · exact ensures_finishWithExponent below p

theorem ensures_readWhole (below : Bool) {n : Nat} (small : n ≤ maxNatural) :
    Ensures (readWhole below n) Number.InRange := by
  rw [readWhole]
  refine ensures_bind fun _ => ?_
  split
  · exact ensures_readFraction below _
  · exact ensures_readExponent below _
  · exact ensures_readExponent below _
  · exact ensures_ite (ensures_pure small)
      (ensures_ite (ensures_pure trivial) (ensures_pure trivial))

theorem ensures_readUnsigned (below : Bool) : Ensures (readUnsigned below) Number.InRange := by
  rw [readUnsigned]
  refine ensures_bind fun ds => ?_
  split
  · exact ensures_bind fun _ => ensures_ite (ensures_failHere _) (ensures_failAhead _)
  · exact ensures_bind fun _ =>
      ensures_ite (ensures_readWhole below (Nat.zero_le _)) (ensures_failAhead _)
  · exact ensures_bind fun _ =>
      ensures_ite (ensures_readWhole below (fitting_le (Nat.zero_le _) ds))
        (ensures_readLong below _)

theorem ensures_readNumber : Ensures readNumber Number.InRange := by
  rw [readNumber]
  refine ensures_bind fun _ => ensures_ite ?_ (ensures_readUnsigned false)
  exact ensures_bind fun _ => ensures_readUnsigned true

/-! ### Values -/

theorem ensures_failType (wanted : String) : Ensures (failType wanted) good := by
  rw [failType]
  refine ensures_bind fun _ => ?_
  split
  · exact ensures_bind fun _ => ensures_bind fun _ => ensures_failHere _
  · exact ensures_bind fun _ => ensures_bind fun _ => ensures_failHere _
  · exact ensures_bind fun _ => ensures_bind fun _ => ensures_failHere _
  · exact ensures_bind fun _ => ensures_bind fun _ => ensures_failHere _
  · exact ensures_failHere _
  · exact ensures_failHere _
  · exact ensures_ite (ensures_bind fun _ => ensures_failHere _) (ensures_failAhead _)
  · exact ensures_failAhead _

theorem ensures_natural : Ensures natural (· ≤ maxNatural) := by
  rw [natural]
  refine ensures_bind fun _ => ensures_ite ?_ (ensures_failType _)
  refine ensures_readNumber.bind fun number inRange => ?_
  cases number with
  | natural n => exact ensures_pure inRange
  | negative n => exact ensures_failHere _
  | fraction below x => exact ensures_failHere _

theorem ensures_items {read : Reader α} (ensures : Ensures read good) (fuel : Nat)
    (atFirst : Bool) : Ensures (items read fuel atFirst) fun as => ∀ a ∈ as, good a := by
  induction fuel generalizing atFirst with
  | zero => exact ensures_pure (by simp)
  | succ fuel ih =>
    rw [items]
    refine ensures_bind fun _ => ensures_ite ?_ (ensures_pure (by simp))
    refine ensures.bind fun a ofFirst => (ih false).bind fun as ofOthers => ensures_pure ?_
    exact List.forall_mem_cons.mpr ⟨ofFirst, ofOthers⟩

theorem ensures_list {read : Reader α} (ensures : Ensures read good) :
    Ensures (list read) fun as => ∀ a ∈ as, good a := by
  rw [list]
  refine ensures_bind fun _ => ensures_ite ?_ (ensures_failType _)
  exact ensures_bind fun _ => ensures_bind fun _ => (ensures_items ensures _ true).within

/-! ### Records -/

section

variable {valid : σ → Prop}

theorem ensures_fieldsInOrder (shape : Shape σ α) {fields : List (Field σ)}
    (keeps : ∀ field ∈ fields, ∀ st, valid st → Ensures (field.read st) valid) (index : Nat)
    {st : σ} (holds : valid st) : Ensures (fieldsInOrder shape index fields st) valid := by
  induction fields generalizing index st with
  | nil => exact ensures_pure holds
  | cons field rest ih =>
    have kept := fun f member => keeps f (List.mem_cons_of_mem _ member)
    rw [fieldsInOrder]
    refine ensures_bind fun _ =>
      ensures_ite ?_ (ensures_ite (ih kept _ holds) (ensures_failAround _))
    exact (keeps field List.mem_cons_self st holds).bind fun st holds => ih kept _ holds

theorem ensures_members {fields : List (Field σ)}
    (keeps : ∀ field ∈ fields, ∀ st, valid st → Ensures (field.read st) valid) (fuel : Nat)
    (atFirst : Bool) {st : σ} (holds : valid st) :
    Ensures (members fields fuel atFirst st) valid := by
  induction fuel generalizing atFirst st with
  | zero => exact ensures_pure holds
  | succ fuel ih =>
    rw [members]
    refine ensures_bind fun _ => ensures_ite ?_ (ensures_pure holds)
    refine ensures_bind fun key => ?_
    split
    · rename_i field known
      refine ensures_ite (ensures_failAround _) (ensures_bind fun _ => ?_)
      exact (keeps field (List.mem_of_find?_eq_some known) st holds).bind
        fun st holds => ih false holds
    · exact ensures_bind fun _ => ensures_bind fun _ => ih false holds

theorem ensures_value {shape : Shape σ α} {st : σ}
    (finishes : ∀ a, shape.finish st = .ok a → good a) : Ensures (shape.value st) good := by
  rw [Shape.value]
  split
  · rename_i a finished
    exact ensures_pure (finishes a finished)
  · exact ensures_failAround _

/-- What holds of the state of a record before any field is read, and still holds after each field,
holds at its end, be the record a list of its fields or not. -/
theorem ensures_record {shape : Shape σ α} (valid : σ → Prop) (starts : valid shape.start)
    (keeps : ∀ field ∈ shape.fields, ∀ st, valid st → Ensures (field.read st) valid)
    (finishes : ∀ st a, valid st → shape.finish st = .ok a → good a) :
    Ensures (record shape) good := by
  rw [record]
  refine ensures_bind fun c => ?_
  split
  · exact ensures_bind fun _ => ((ensures_fieldsInOrder shape keeps 0 starts).bind
      fun st holds => ensures_value fun a => finishes st a holds).within
  · exact ensures_bind fun _ => (ensures_bind fun _ => (ensures_members keeps _ true starts).bind
      fun st holds => ensures_value fun a => finishes st a holds).within
  · exact ensures_failType _

end

theorem Ensures.of_run {read : Reader α} (ensures : Ensures read good) {t : Text} {a : α}
    (answers : run read t = .ok a) : good a := by
  simp only [run] at answers
  split at answers
  · rename_i b s ran
    cases answers
    refine (ensures.bind fun b holds => ?_) _ _ _ ran
    exact ensures_bind fun _ => ensures_ite (ensures_failAhead _) (ensures_pure holds)
  · cases answers
  · cases answers

end Reader

end Storygraph.Json
