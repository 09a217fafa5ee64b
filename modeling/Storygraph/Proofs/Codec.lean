import Storygraph.Codec.Decode
import Storygraph.Codec.Encode
import Storygraph.Proofs.Outcomes
import Storygraph.Proofs.Json.Answers
import Storygraph.Proofs.Json.Reading

/-!
# Graphs and warnings in files

A compilation is read from every text of its JSON form (`Compilation.ofText_of_written`) if the
kinds of its nodes are those of their tags and its numbers are in the range of files, and both hold
of whatever is read (`Compilation.ensures`).
-/

namespace Storygraph

open Json (Reader)
open Json.Reader

/-! ### Names of nodes and tags -/

/-- Whether some tag means the kind. A tag with a meaning of its own is no other tag. -/
def Kind.Tagged (k : Kind) : Prop := ∃ tag, ofTag tag = k

def NodeId.InRange (id : NodeId) : Prop := id.index ≤ maxNatural

theorem Kind.eq_of_ofTag {tag other : Text} (unknown : ofTag tag = .other other) : other = tag := by
  rw [ofTag] at unknown
  split at unknown
  iterate 9 cases unknown
  exact (Kind.other.inj unknown).symm

theorem Kind.ofTag_tag {k : Kind} (tagged : k.Tagged) : ofTag k.tag = k := by
  cases k with
  | other other =>
    obtain ⟨name, means⟩ := tagged
    obtain rfl := eq_of_ofTag means
    exact means
  | _ => rfl

instance : DecidablePred Kind.Tagged := fun k =>
  decidable_of_iff (Kind.ofTag k.tag = k) ⟨fun means => ⟨_, means⟩, Kind.ofTag_tag⟩

/-- A tag with a meaning is not kept as it is. -/
example : ¬(Kind.other "end".toList).Tagged := by decide

theorem NodeId.ofText?_toText {id : NodeId} (inRange : id.InRange) :
    ofText? id.toText = some id := by
  have unsigned : Text.dropPrefix? ['+'] (Text.ofNat id.index) = none := by
    obtain ⟨c, more, shape, digit⟩ := exists_ofNat_eq_cons id.index
    rw [shape, Text.dropPrefix?, if_neg (ne_of_isAsciiDigit '+' digit rfl).symm]
  rw [ofText?, toText, Text.dropPrefix?_append]
  change (Text.toNat? ((Text.dropPrefix? ['+'] (Text.ofNat id.index)).getD
    (Text.ofNat id.index))).bind _ = _
  rw [unsigned, Option.getD_none, Text.toNat?_ofNat]
  exact if_pos inRange

theorem NodeId.accepts {id : NodeId} (inRange : id.InRange) : Accepts read id.toJson id := by
  refine (accepts_text id.toText).bind fun t => ?_
  rw [ofText?_toText inRange]
  exact takes_pure id t

theorem Kind.accepts {k : Kind} (tagged : k.Tagged) : Accepts read (.text k.tag) k := by
  refine (accepts_text k.tag).bind fun t => ?_
  rw [ofTag_tag tagged]
  exact takes_pure k t

theorem WarningCode.accepts (code : WarningCode) : Accepts read (.text code.name.toList) code := by
  intro blanks t tail blank written delimited
  have reads := accepts_text code.name.toList Json.blank_nil written delimited
  cases written
  rw [Json.quote, List.cons_append, List.cons_append] at reads ⊢
  refine (takes_startOfValue blank rfl).bind (reads.bind ?_)
  have named : named? code.name.toList = some code := by cases code <;> rfl
  rw [ofName, named]
  exact takes_pure code tail

/-! ### Written and read again -/

variable {σ α : Type}

theorem accepts_field {key : String} {get : σ → Option α} {set : σ → α → σ} {read : Reader α}
    {optional : Bool} {st : σ} {value : Json} {a : α} (accepts : Accepts read value a) :
    Accepts ((field key get set read optional).read st) value (set st a) :=
  accepts.bind fun t => takes_pure (set st a) t

theorem Node.accepts {n : Node} (tagged : n.kind.Tagged) (inRange : n.id.InRange) :
    Accepts (record shape) n.toJson n :=
  accepts_record ⟨some n.id, some n.kind, some n.content⟩
    (.member rfl rfl (accepts_field (NodeId.accepts inRange))
      (.member rfl rfl (accepts_field (Kind.accepts tagged))
        (.member rfl rfl (accepts_field (accepts_text n.content)) (.nothing _)))) rfl

theorem Edge.accepts {e : Edge} (inRange : e.source.InRange ∧ e.target.InRange) :
    Accepts (record shape) e.toJson e :=
  accepts_record ⟨some e.source, some e.target⟩
    (.member rfl rfl (accepts_field (NodeId.accepts inRange.1))
      (.member rfl rfl (accepts_field (NodeId.accepts inRange.2)) (.nothing _))) rfl

theorem Warning.accepts {w : Warning} (inRange : w.line ≤ maxNatural) :
    Accepts (record shape) w.toJson w :=
  accepts_record ⟨some w.code, some w.message, some w.line⟩
    (.member rfl rfl (accepts_field (WarningCode.accepts w.code))
      (.member rfl rfl (accepts_field (accepts_text w.message))
        (.member rfl rfl (accepts_field (accepts_natural inRange)) (.nothing _)))) rfl

def Graph.Tagged (g : Graph) : Prop := ∀ n ∈ g.nodes, n.kind.Tagged

structure Graph.InRange (g : Graph) : Prop where
  nodes : ∀ n ∈ g.nodes, n.id.InRange
  edges : ∀ e ∈ g.edges, e.source.InRange ∧ e.target.InRange

theorem Graph.accepts {g : Graph} (tagged : g.Tagged) (inRange : g.InRange) :
    Accepts (record shape) g.toJson g := by
  have nodes := accepts_list_map fun n member =>
    Node.accepts (tagged n member) (inRange.nodes n member)
  have edges := accepts_list_map fun e member => Edge.accepts (inRange.edges e member)
  exact accepts_record ⟨some g.name, some g.nodes, some g.edges⟩
    (.member rfl rfl (accepts_field (accepts_text g.name))
      (.member rfl rfl (accepts_field nodes)
        (.member rfl rfl (accepts_field edges) (.nothing _)))) rfl

namespace Compilation

def Tagged (r : Compilation) : Prop := ∀ g ∈ r.sections, g.Tagged

structure InRange (r : Compilation) : Prop where
  sections : ∀ g ∈ r.sections, g.InRange
  warnings : ∀ w ∈ r.warnings, w.line ≤ maxNatural

variable {r : Compilation}

theorem accepts (tagged : r.Tagged) (inRange : r.InRange) : Accepts (record shape) r.toJson r := by
  have sections := accepts_list_map fun g member =>
    Graph.accepts (tagged g member) (inRange.sections g member)
  have warnings := accepts_list_map fun w member => Warning.accepts (inRange.warnings w member)
  exact accepts_record ⟨some r.sections, some r.warnings⟩
    (.member rfl rfl (accepts_field sections)
      (.member rfl rfl (accepts_field warnings) (.nothing _))) rfl

theorem ofText_of_written (tagged : r.Tagged) (inRange : r.InRange) {t : Text}
    (written : Json.Written r.toJson t) : ofText t = .ok r :=
  run_of_accepts (accepts tagged inRange) written

end Compilation

/-! ### What is read -/

theorem required_eq_ok {key : String} {o : Option α} {a : α} (found : required key o = .ok a) :
    o = some a := by
  cases o with
  | none => cases found
  | some b => rw [required, Except.ok.injEq] at found; rw [found]

theorem ensures_field {key : String} {get : σ → Option α} {set : σ → α → σ} {read : Reader α}
    {optional : Bool} {good : α → Prop} {valid : σ → Prop} {st : σ} (ensures : Ensures read good)
    (sets : ∀ a, good a → valid (set st a)) :
    Ensures ((field key get set read optional).read st) valid :=
  ensures.bind fun a holds => ensures_pure (sets a holds)

theorem NodeId.ensures : Ensures read InRange := by
  rw [read]
  refine ensures_bind fun t => ?_
  split
  · rename_i id named
    refine ensures_pure ?_
    rw [ofText?] at named
    obtain ⟨digits, -, named⟩ := Option.bind_eq_some_iff.mp named
    obtain ⟨n, -, named⟩ := Option.bind_eq_some_iff.mp named
    split at named
    · rename_i small
      exact Option.some.inj named ▸ small
    · cases named
  · exact ensures_failAround _

theorem Kind.ensures : Ensures read Tagged := ensures_bind fun t => ensures_pure ⟨t, rfl⟩

theorem Node.ensures : Ensures (record shape) fun n => n.kind.Tagged ∧ n.id.InRange := by
  refine ensures_record
    (fun st => (∀ id ∈ st.id, id.InRange) ∧ ∀ k ∈ st.kind, k.Tagged) ⟨nofun, nofun⟩ ?_ ?_
  · intro field member st ⟨ids, kinds⟩
    simp only [shape, List.mem_cons, List.not_mem_nil, or_false] at member
    rcases member with rfl | rfl | rfl
    · exact ensures_field NodeId.ensures fun id holds => ⟨by simpa using holds, kinds⟩
    · exact ensures_field Kind.ensures fun k holds => ⟨ids, by simpa using holds⟩
    · exact ensures_field (ensures_true _) fun t _ => ⟨ids, kinds⟩
  · intro st n ⟨ids, kinds⟩ finished
    obtain ⟨id, hasId, finished⟩ := bind_ok finished
    obtain ⟨kind, hasKind, finished⟩ := bind_ok finished
    obtain ⟨content, -, finished⟩ := bind_ok finished
    cases finished
    exact ⟨kinds kind (required_eq_ok hasKind), ids id (required_eq_ok hasId)⟩

theorem Edge.ensures : Ensures (record shape) fun e => e.source.InRange ∧ e.target.InRange := by
  refine ensures_record
    (fun st => (∀ id ∈ st.source, id.InRange) ∧ ∀ id ∈ st.target, id.InRange)
    ⟨nofun, nofun⟩ ?_ ?_
  · intro field member st ⟨sources, targets⟩
    simp only [shape, List.mem_cons, List.not_mem_nil, or_false] at member
    rcases member with rfl | rfl
    · exact ensures_field NodeId.ensures fun id holds => ⟨by simpa using holds, targets⟩
    · exact ensures_field NodeId.ensures fun id holds => ⟨sources, by simpa using holds⟩
  · intro st e ⟨sources, targets⟩ finished
    obtain ⟨source, hasSource, finished⟩ := bind_ok finished
    obtain ⟨target, hasTarget, finished⟩ := bind_ok finished
    cases finished
    exact ⟨sources source (required_eq_ok hasSource), targets target (required_eq_ok hasTarget)⟩

theorem Warning.ensures : Ensures (record shape) fun w => w.line ≤ maxNatural := by
  refine ensures_record (fun st => ∀ n ∈ st.line, n ≤ maxNatural) nofun ?_ ?_
  · intro field member st lines
    simp only [shape, List.mem_cons, List.not_mem_nil, or_false] at member
    rcases member with rfl | rfl | rfl
    · exact ensures_field (ensures_true _) fun code _ => lines
    · exact ensures_field (ensures_true _) fun t _ => lines
    · exact ensures_field ensures_natural fun n holds => by simpa using holds
  · intro st w lines finished
    obtain ⟨code, -, finished⟩ := bind_ok finished
    obtain ⟨message, -, finished⟩ := bind_ok finished
    obtain ⟨line, hasLine, finished⟩ := bind_ok finished
    cases finished
    exact lines line (required_eq_ok hasLine)

theorem Graph.ensures : Ensures (record shape) fun g => g.Tagged ∧ g.InRange := by
  refine ensures_record
    (fun st =>
      (∀ nodes ∈ st.nodes, ∀ n ∈ nodes, n.kind.Tagged ∧ n.id.InRange) ∧
        ∀ edges ∈ st.edges, ∀ e ∈ edges, e.source.InRange ∧ e.target.InRange)
    ⟨nofun, nofun⟩ ?_ ?_
  · intro field member st ⟨nodes, edges⟩
    simp only [shape, List.mem_cons, List.not_mem_nil, or_false] at member
    rcases member with rfl | rfl | rfl
    · exact ensures_field (ensures_true _) fun t _ => ⟨nodes, edges⟩
    · exact ensures_field (ensures_list Node.ensures) fun ns holds => ⟨by simpa using holds, edges⟩
    · exact ensures_field (ensures_list Edge.ensures) fun es holds => ⟨nodes, by simpa using holds⟩
  · intro st g ⟨nodes, edges⟩ finished
    obtain ⟨name, -, finished⟩ := bind_ok finished
    obtain ⟨ns, hasNodes, finished⟩ := bind_ok finished
    obtain ⟨es, hasEdges, finished⟩ := bind_ok finished
    cases finished
    have nodes := nodes ns (required_eq_ok hasNodes)
    exact ⟨fun n member => (nodes n member).1, fun n member => (nodes n member).2,
      edges es (required_eq_ok hasEdges)⟩

theorem Compilation.ensures : Ensures (record shape) fun r => r.Tagged ∧ r.InRange := by
  refine ensures_record
    (fun st =>
      (∀ sections ∈ st.sections, ∀ g ∈ sections, g.Tagged ∧ g.InRange) ∧
        ∀ warnings ∈ st.warnings, ∀ w ∈ warnings, w.line ≤ maxNatural)
    ⟨nofun, nofun⟩ ?_ ?_
  · intro field member st ⟨sections, warnings⟩
    simp only [shape, List.mem_cons, List.not_mem_nil, or_false] at member
    rcases member with rfl | rfl
    · exact ensures_field (ensures_list Graph.ensures)
        fun gs holds => ⟨by simpa using holds, warnings⟩
    · exact ensures_field (ensures_list Warning.ensures)
        fun ws holds => ⟨sections, by simpa using holds⟩
  · intro st r ⟨sections, warnings⟩ finished
    obtain ⟨gs, hasSections, finished⟩ := bind_ok finished
    obtain ⟨ws, hasWarnings, finished⟩ := bind_ok finished
    cases finished
    have sections := sections gs (required_eq_ok hasSections)
    exact ⟨fun g member => (sections g member).1, fun g member => (sections g member).2,
      warnings ws (required_eq_ok hasWarnings)⟩

end Storygraph
