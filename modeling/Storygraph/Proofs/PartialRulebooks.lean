import Storygraph.Proofs.PartialRecords

/-!
# Rulebooks with fields left out

A rulebook is read from every object that has each of its three fields once or not at all, in any
order and among any other members. What is left out is that of the built-in rulebook.
-/

namespace Storygraph

open Json (Given ListSpelled ObjectSpelled Repeats valuesOf)
open Json.Reader

inductive Rule.Spelled : Rule → Text → Prop
  | object {members : List (Text × Text)} {v name pattern : Text} {description : Option Text} :
      ObjectSpelled members v →
      Given TextSpelled (some name) (valuesOf "name".toList members) →
      Given TextSpelled (some pattern) (valuesOf "pattern".toList members) →
      Given TextSpelled description (valuesOf "description".toList members) →
      Spelled ⟨name, pattern, description.getD []⟩ v

def Rule.slots : Slots RuleFields where
  slots := [
    { key := "name", get := (·.name), set := fun st t => { st with name := some t }
      read := text, spelled := TextSpelled },
    { key := "pattern", get := (·.pattern), set := fun st t => { st with pattern := some t }
      read := text, spelled := TextSpelled },
    { key := "description", get := (·.description)
      set := fun st t => { st with description := some t }
      read := text, optional := true, spelled := TextSpelled }]
  distinct := by decide
  get_set := by simp
  get_other := by simp
  ext := by
    rintro ⟨name, pattern, description⟩ ⟨name', pattern', description'⟩ same
    simpa using same
  admits := by simpa using fun _ _ => admits_text
  exact := by simpa using exact_text

theorem Rule.fields_eq : shape.fields = slots.fields := rfl

theorem Rule.admits {r : Rule} {v : Text} (spelled : r.Spelled v) :
    Admits (record shape) v r := by
  obtain @⟨members, v, name, pattern, description, object, named, patterned, described⟩ := spelled
  refine slots.admits_object fields_eq (by simp [slots, shape]) object
    ⟨some name, some pattern, description⟩ ?_ rfl
  simpa [slots] using ⟨named, patterned, described⟩

theorem Rule.begins {r : Rule} {v : Text} (spelled : r.Spelled v) : Begins v := by
  obtain ⟨⟨-, t, rfl, -⟩, -, -, -⟩ := spelled
  exact ⟨'\x7b', t, rfl, rfl, by decide⟩

namespace Rulebook

def slots : Slots RulebookFields where
  slots := [
    { key := "node_types", get := (·.rules), set := fun st rs => { st with rules := some rs }
      read := .list (.record Rule.shape), optional := true, spelled := ListSpelled Rule.Spelled },
    { key := "default_node_type", get := (·.defaultTag)
      set := fun st t => { st with defaultTag := some t }
      read := text, optional := true, spelled := TextSpelled },
    { key := "ignore_patterns", get := (·.ignored)
      set := fun st ps => { st with ignored := some ps }
      read := .list text, optional := true, spelled := ListSpelled TextSpelled }]
  distinct := by decide
  get_set := by simp
  get_other := by simp
  ext := by
    rintro ⟨rules, defaultTag, ignored⟩ ⟨rules', defaultTag', ignored'⟩ same
    simpa using same
  admits := by
    have rules : ∀ rs v, ListSpelled Rule.Spelled rs v → Admits (list (record Rule.shape)) v rs :=
      fun _ _ => Json.admits_listSpelled fun _ _ spelled =>
        ⟨Rule.begins spelled, Rule.admits spelled⟩
    have ignored : ∀ ts v, ListSpelled TextSpelled ts v → Admits (list text) v ts :=
      fun _ _ => Json.admits_listSpelled fun _ _ spelled =>
        ⟨begins_of_textSpelled spelled, admits_text spelled⟩
    simpa using ⟨rules, fun _ _ => admits_text, ignored⟩
  exact := by
    simpa using ⟨exact_list (Rule.slots.exact_object Rule.fields_eq), exact_text,
      exact_list exact_text⟩

theorem fields_eq : shape.fields = slots.fields := rfl

variable {members : List (Text × Text)} {before v after : Text}

theorem admits (object : ObjectSpelled members v) (given : RulebookFields)
    (rules : Given (ListSpelled Rule.Spelled) given.rules (valuesOf "node_types".toList members))
    (defaultTag : Given TextSpelled given.defaultTag
      (valuesOf "default_node_type".toList members))
    (ignored : Given (ListSpelled TextSpelled) given.ignored
      (valuesOf "ignore_patterns".toList members)) :
    Admits (record shape) v {
      rules := given.rules.getD builtin.rules
      defaultTag := given.defaultTag.getD builtin.defaultTag
      ignored := given.ignored.getD builtin.ignored } := by
  refine slots.admits_object fields_eq (by simp [slots, shape]) object given ?_ rfl
  simpa [slots] using ⟨rules, defaultTag, ignored⟩

theorem exists_ofText_eq_error (never : Never (record shape) v) (blank : Json.Blank before)
    (blank' : Json.Blank after) : ∃ e, ofText (before ++ (v ++ after)) = .error e :=
  exists_run_eq_error (never blank (delimited_of_blank blank'))

/-- A rulebook is read from every object with each of its fields once or not at all, in any order
and among any other members: a field that is left out is that of the built-in rulebook, and the
description of a rule is empty if it is left out. With a field twice, be it of the rulebook or of a
rule, the object is refused. -/
theorem ofText_object (object : ObjectSpelled members v) (blank : Json.Blank before)
    (blank' : Json.Blank after) :
    (∀ given : RulebookFields,
      Given (ListSpelled Rule.Spelled) given.rules (valuesOf "node_types".toList members) →
      Given TextSpelled given.defaultTag (valuesOf "default_node_type".toList members) →
      Given (ListSpelled TextSpelled) given.ignored (valuesOf "ignore_patterns".toList members) →
      ofText (before ++ (v ++ after)) = .ok {
        rules := given.rules.getD builtin.rules
        defaultTag := given.defaultTag.getD builtin.defaultTag
        ignored := given.ignored.getD builtin.ignored }) ∧
    ((∃ key ∈ ["node_types", "default_node_type", "ignore_patterns"],
        2 ≤ (valuesOf key.toList members).length) →
      ∃ e, ofText (before ++ (v ++ after)) = .error e) ∧
    (∀ rules list, ("node_types".toList, list) ∈ members → ListSpelled Eq rules list →
      (∀ rule ∈ rules, Json.IsValue rule) → (∃ rule ∈ rules, Repeats Rule.shape.fields rule) →
      ∃ e, ofText (before ++ (v ++ after)) = .error e) := by
  refine ⟨fun given rules defaultTag ignored => ?_, fun twice => ?_, fun rules list has spelled
    values twice => ?_⟩
  · exact run_of_admits (admits object given rules defaultTag ignored) blank blank'
  · refine exists_ofText_eq_error (slots.never_of_repeats fields_eq ⟨members, object, ?_⟩)
      blank blank'
    simpa [shape, field] using twice
  · obtain ⟨rule, member, repeats⟩ := twice
    obtain ⟨t, rfl, separated⟩ := spelled
    have never := never_list (Rule.slots.exact_object Rule.fields_eq) separated values member
      (Rule.slots.never_of_repeats Rule.fields_eq repeats)
    have first : slots.slots.head (by decide) ∈ slots.slots := List.head_mem _
    exact exists_ofText_eq_error (slots.never_of_value fields_eq object first has never)
      blank blank'

/-- A rule without a description, behind a member that no rulebook has, and a default tag that is
given twice. -/
theorem ofText_object_camera :
    let t := "\x7b\"x\":[1e400,null],\"node_types\":" ++
      "[\x7b\"pattern\":\"^pan\",\"name\":\"camera\"\x7d]\x7d"
    let twice := "\x7b\"default_node_type\":\"a\",\"x\":null,\"default_node_type\":[]\x7d"
    ofText t.toList = .ok {
      rules := [⟨"camera".toList, "^pan".toList, []⟩]
      defaultTag := builtin.defaultTag
      ignored := builtin.ignored } ∧
    ∃ e, ofText twice.toList = .error e := by
  intro t twice
  have digits : ∀ t : Text, t ≠ [] → t.all isAsciiDigit = true → Json.IsDigits t :=
    fun t nonempty all => ⟨nonempty, List.all_eq_true.mp all⟩
  have large : Json.IsValue "1e400".toList :=
    .scalar (.number (.parts (.digits (digits ['1'] (by decide) rfl) (by decide)) .none
      (.digits (.inl rfl) (.inl rfl) (digits "400".toList (by decide) rfl))))
  have null : Json.IsValue "null".toList := .scalar .null
  let rule := Json.objectText
    [("pattern".toList, Json.quote "^pan".toList), ("name".toList, Json.quote "camera".toList)]
  have inside : ObjectSpelled _ rule :=
    Json.objectSpelled_objectText (by simp [Json.isValue_quote])
  have spelled : Rule.Spelled ⟨"camera".toList, "^pan".toList, []⟩ rule :=
    .object inside (.once (textSpelled_quote _)) (.once (textSpelled_quote _)) .omitted
  constructor
  · let members := [("x".toList, Json.listText ["1e400".toList, "null".toList]),
      ("node_types".toList, Json.listText [rule])]
    have object : ObjectSpelled members (Json.objectText members) := by
      have values : Json.IsValue (Json.listText ["1e400".toList, "null".toList]) :=
        Json.isValue_listText (by simpa using ⟨large, null⟩)
      have rules : Json.IsValue (Json.listText [rule]) :=
        Json.isValue_listText (by simpa using inside.isValue)
      exact Json.objectSpelled_objectText (List.forall_mem_cons.mpr ⟨values, by simpa using rules⟩)
    have rules : ListSpelled Rule.Spelled [_] (Json.listText [rule]) :=
      Json.listSpelled_listText (fun _ => rule) (by simpa using spelled)
    have read := (ofText_object object Json.blank_nil Json.blank_nil).1 ⟨some [_], none, none⟩
      (.once rules) .omitted .omitted
    have same : [] ++ (Json.objectText members ++ []) = t.toList := by decide
    rwa [same] at read
  · let members := [("default_node_type".toList, Json.quote ['a']), ("x".toList, "null".toList),
      ("default_node_type".toList, Json.listText [])]
    have object : ObjectSpelled members (Json.objectText members) :=
      Json.objectSpelled_objectText (List.forall_mem_cons.mpr ⟨Json.isValue_quote _,
        List.forall_mem_cons.mpr ⟨null, by simpa using Json.isValue_listText (by simp)⟩⟩)
    have refused := (ofText_object object Json.blank_nil Json.blank_nil).2.1
      ⟨"default_node_type", by simp, by decide⟩
    have same : [] ++ (Json.objectText members ++ []) = twice.toList := by decide
    rwa [same] at refused

end Rulebook

end Storygraph
