import Storygraph.Compilation
import Storygraph.Json.Decode

/-!
# Files read from JSON

Graphs, warnings, compilations and rulebooks read from their JSON forms. A rulebook that leaves
out a field gets that field of the built-in rulebook.
-/

namespace Storygraph

open Json (Reader Fault)
open Json.Reader (Shape)

def required {α : Type} (key : String) : Option α → Except Fault α
  | some a => .ok a
  | none => .error (.missingField key)

/-- A field that is read into one part of the state. -/
def field {σ α : Type} (key : String) (get : σ → Option α) (set : σ → α → σ) (read : Reader α)
    (optional : Bool := false) : Reader.Field σ where
  key
  optional
  isRead st := (get st).isSome
  read st := return set st (← read)

def NodeId.read : Reader NodeId := do
  let t ← Json.Reader.text
  match ofText? t with
  | some id => return id
  | none => Json.Reader.failAround (.refused (refusal t))

def Kind.read : Reader Kind := return ofTag (← Json.Reader.text)

structure NodeFields where
  id : Option NodeId
  kind : Option Kind
  content : Option Text

def Node.shape : Shape NodeFields Node where
  name := "struct ScriptNode"
  fields := [
    field "id" (·.id) (fun st id => { st with id := some id }) NodeId.read,
    field "type" (·.kind) (fun st kind => { st with kind := some kind }) Kind.read,
    field "content" (·.content) (fun st t => { st with content := some t }) Json.Reader.text]
  start := ⟨none, none, none⟩
  finish st := do
    let id ← required "id" st.id
    let kind ← required "type" st.kind
    return ⟨id, kind, ← required "content" st.content⟩

structure EdgeFields where
  source : Option NodeId
  target : Option NodeId

def Edge.shape : Shape EdgeFields Edge where
  name := "struct ScriptEdge"
  fields := [
    field "from_id" (·.source) (fun st id => { st with source := some id }) NodeId.read,
    field "to_id" (·.target) (fun st id => { st with target := some id }) NodeId.read]
  start := ⟨none, none⟩
  finish st := do
    let source ← required "from_id" st.source
    return ⟨source, ← required "to_id" st.target⟩

structure GraphFields where
  name : Option Text
  nodes : Option (List Node)
  edges : Option (List Edge)

def Graph.shape : Shape GraphFields Graph where
  name := "struct SectionGraph"
  fields := [
    field "name" (·.name) (fun st t => { st with name := some t }) Json.Reader.text,
    field "nodes" (·.nodes) (fun st ns => { st with nodes := some ns })
      (.list (.record Node.shape)),
    field "edges" (·.edges) (fun st es => { st with edges := some es })
      (.list (.record Edge.shape))]
  start := ⟨none, none, none⟩
  finish st := do
    let name ← required "name" st.name
    let nodes ← required "nodes" st.nodes
    return ⟨name, nodes, ← required "edges" st.edges⟩

def Graph.ofText (t : Text) : Except Json.Error Graph := (Json.Reader.record Graph.shape).run t

def WarningCode.ofName (name : Text) : Reader WarningCode :=
  match named? name with
  | some code => return code
  | none => Json.Reader.failHere (.unknownVariant name (all.map WarningCode.name))

/-- Reads a warning's code: its name, or a record whose one key is the name. -/
def WarningCode.read : Reader WarningCode := do
  match ← Json.Reader.startOfValue with
  | '"' => ofName (← Json.Reader.text)
  | '\x7b' =>
    Json.Reader.advance
    if ← Json.Reader.nextKey true then
      let code ← ofName (← Json.Reader.readText)
      Json.Reader.colon
      Json.Reader.unit
      match ← Json.Reader.token? with
      | some '\x7d' =>
        Json.Reader.advance
        return code
      | some _ => Json.Reader.failHere .expectedValue
      | none => Json.Reader.failHere .endInRecord
    else Json.Reader.failAhead .expectedValue
  | _ => Json.Reader.failAhead .expectedValue

structure WarningFields where
  code : Option WarningCode
  message : Option Text
  line : Option Nat

def Warning.shape : Shape WarningFields Warning where
  name := "struct ParseWarning"
  fields := [
    field "code" (·.code) (fun st code => { st with code := some code }) WarningCode.read,
    field "message" (·.message) (fun st t => { st with message := some t }) Json.Reader.text,
    field "line" (·.line) (fun st n => { st with line := some n }) Json.Reader.natural]
  start := ⟨none, none, none⟩
  finish st := do
    let code ← required "code" st.code
    let message ← required "message" st.message
    return ⟨code, message, ← required "line" st.line⟩

def Warning.ofText (t : Text) : Except Json.Error Warning :=
  (Json.Reader.record Warning.shape).run t

structure CompilationFields where
  sections : Option (List Graph)
  warnings : Option (List Warning)

def Compilation.shape : Shape CompilationFields Compilation where
  name := "struct ParseResult"
  fields := [
    field "sections" (·.sections) (fun st gs => { st with sections := some gs })
      (.list (.record Graph.shape)),
    field "warnings" (·.warnings) (fun st ws => { st with warnings := some ws })
      (.list (.record Warning.shape))]
  start := ⟨none, none⟩
  finish st := do
    let sections ← required "sections" st.sections
    return ⟨sections, ← required "warnings" st.warnings⟩

def Compilation.ofText (t : Text) : Except Json.Error Compilation :=
  (Json.Reader.record Compilation.shape).run t

structure RuleFields where
  name : Option Text
  pattern : Option Text
  description : Option Text

/-- How a rule is read. The description may be left out. -/
def Rule.shape : Shape RuleFields Rule where
  name := "struct NodeTypeDefinition"
  fields := [
    field "name" (·.name) (fun st t => { st with name := some t }) Json.Reader.text,
    field "pattern" (·.pattern) (fun st t => { st with pattern := some t }) Json.Reader.text,
    field "description" (·.description) (fun st t => { st with description := some t })
      Json.Reader.text true]
  start := ⟨none, none, none⟩
  finish st := do
    let name ← required "name" st.name
    let pattern ← required "pattern" st.pattern
    return ⟨name, pattern, st.description.getD []⟩

structure RulebookFields where
  rules : Option (List Rule)
  defaultTag : Option Text
  ignored : Option (List Text)

def Rulebook.shape : Shape RulebookFields Rulebook where
  name := "struct NodeTypeConfig"
  fields := [
    field "node_types" (·.rules) (fun st rs => { st with rules := some rs })
      (.list (.record Rule.shape)) true,
    field "default_node_type" (·.defaultTag) (fun st t => { st with defaultTag := some t })
      Json.Reader.text true,
    field "ignore_patterns" (·.ignored) (fun st ps => { st with ignored := some ps })
      (.list Json.Reader.text) true]
  start := ⟨none, none, none⟩
  finish st := .ok {
    rules := st.rules.getD builtin.rules
    defaultTag := st.defaultTag.getD builtin.defaultTag
    ignored := st.ignored.getD builtin.ignored }

namespace Rulebook

def ofText (t : Text) : Except Json.Error Rulebook := (Json.Reader.record shape).run t

def refusal (e : Json.Error) : Text := "invalid node type configuration JSON: ".toList ++ e.message

end Rulebook

end Storygraph
