import StreamPlan.Config
import StreamPlan.Plan.Definition
import StreamPlan.Plan.Json
import StreamPlan.Yaml.Shape

/-! Plan documents: a plan, and settings that go with it. -/
namespace StreamPlan.Plan

open Yaml (Node Reading Tree Value)

namespace Column

def ofValue? (v : Value) : Option Column := do
  match ← v.record? ["name", "type", "nullable"] with
  | [some name, some type, nullable] =>
    some ⟨← name.text?, ← type.text?, ← Fields.orStandard false Value.bool? nullable⟩
  | _ => none

end Column

namespace Item

def ofValue? (v : Value) : Option Item := do
  match ← v.record? ["expr", "alias"] with
  | [some expression, name] =>
    some ⟨← expression.text?, ← Fields.orStandard none (Value.optional? Value.text?) name⟩
  | _ => none

end Item

namespace Origin

def ofValue? (v : Value) : Option Origin := do
  match ← v.record? ["topic", "mode", "key", "format", "delimiter", "avro_schema", "schema"] with
  | [some topic, mode, some key, format, delimiter, avroSchema, some columns] =>
    some ⟨← topic.text?, ← Fields.orStandard .stream (Value.oneOf? Mode.all Mode.display) mode, ← key.text?,
      ← Fields.orStandard "json" Value.text? format,
      ← Fields.orStandard none (Value.optional? Value.char?) delimiter,
      ← Fields.orStandard none (Value.optional? Value.text?) avroSchema,
      ← (← columns.list?).mapM Column.ofValue?⟩
  | _ => none

end Origin

namespace Definition

def kinds : List String := ["source", "filter", "project", "join", "output"]

/-- A definition from the name of its kind and its parts, given a reader for the inputs. -/
def ofParts? (input : Value → Option Definition) (kind : String) (parts : Value) : Option Definition := do
  match kind with
  | "source" => (Origin.ofValue? parts).map .source
  | "filter" =>
    match ← parts.record? ["predicate", "input"] with
    | [some predicate, some below] => some (.filter (← predicate.text?) (← input below))
    | _ => none
  | "project" =>
    match ← parts.record? ["columns", "input"] with
    | [some items, some below] => some (.project (← (← items.list?).mapM Item.ofValue?) (← input below))
    | _ => none
  | "join" =>
    match ← parts.record? ["type", "left_key", "right_key", "left_alias", "right_alias", "left", "right"] with
    | [kind, some leftKey, some rightKey, some leftAlias, some rightAlias, some left, some right] =>
      let kind ← Fields.orStandard .left (Value.oneOf? JoinKind.all JoinKind.name) kind
      let pairing := ⟨kind, ← leftKey.text?, ← rightKey.text?, ← leftAlias.text?, ← rightAlias.text?⟩
      some (.join pairing (← input left) (← input right))
    | _ => none
  | "output" =>
    match ← parts.record? ["sink", "console", "input"] with
    | [sink, console, some below] =>
      some (.output (← Fields.orStandard none (Value.optional? Value.text?) sink)
        (← Fields.orStandard false Value.bool? console) (← input below))
    | _ => none
  | _ => none

/-- Reads a definition nested no deeper than the bound. -/
def ofValue? : Nat → Value → Option Definition
  | 0, _ => none
  | bound + 1, v => do
    let (kind, parts) ← v.tagged? "op"
    ofParts? (ofValue? bound) (← kind.word? kinds) parts

end Definition

structure Document where
  overrides : Overrides
  definition : Definition
deriving Repr

inductive DocumentError where
  | unreadable
  | definition (error : DefinitionError)
deriving DecidableEq, Repr

def DocumentError.message : DocumentError → String
  | .unreadable => "yaml: not a plan document"
  | .definition error => error.message

namespace Document

/-- Collections may stand in one another this deep, the document itself among them. -/
def nestingLimit : Nat := 128

/-- A value inside the root definition. -/
def valueOf (tree : Tree) (node : Node) : Reading Value := Value.ofNode tree (nestingLimit - 2) node

/-- A member of the root definition: its kind is a word however it is written. -/
def rootMember (tree : Tree) (key value : Node) : Reading (Value × Value) := do
  let key ← valueOf tree key
  if key.isText "op" then pure (key, .text (← tree.text value)) else pure (key, ← valueOf tree value)

def rootValue (tree : Tree) (node : Node) : Reading Value := do
  match ← tree.follow node with
  | .mapping tag entries =>
    if !Yaml.Core.admits tag then failure
    pure (.map (← entries.mapM fun (key, value) => rootMember tree key value))
  | .sequence tag (kind :: items) =>
    if !Yaml.Core.admits tag then failure
    let kind ← tree.text kind
    pure (.list (.text kind :: (← items.mapM (valueOf tree))))
  | _ => failure

def overridesOf (tree : Tree) (node : Node) : Reading Overrides := do
  match ← tree.record ["state_store_suffix", "max_plan_depth", "console_row_limit"] node with
  | [suffix, depth, limit] =>
    pure ⟨← Fields.orStandard none (tree.optional tree.text) suffix,
      ← Fields.orStandard none (tree.optional tree.count) depth,
      ← Fields.orStandard none (tree.optional tree.count) limit⟩
  | _ => failure

def ofNode (tree : Tree) (node : Node) : Reading Document := do
  match ← tree.record ["config", "plan"] node with
  | [overrides, some root] =>
    let overrides ← Fields.orStandard none (tree.optional (overridesOf tree)) overrides
    let definition ← Definition.ofValue? nestingLimit (← rootValue tree root)
    pure ⟨overrides.getD .none, definition⟩
  | _ => failure

def ofTree? (tree : Tree) : Option Document := tree.read? (ofNode tree)
def ofText? (text : String) : Option Document := Tree.ofText? text >>= ofTree?

end Document

/-- A plan read from a document, with the settings that go with it. -/
structure Loaded where
  plan : Plan
  overrides : Overrides
deriving Repr

def load (text : String) : Except DocumentError Loaded :=
  match Document.ofText? text with
  | none => .error .unreadable
  | some document =>
    match document.definition.plan with
    | .ok plan => .ok ⟨plan, document.overrides⟩
    | .error e => .error (.definition e)

end StreamPlan.Plan
