import StreamPlan.Hash.Digest
import StreamPlan.Plan.Json
import StreamPlan.Topology.Basic

/-! Topologies as JSON, and the digest of a topology through that text. -/
namespace StreamPlan

def StageId.toJson (id : StageId) : Json := .whole id.number
def StageId.ofJson? (j : Json) : Option StageId := j.count?.map StageId.mk

namespace StageOp

def tagged (op : StageOp) (parts : List (String × Json)) : Json := .object (("op", .text op.name) :: parts)

def parts : StageOp → List (String × Json)
  | .streamSource topic codec => [("topic", .text topic), ("serde", codec.withKeyToJson)]
  | .tableSource topic codec store =>
    [("topic", .text topic), ("serde", codec.withKeyToJson), ("store", .text store)]
  | .filter predicate => [("predicate", predicate.toJson)]
  | .project expressions => [("expressions", .list (expressions.map Expr.toJson))]
  | .selectKey field => [("key_field", .text field)]
  | .leftJoin codec => [("serde", codec.withKeyToJson)]
  | .toTopic topic codec => [("topic", .text topic), ("serde", codec.withKeyToJson)]
  | .print => []

def toJson (op : StageOp) : Json := op.tagged op.parts

def ofJson? (j : Json) : Option StageOp := do
  match ← j.tagged? "op" Json.text? with
  | ("stream_source", content) =>
    match ← content.record? ["topic", "serde"] with
    | [some topic, some codec] => some (.streamSource (← topic.text?) (← Codec.withKeyOfJson? .free codec))
    | _ => none
  | ("table_source", content) =>
    match ← content.record? ["topic", "serde", "store"] with
    | [some topic, some codec, some store] =>
      some (.tableSource (← topic.text?) (← Codec.withKeyOfJson? .free codec) (← store.text?))
    | _ => none
  | ("filter", content) =>
    match ← content.record? ["predicate"] with
    | [some predicate] => (Expr.ofJson? .free predicate).map .filter
    | _ => none
  | ("project", content) =>
    match ← content.record? ["expressions"] with
    | [some expressions] => ((← expressions.list?).mapM (Expr.ofJson? .free)).map .project
    | _ => none
  | ("select_key", content) =>
    match ← content.record? ["key_field"] with
    | [some field] => field.text?.map .selectKey
    | _ => none
  | ("left_join", content) =>
    match ← content.record? ["serde"] with
    | [some codec] => (Codec.withKeyOfJson? .free codec).map .leftJoin
    | _ => none
  | ("to_topic", content) =>
    match ← content.record? ["topic", "serde"] with
    | [some topic, some codec] => some (.toTopic (← topic.text?) (← Codec.withKeyOfJson? .free codec))
    | _ => none
  | ("print", .object _) => some .print
  | ("print", .list []) => some .print
  | _ => none

end StageOp

namespace Stage

def outline : Json.Outline :=
  .record [("id", .whole), ("op", .whole), ("inputs", .whole), ("schema", Schema.outline), ("key_field", .whole),
    ("kind", .whole)]

def toJson (stage : Stage) : Json :=
  .object [("id", stage.id.toJson), ("op", stage.op.toJson),
    ("inputs", .list (stage.inputs.map StageId.toJson)), ("schema", stage.schema.toJson),
    ("key_field", .text stage.keyField), ("kind", stage.kind.toJson)]

def ofJson? (j : Json) : Option Stage := do
  match ← j.record? ["id", "op", "inputs", "schema", "key_field", "kind"] with
  | [some id, some op, some inputs, some schema, some key, some kind] =>
    some ⟨← StageId.ofJson? id, ← StageOp.ofJson? op, ← (← inputs.list?).mapM StageId.ofJson?,
      ← Schema.ofJson? schema, ← key.text?, ← Mode.ofJson? kind⟩
  | _ => none

end Stage

namespace Topology

def toJson (t : Topology) : Json := .object [("stages", .list (t.stages.map Stage.toJson))]

def ofJson? (j : Json) : Option Topology := do
  match ← j.record? ["stages"] with
  | [some stages] => some ⟨← (← stages.list?).mapM Stage.ofJson?⟩
  | _ => none

def outline : Json.Outline := .record [("stages", .list Stage.outline)]

/-- A record may not name one of its parts twice, so the text is read with objects as written. -/
def ofText? (text : String) : Option Topology := (Json.readAlong outline text).bind ofJson?

/-- The digest of the list of stages. -/
def fingerprint (t : Topology) : Digest := Digest.ofJson (.list (t.stages.map Stage.toJson))

end Topology
end StreamPlan
