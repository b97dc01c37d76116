import StreamPlan.Codec.Json
import StreamPlan.Expr.Json
import StreamPlan.Plan.Basic
import StreamPlan.Schema.Json

/-! Plans as JSON: a variant named for the kind of the node, holding a record of its parts. -/
namespace StreamPlan

def NodeId.toJson (id : NodeId) : Json := .whole id.number
def NodeId.ofJson? (j : Json) : Option NodeId := j.count?.map NodeId.mk

/-- One of several plain names. -/
def oneOf? (all : List α) (name : α → String) (j : Json) : Option α := do
  let (word, content) ← j.variant?
  if Json.isBare .strict content then all.find? (fun a => name a = word) else none

namespace Mode

def all : List Mode := [.stream, .table]
def toJson (mode : Mode) : Json := .text mode.display
def ofJson? (j : Json) : Option Mode := oneOf? all display j

end Mode

namespace JoinKind

def all : List JoinKind := [.left, .inner, .outer]
def name : JoinKind → String
  | .left => "left"
  | .inner => "inner"
  | .outer => "outer"
def toJson (kind : JoinKind) : Json := .text kind.name
def ofJson? (j : Json) : Option JoinKind := oneOf? all name j

end JoinKind

namespace Target

def toJson : Target → Json
  | .topic name => .object [("topic", .object [("name", .text name)])]
  | .console => .text "console"

def ofJson? (j : Json) : Option Target := do
  match ← j.variant? with
  | ("console", content) => if Json.isBare .strict content then some .console else none
  | ("topic", some parts) =>
    match ← parts.parts? .strict ["name"] with
    | [some name] => name.text?.map .topic
    | _ => none
  | _ => none

end Target

namespace Plan

def variant (name : String) (parts : List (String × Json)) : Json := .object [(name, .object parts)]

def toJson : Plan → Json
  | .source id origin => variant "Source" [("id", id.toJson), ("topic", .text origin.topic),
      ("schema", origin.schema.toJson), ("key_field", origin.key.toJson),
      ("source_type", origin.mode.toJson), ("codec", origin.codec.toJson)]
  | .filter id input predicate => variant "Filter" [("id", id.toJson), ("source", input.toJson),
      ("predicate", predicate.toJson)]
  | .project id input schema expressions => variant "Project" [("id", id.toJson), ("source", input.toJson),
      ("schema", schema.toJson), ("expressions", .list (expressions.map Expr.toJson))]
  | .join id left right spec => variant "Join" [("id", id.toJson), ("join_type", spec.kind.toJson),
      ("left", left.toJson), ("right", right.toJson), ("left_key_field_name", .text spec.leftKey),
      ("right_key_field_name", .text spec.rightKey), ("left_alias", .text spec.leftAlias),
      ("right_alias", .text spec.rightAlias), ("schema", spec.schema.toJson)]
  | .output id input target => variant "Output" [("id", id.toJson), ("source", input.toJson),
      ("target", target.toJson)]

/-- Reads a plan nested no deeper than the bound. -/
def ofJsonWithin? : Nat → Json → Option Plan
  | 0, _ => none
  | bound + 1, j => do
    match ← j.variant? with
    | ("Source", some parts) =>
      match ← parts.record? ["id", "topic", "schema", "key_field", "source_type", "codec"] with
      | [some id, some topic, some schema, some key, some mode, some codec] =>
        some (.source (← NodeId.ofJson? id) ⟨← topic.text?, ← Schema.ofJson? schema, ← Field.ofJson? key,
          ← Mode.ofJson? mode, ← Codec.ofJson? .strict codec⟩)
      | _ => none
    | ("Filter", some parts) =>
      match ← parts.record? ["id", "source", "predicate"] with
      | [some id, some input, some predicate] =>
        some (.filter (← NodeId.ofJson? id) (← ofJsonWithin? bound input) (← Expr.ofJson? .strict predicate))
      | _ => none
    | ("Project", some parts) =>
      match ← parts.record? ["id", "source", "schema", "expressions"] with
      | [some id, some input, some schema, some expressions] =>
        some (.project (← NodeId.ofJson? id) (← ofJsonWithin? bound input) (← Schema.ofJson? schema)
          (← (← expressions.list?).mapM (Expr.ofJson? .strict)))
      | _ => none
    | ("Join", some parts) =>
      match ← parts.record? ["id", "join_type", "left", "right", "left_key_field_name",
          "right_key_field_name", "left_alias", "right_alias", "schema"] with
      | [some id, some kind, some left, some right, some leftKey, some rightKey, some leftAlias,
          some rightAlias, some schema] =>
        some (.join (← NodeId.ofJson? id) (← ofJsonWithin? bound left) (← ofJsonWithin? bound right)
          ⟨← JoinKind.ofJson? kind, ← leftKey.text?, ← rightKey.text?, ← leftAlias.text?,
            ← rightAlias.text?, ← Schema.ofJson? schema⟩)
      | _ => none
    | ("Output", some parts) =>
      match ← parts.record? ["id", "source", "target"] with
      | [some id, some input, some target] =>
        some (.output (← NodeId.ofJson? id) (← ofJsonWithin? bound input) (← Target.ofJson? target))
      | _ => none
    | _ => none

def ofJson? (j : Json) : Option Plan := ofJsonWithin? Json.nestingLimit j

/-- The text is read as a whole, with objects as written. -/
def ofText? (text : String) : Option Plan := (Json.readAlong .whole text).bind ofJson?

end Plan
end StreamPlan
