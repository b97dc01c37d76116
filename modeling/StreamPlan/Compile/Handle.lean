import StreamPlan.Topology.Json

/-! What compiling a node hands to the node above it: the stage that produces its rows, with their
schema, key column and kind. -/
namespace StreamPlan

structure Handle where
  kind : Mode
  schema : Schema
  key : Field
  stage : StageId
deriving DecidableEq, Repr, Inhabited

namespace Handle

def isTable (handle : Handle) : Bool := handle.kind = .table

def toJson (handle : Handle) : Json :=
  .object [("kind", handle.kind.toJson), ("schema", handle.schema.toJson), ("key_field", handle.key.toJson),
    ("stage", handle.stage.toJson)]

end Handle
end StreamPlan
