import StreamPlan.Plan.Basic

/-! Topologies: the recorded stages of a dataflow, each with the stages it reads. A stage is numbered
by its place, and the recording functions only let it read stages recorded before it. -/
namespace StreamPlan

inductive StageOp where
  | streamSource (topic : String) (codec : Codec)
  | tableSource (topic : String) (codec : Codec) (store : String)
  | filter (predicate : Expr)
  | project (expressions : List Expr)
  | selectKey (field : String)
  | leftJoin (codec : Codec)
  | toTopic (topic : String) (codec : Codec)
  | print
deriving DecidableEq, BEq, Repr, Inhabited

namespace StageOp

def name : StageOp → String
  | .streamSource .. => "stream_source"
  | .tableSource .. => "table_source"
  | .filter _ => "filter"
  | .project _ => "project"
  | .selectKey _ => "select_key"
  | .leftJoin _ => "left_join"
  | .toTopic .. => "to_topic"
  | .print => "print"

/-- The topic a source reads. -/
def sourceTopic : StageOp → Option String
  | .streamSource topic _ => some topic
  | .tableSource topic _ _ => some topic
  | _ => none

def isSource (op : StageOp) : Bool := op.sourceTopic.isSome

def isTerminal : StageOp → Bool
  | .toTopic .. | .print => true
  | _ => false

def detail : StageOp → String
  | .streamSource topic codec => s!"{topic} as {codec.display}"
  | .tableSource topic codec store => s!"{topic} as {codec.display} into {store}"
  | .filter predicate => predicate.display
  | .project expressions => ", ".intercalate (expressions.map Expr.display)
  | .selectKey field => field
  | .leftJoin codec => s!"as {codec.display}"
  | .toTopic topic codec => s!"{topic} as {codec.display}"
  | .print => ""

end StageOp

structure Stage where
  id : StageId
  op : StageOp
  inputs : List StageId
  schema : Schema
  keyField : String
  kind : Mode
deriving DecidableEq, BEq, Repr, Inhabited

def Stage.display (stage : Stage) : String :=
  let inputs := ",".intercalate (stage.inputs.map fun input => Decimal.countText input.number)
  let head := s!"#{Decimal.countText stage.id.number} {stage.op.name} [{stage.kind.display}] key={stage.keyField} <- [{inputs}]"
  if stage.op.detail.isEmpty then head else s!"{head}: {stage.op.detail}"

inductive StageError where
  | unknownStage (id : StageId)
  | notATable (id : StageId)
  | missingField (stage : StageId) (field : String)
  | codec (error : CodecError)
deriving DecidableEq, Repr

def StageError.message : StageError → String
  | .unknownStage id => s!"unknown stage {id.display}"
  | .notATable id => s!"stage {id.display} is not a table and cannot be joined against"
  | .missingField stage field => s!"field '{field}' not found in input of stage {stage.display}"
  | .codec error => error.message

structure Topology where
  stages : List Stage
deriving DecidableEq, BEq, Repr, Inhabited

namespace Topology

def empty : Topology := ⟨[]⟩
def size (t : Topology) : Nat := t.stages.length
def stage? (t : Topology) (id : StageId) : Option Stage := t.stages[id.number]?
def sources (t : Topology) : List Stage := t.stages.filter (·.op.isSource)
def sinks (t : Topology) : List Stage := t.stages.filter (·.op.isTerminal)
def countOps (t : Topology) (name : String) : Nat := t.stages.countP fun stage => stage.op.name = name
def describe (t : Topology) : String := "\n".intercalate (t.stages.map Stage.display)

def nextId (t : Topology) : StageId := ⟨t.size⟩

/-- What a recording function gives: the new stage's id and the topology with that stage at the end, or a
complaint. -/
abbrev Recorded := Except StageError (StageId × Topology)

def push (t : Topology) (op : StageOp) (inputs : List StageId) (schema : Schema) (keyField : String)
    (kind : Mode) : StageId × Topology :=
  (t.nextId, ⟨t.stages ++ [⟨t.nextId, op, inputs, schema, keyField, kind⟩]⟩)

def stage (t : Topology) (id : StageId) : Except StageError Stage :=
  match t.stage? id with
  | some stage => .ok stage
  | none => .error (.unknownStage id)

/-- The exact name of the key column, or the complaint that the given stage has none. -/
def keyName (schema : Schema) (key : String) (blamed : StageId) : Except StageError String :=
  match schema.find key with
  | some field => .ok field.name
  | none => .error (.missingField blamed key)

def addStream (t : Topology) (topic : String) (codec : Codec) (schema : Schema) (key : String) : Recorded := do
  let key ← keyName schema key t.nextId
  pure (t.push (.streamSource topic codec) [] schema key .stream)

def addTable (t : Topology) (topic : String) (codec : Codec) (store : String) (schema : Schema)
    (key : String) : Recorded := do
  let key ← keyName schema key t.nextId
  pure (t.push (.tableSource topic codec store) [] schema key .table)

/-- A stage that keeps the schema, the key and the kind of its input. -/
def addAfter (t : Topology) (input : StageId) (op : StageOp) : Recorded := do
  let parent ← t.stage input
  pure (t.push op [input] parent.schema parent.keyField parent.kind)

def addFilter (t : Topology) (input : StageId) (predicate : Expr) : Recorded :=
  t.addAfter input (.filter predicate)

/-- Records keep their keys, so the key column may be missing from the new schema. -/
def addProject (t : Topology) (input : StageId) (expressions : List Expr) (schema : Schema)
    (key : String) : Recorded := do
  let parent ← t.stage input
  let key := ((schema.find key).map (·.name)).getD key
  pure (t.push (.project expressions) [input] schema key parent.kind)

def addSelectKey (t : Topology) (input : StageId) (key : String) : Recorded := do
  let parent ← t.stage input
  let key ← keyName parent.schema key input
  pure (t.push (.selectKey key) [input] parent.schema key .stream)

def addLeftJoin (t : Topology) (stream table : StageId) (schema : Schema) (key : String)
    (codec : Codec) : Recorded := do
  let _ ← t.stage stream
  let right ← t.stage table
  if right.kind ≠ .table then throw (.notATable table)
  let key ← keyName schema key t.nextId
  pure (t.push (.leftJoin codec) [stream, table] schema key .stream)

def addToTopic (t : Topology) (input : StageId) (topic : String) (codec : Codec) : Recorded :=
  t.addAfter input (.toTopic topic codec)

def addPrint (t : Topology) (input : StageId) : Recorded := t.addAfter input .print

end Topology
end StreamPlan
