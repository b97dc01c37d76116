import StreamPlan.Topology.Basic

/-! The recording functions as calls on one topology that is kept from call to call, whether a call is
refused or not. A call looks up the stages it reads and checks what it is given before it pushes its
own stage. -/
namespace StreamPlan

/-- A call on a topology; what it has pushed stays when it is refused. -/
abbrev Recorder := ExceptT StageError (StateM Topology)

namespace Recorder

def stage (id : StageId) : Recorder Stage := do
  (← get).stage id

/-- The exact name of the key column, or the complaint that the given stage has none. -/
def checkKey (schema : Schema) (key : String) (blamed : StageId) : Recorder String :=
  Topology.keyName schema key blamed

def nextId : Recorder StageId := do
  return (← get).nextId

def push (op : StageOp) (inputs : List StageId) (schema : Schema) (keyField : String) (kind : Mode) :
    Recorder StageId :=
  modifyGet (·.push op inputs schema keyField kind)

def stream (topic : String) (codec : Codec) (schema : Schema) (key : String) : Recorder StageId := do
  let key ← checkKey schema key (← nextId)
  push (.streamSource topic codec) [] schema key .stream

def table (topic : String) (codec : Codec) (store : String) (schema : Schema) (key : String) :
    Recorder StageId := do
  let key ← checkKey schema key (← nextId)
  push (.tableSource topic codec store) [] schema key .table

/-- A stage that keeps the schema, the key and the kind of its input. -/
def after (input : StageId) (op : StageOp) : Recorder StageId := do
  let parent ← stage input
  push op [input] parent.schema parent.keyField parent.kind

def filter (input : StageId) (predicate : Expr) : Recorder StageId := after input (.filter predicate)

/-- Records keep their keys, so the key column may be missing from the new schema. -/
def project (input : StageId) (expressions : List Expr) (schema : Schema) (key : String) :
    Recorder StageId := do
  let parent ← stage input
  let key := ((schema.find key).map (·.name)).getD key
  push (.project expressions) [input] schema key parent.kind

def selectKey (input : StageId) (key : String) : Recorder StageId := do
  let parent ← stage input
  let key ← checkKey parent.schema key input
  push (.selectKey key) [input] parent.schema key .stream

def leftJoin (left right : StageId) (schema : Schema) (key : String) (codec : Codec) : Recorder StageId := do
  let _ ← stage left
  if (← stage right).kind ≠ .table then throw (.notATable right)
  let key ← checkKey schema key (← nextId)
  push (.leftJoin codec) [left, right] schema key .stream

def toTopic (input : StageId) (topic : String) (codec : Codec) : Recorder StageId :=
  after input (.toTopic topic codec)

def print (input : StageId) : Recorder StageId := after input .print

end Recorder
end StreamPlan
