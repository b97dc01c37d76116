import StreamPlan.Json.Writer
import StreamPlan.Scalar.Json
import StreamPlan.Topology.Basic

/-! The rows that sources read, and how they are taken from a JSON document: an object of topics,
each a list of row objects read against the schema of the first source of that topic. -/
namespace StreamPlan

structure SourceData where
  topics : List (String × List Row)
deriving DecidableEq, Repr, Inhabited

inductive InputError where
  | notAnObject
  | rowsNotAList (topic : String)
  | rowNotAnObject (topic : String)
  | wrongValue (value : Json) (field : Field) (topic : String)
  | notNullable (field topic : String)
deriving Repr

def InputError.detail : InputError → String
  | .notAnObject => "input must be an object of topic -> rows"
  | .rowsNotAList topic => s!"rows for topic '{topic}' must be an array"
  | .rowNotAnObject topic => s!"row in topic '{topic}' is not an object"
  | .wrongValue value field topic =>
    s!"value {value.render} for field '{field.name}' in topic '{topic}' is not {field.dataType.display}"
  | .notNullable field topic => s!"field '{field}' in topic '{topic}' is not nullable"

namespace SourceData

def empty : SourceData := ⟨[]⟩
def find (data : SourceData) (topic : String) : Option (List Row) := data.topics.lookup topic
/-- A topic nobody wrote to has no rows. -/
def rows (data : SourceData) (topic : String) : List Row := (data.find topic).getD []

def pushTo (topic : String) (more : List Row) : List (String × List Row) → List (String × List Row)
  | [] => [(topic, more)]
  | (other, rows) :: rest =>
    if other = topic then (other, rows ++ more) :: rest else (other, rows) :: pushTo topic more rest

def push (data : SourceData) (topic : String) (more : List Row) : SourceData := ⟨pushTo topic more data.topics⟩

/-- Any number as a double. -/
def double? : Json → Option Float
  | .whole n => some (Float.ofInt n)
  | .real x => some x
  | _ => none

/-- A text gives its bytes, a list the bytes it names. -/
def bytes? : Json → Option (List UInt8)
  | .text s => some s.toUTF8.toList
  | .list items => items.mapM Scalar.byte?
  | _ => none

def valueOf (j : Json) : DataType → Option Scalar
  | .boolean => j.bool?.map .bool
  | .int32 => (Scalar.int32? j).map .int32
  | .int64 => (Scalar.int64? j).map .int64
  | .float32 => (double? j).map fun x => .float32 (Decimal.narrow x)
  | .float64 => (double? j).map .float64
  | .utf8 => j.text?.map .text
  | .binary => (bytes? j).map .bytes

def scalarOf (j : Json) (type : DataType) : Option Scalar :=
  match j with
  | .null => some .null
  | j => valueOf j type

/-- The first field whose name matches ignoring letter case. -/
def memberOf (fields : List (String × Json)) (field : Field) : Json :=
  ((fields.find? fun member => field.isNamed member.1).map (·.2)).getD .null

def columnValue (topic : String) (fields : List (String × Json)) (field : Field) : Except InputError Scalar :=
  let j := memberOf fields field
  match scalarOf j field.dataType with
  | none => .error (.wrongValue j field topic)
  | some value => if value.isNull && !field.nullable then .error (.notNullable field.name topic) else .ok value

def rowOf (topic : String) (schema : Schema) (j : Json) : Except InputError Row :=
  match j with
  | .object fields => (schema.fields.mapM (columnValue topic fields)).map Row.mk
  | _ => .error (.rowNotAnObject topic)

def rowsOf (topic : String) (schema : Schema) (j : Json) : Except InputError (List Row) :=
  match j with
  | .list items => items.mapM (rowOf topic schema)
  | _ => .error (.rowsNotAList topic)

/-- Takes the rows of one stage's topic, unless they were taken already or the document has none. -/
def load (document : List (String × Json)) (data : SourceData) (stage : Stage) : Except InputError SourceData :=
  match stage.op.sourceTopic with
  | none => .ok data
  | some topic =>
    if (data.find topic).isSome then .ok data
    else match document.lookup topic with
      | none => .ok data
      | some j => (rowsOf topic stage.schema j).map (data.push topic)

/-- Reads a document whose objects are sorted by name. -/
def ofJson (document : Json) (topology : Topology) : Except InputError SourceData :=
  match document with
  | .object fields => topology.sources.foldlM (load fields) empty
  | _ => .error .notAnObject

end SourceData
end StreamPlan
