import StreamPlan.Text.Case

/-! Column types, columns and schemas. A column is found by its exact name first and ignoring
letter case second, so finding a column by the name of one that was found finds it again. -/
namespace StreamPlan

inductive DataType where
  | boolean
  | int32
  | int64
  | float32
  | float64
  | utf8
  | binary
deriving DecidableEq, Repr, Inhabited

namespace DataType

def isNumeric : DataType → Bool
  | .int32 | .int64 | .float32 | .float64 => true
  | _ => false

def isFloat : DataType → Bool
  | .float32 | .float64 => true
  | _ => false

/-- The names under which a plan may ask for the type. -/
def spellings : DataType → List String
  | .boolean => ["Boolean", "bool", "BOOLEAN"]
  | .int32 => ["Int32", "i32", "INT", "INTEGER"]
  | .int64 => ["Int64", "i64", "BIGINT"]
  | .float32 => ["Float32", "f32", "FLOAT"]
  | .float64 => ["Float64", "f64", "DOUBLE"]
  | .utf8 => ["Utf8", "string", "VARCHAR", "STRING"]
  | .binary => ["Binary", "bytes", "BYTES"]

def all : List DataType := [.boolean, .int32, .int64, .float32, .float64, .utf8, .binary]

def parse (name : String) : Option DataType := all.find? (·.spellings.contains name)

/-- The name shown to people. -/
def display : DataType → String
  | .boolean => "BOOLEAN"
  | .int32 => "INT"
  | .int64 => "BIGINT"
  | .float32 => "FLOAT"
  | .float64 => "DOUBLE"
  | .utf8 => "VARCHAR"
  | .binary => "BYTES"

end DataType

structure Field where
  name : String
  dataType : DataType
  nullable : Bool
deriving DecidableEq, Repr, Inhabited

namespace Field

def isNamed (field : Field) (name : String) : Bool := Text.sameIgnoringCase field.name name
def qualified (owner : String) (field : Field) : Field := { field with name := s!"{owner}.{field.name}" }
def display (field : Field) : String := s!"{field.name} {field.dataType.display}"

end Field

structure Schema where
  fields : List Field
deriving DecidableEq, Repr, Inhabited

namespace Schema

def size (schema : Schema) : Nat := schema.fields.length
def exactIndex (schema : Schema) (name : String) : Option Nat :=
  schema.fields.findIdx? (fun field => field.name = name)

/-- The position of a column: by its exact name, else ignoring letter case. -/
def index (schema : Schema) (name : String) : Option Nat :=
  (schema.exactIndex name).or (schema.fields.findIdx? (·.isNamed name))

def find (schema : Schema) (name : String) : Option Field := do schema.fields[← schema.index name]?

def names (schema : Schema) : List String := schema.fields.map (·.name)
def qualified (owner : String) (schema : Schema) : Schema := ⟨schema.fields.map (·.qualified owner)⟩
def append (left right : Schema) : Schema := ⟨left.fields ++ right.fields⟩
instance : Append Schema := ⟨append⟩

def display (schema : Schema) : String :=
  "[" ++ ", ".intercalate (schema.fields.map Field.display) ++ "]"

end Schema
end StreamPlan
