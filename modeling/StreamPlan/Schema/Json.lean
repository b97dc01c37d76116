import StreamPlan.Json.Outline
import StreamPlan.Json.Shape
import StreamPlan.Schema.Basic

/-! Schemas as JSON: a record with the list of columns, each a record of name, type and
nullability; a type is its name. -/
namespace StreamPlan

namespace DataType

def name : DataType → String
  | .boolean => "Boolean"
  | .int32 => "Int32"
  | .int64 => "Int64"
  | .float32 => "Float32"
  | .float64 => "Float64"
  | .utf8 => "Utf8"
  | .binary => "Binary"

def toJson (type : DataType) : Json := .text type.name

def ofJson? (j : Json) : Option DataType := do
  let (name, content) ← j.variant?
  if Json.isBare .strict content then all.find? (fun type => type.name = name) else none

end DataType

namespace Field

def outline : Json.Outline := .record [("name", .whole), ("data_type", .whole), ("nullable", .whole)]

def toJson (field : Field) : Json :=
  .object [("name", .text field.name), ("data_type", field.dataType.toJson), ("nullable", .bool field.nullable)]

def ofJson? (j : Json) : Option Field := do
  match ← j.record? ["name", "data_type", "nullable"] with
  | [some name, some type, some nullable] =>
    some ⟨← name.text?, ← DataType.ofJson? type, ← nullable.bool?⟩
  | _ => none

end Field

namespace Schema

def outline : Json.Outline := .record [("fields", .list Field.outline)]

def toJson (schema : Schema) : Json := .object [("fields", .list (schema.fields.map Field.toJson))]

def ofJson? (j : Json) : Option Schema := do
  match ← j.record? ["fields"] with
  | [some fields] => some ⟨← (← fields.list?).mapM Field.ofJson?⟩
  | _ => none

end Schema
end StreamPlan
