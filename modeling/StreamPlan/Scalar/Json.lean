import StreamPlan.Json.Shape
import StreamPlan.Scalar.Basic

/-! Values as JSON: a variant named for the kind of the value. -/
namespace StreamPlan

namespace Scalar

def toJson : Scalar → Json
  | .null => .text "Null"
  | .bool b => .object [("Bool", .bool b)]
  | .int32 n => .object [("I32", .whole n.toInt)]
  | .int64 n => .object [("I64", .whole n.toInt)]
  | .float32 x => .object [("F32", .single x)]
  | .float64 x => .object [("F64", .real x)]
  | .text s => .object [("Str", .text s)]
  | .bytes bs => .object [("Bin", .list (bs.map fun byte => .whole byte.toNat))]

def int32? (j : Json) : Option Int32 := (j.within? Int32.minValue.toInt Int32.maxValue.toInt).map Int32.ofInt
def int64? (j : Json) : Option Int64 := (j.within? Int64.minValue.toInt Int64.maxValue.toInt).map Int64.ofInt
def byte? (j : Json) : Option UInt8 := (j.within? 0 255).map fun n => UInt8.ofNat n.toNat

def double? : Json → Option Float
  | .whole n => some (Float.ofInt n)
  | .real x => some x
  | _ => none

def single? : Json → Option Float32
  | .whole n => some (Float32.ofInt n)
  | .real x => some (Decimal.narrow x)
  | .single x => some x
  | _ => none

def ofJson? (manner : Json.Manner) (j : Json) : Option Scalar := do
  match ← j.variant? with
  | ("Null", content) => if Json.isBare manner content then some .null else none
  | ("Bool", some b) => b.bool?.map .bool
  | ("I32", some n) => (int32? n).map .int32
  | ("I64", some n) => (int64? n).map .int64
  | ("F32", some x) => (single? x).map .float32
  | ("F64", some x) => (double? x).map .float64
  | ("Str", some s) => s.text?.map .text
  | ("Bin", some bs) => ((← bs.list?).mapM byte?).map .bytes
  | _ => none

end Scalar

def Row.toJson (row : Row) : Json := .object [("values", .list (row.values.map Scalar.toJson))]

end StreamPlan
