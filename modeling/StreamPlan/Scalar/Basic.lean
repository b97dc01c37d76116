import StreamPlan.Decimal.Style
import StreamPlan.Decimal.Whole
import StreamPlan.Schema.Basic

/-! Values and rows of values. `=` tells two values apart by every bit; `==` compares floating-point
numbers as numbers, so zeros of either sign are the same and what is not a number differs from
itself. -/
namespace StreamPlan

inductive Scalar where
  | null
  | bool (value : Bool)
  | int32 (value : Int32)
  | int64 (value : Int64)
  | float32 (value : Float32)
  | float64 (value : Float)
  | text (value : String)
  | bytes (value : List UInt8)
deriving DecidableEq, BEq, Repr, Inhabited

namespace Scalar

/-- The column type a value belongs to; null belongs to all of them. -/
def dataType : Scalar → Option DataType
  | .null => none
  | .bool _ => some .boolean
  | .int32 _ => some .int32
  | .int64 _ => some .int64
  | .float32 _ => some .float32
  | .float64 _ => some .float64
  | .text _ => some .utf8
  | .bytes _ => some .binary

def isNull : Scalar → Bool
  | .null => true
  | _ => false

def asBool : Scalar → Option Bool
  | .bool b => some b
  | _ => none

def asInt : Scalar → Option Int
  | .int32 n => some n.toInt
  | .int64 n => some n.toInt
  | _ => none

def asDouble : Scalar → Option Float
  | .int32 n => some (Float.ofInt n.toInt)
  | .int64 n => some (Float.ofInt n.toInt)
  | .float32 x => some (Decimal.widen x)
  | .float64 x => some x
  | _ => none

/-- Numeric order; what is not a number stands in no order. -/
def compareDoubles (x y : Float) : Option Ordering :=
  if x.isNaN || y.isNaN then none
  else if x < y then some .lt
  else if x == y then some .eq
  else some .gt

/-- The order of two values of one kind; whole and floating-point numbers compare as numbers. None
where either is null or the kinds differ. -/
def compare : Scalar → Scalar → Option Ordering
  | .null, _ => none
  | _, .null => none
  | .bool x, .bool y => some (Ord.compare x y)
  | .text x, .text y => some (Ord.compare x y)
  | .bytes x, .bytes y => some (Ord.compare x y)
  | x, y =>
    match x.asInt, y.asInt with
    | some a, some b => some (Ord.compare a b)
    | _, _ => do compareDoubles (← x.asDouble) (← y.asDouble)

def hexDigits (byte : UInt8) : List Char :=
  [Nat.digitChar (byte.toNat / 16), Nat.digitChar (byte.toNat % 16)]

def display : Scalar → String
  | .null => "null"
  | .bool b => if b then "true" else "false"
  | .int32 n => Decimal.wholeText n.toInt
  | .int64 n => Decimal.wholeText n.toInt
  | .float32 x => Decimal.plainText (Decimal.readSingle x)
  | .float64 x => Decimal.plainText (Decimal.readDouble x)
  | .text s => s
  | .bytes bs => String.ofList (bs.flatMap hexDigits)

end Scalar

/-- The values of one record, in the order of a schema's columns. -/
structure Row where
  values : List Scalar
deriving DecidableEq, BEq, Repr, Inhabited

namespace Row

def nulls (width : Nat) : Row := ⟨List.replicate width .null⟩
def width (row : Row) : Nat := row.values.length
def get? (row : Row) (position : Nat) : Option Scalar := row.values[position]?
def append (left right : Row) : Row := ⟨left.values ++ right.values⟩
instance : Append Row := ⟨append⟩
def display (row : Row) : String := ", ".intercalate (row.values.map Scalar.display)

end Row
end StreamPlan
