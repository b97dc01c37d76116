import StreamPlan.Expr.Basic

/-! The type of an expression over a schema. Arithmetic needs two numeric operands and is floating
as soon as one of them is; every other operation is a boolean. -/
namespace StreamPlan

inductive TypeError where
  | unknownColumn (name : String) (schema : Schema)
  | notNumeric (op : BinaryOp) (left right : DataType)
deriving DecidableEq, Repr

def TypeError.message : TypeError → String
  | .unknownColumn name schema => s!"Expression error: unknown column '{name}' in {schema.display}"
  | .notNumeric op left right =>
    s!"Expression error: operator {op.symbol} needs numeric operands, got {left.display} and {right.display}"

namespace Expr

/-- The wider of two numeric types. -/
def numericResult (left right : DataType) : DataType :=
  if left.isFloat || right.isFloat then .float64
  else if left = .int32 ∧ right = .int32 then .int32
  else .int64

def binaryType (op : BinaryOp) (left right : DataType) : Except TypeError DataType :=
  if op.isArithmetic then
    if left.isNumeric && right.isNumeric then .ok (numericResult left right)
    else .error (.notNumeric op left right)
  else .ok .boolean

/-- A null literal counts as text. What stands under NOT or IS NULL is not looked at. -/
def typeOf (schema : Schema) : Expr → Except TypeError DataType
  | .column name =>
    match schema.find name with
    | some field => .ok field.dataType
    | none => .error (.unknownColumn name schema)
  | .literal value => .ok (value.dataType.getD .utf8)
  | .binary op left right => do binaryType op (← typeOf schema left) (← typeOf schema right)
  | .not _ => .ok .boolean
  | .isNull _ _ => .ok .boolean

end Expr
end StreamPlan
