import StreamPlan.Expr.Basic

/-! The value of an expression over one row. Null spreads through comparison and arithmetic, AND and
OR have three truth values, and whole-number arithmetic is exact or fails. -/
namespace StreamPlan

inductive EvalError where
  | unknownColumn (name : String)
  | notBoolean (value : Scalar)
  | incomparable (op : BinaryOp) (left right : Scalar)
  | notNumeric (op : BinaryOp) (left right : Scalar)
  | divisionByZero
  | overflow (op : BinaryOp) (left right : Int)
  | narrowOverflow (op : BinaryOp) (left right : Int)
deriving DecidableEq, Repr

namespace EvalError

def detail : EvalError → String
  | .unknownColumn name => s!"unknown column '{name}'"
  | .notBoolean value => s!"expected a boolean, got '{value.display}'"
  | .incomparable op left right => s!"cannot compare '{left.display}' {op.symbol} '{right.display}'"
  | .notNumeric op left right =>
    s!"operator {op.symbol} needs numeric operands: '{left.display}', '{right.display}'"
  | .divisionByZero => "division by zero"
  | .overflow op left right =>
    s!"integer overflow in {Decimal.wholeText left} {op.symbol} {Decimal.wholeText right}"
  | .narrowOverflow op left right =>
    s!"Int32 overflow in {Decimal.wholeText left} {op.symbol} {Decimal.wholeText right}"

def message (error : EvalError) : String := s!"Expression error: {error.detail}"

end EvalError

namespace Expr

def truth (value : Scalar) : Except EvalError Bool :=
  match value.asBool with
  | some b => .ok b
  | none => .error (.notBoolean value)

/-- False wins over unknown, unknown over true; a value that is no boolean is unknown. -/
def conjunction (left right : Option Bool) : Scalar :=
  match left, right with
  | some false, _ => .bool false
  | _, some false => .bool false
  | some true, some true => .bool true
  | _, _ => .null

/-- True wins over unknown, unknown over false; a value that is no boolean is unknown. -/
def disjunction (left right : Option Bool) : Scalar :=
  match left, right with
  | some true, _ => .bool true
  | _, some true => .bool true
  | some false, some false => .bool false
  | _, _ => .null

def holds (op : BinaryOp) (order : Ordering) : Bool :=
  match op with
  | .eq => order == .eq
  | .notEq => order != .eq
  | .lt => order == .lt
  | .ltEq => order != .gt
  | .gt => order == .gt
  | _ => order != .lt

def wholeResult (op : BinaryOp) (left right : Int) : Except EvalError Int :=
  match op with
  | .plus => .ok (left + right)
  | .minus => .ok (left - right)
  | .multiply => .ok (left * right)
  | _ => if right = 0 then .error .divisionByZero else .ok (left.tdiv right)

def fitsInt32 (n : Int) : Bool := Int32.minValue.toInt ≤ n && n ≤ Int32.maxValue.toInt
def fitsInt64 (n : Int) : Bool := Int64.minValue.toInt ≤ n && n ≤ Int64.maxValue.toInt

def isInt32 : Scalar → Bool
  | .int32 _ => true
  | _ => false

/-- The exact result in 64 bits, and in 32 bits where both operands have 32. -/
def wholeArithmetic (op : BinaryOp) (narrow : Bool) (left right : Int) : Except EvalError Scalar := do
  let result ← wholeResult op left right
  if !fitsInt64 result then throw (.overflow op left right)
  if narrow then
    if fitsInt32 result then pure (.int32 (Int32.ofInt result)) else throw (.narrowOverflow op left right)
  else pure (.int64 (Int64.ofInt result))

def floatArithmetic (op : BinaryOp) (left right : Float) : Float :=
  match op with
  | .plus => left + right
  | .minus => left - right
  | .multiply => left * right
  | _ => left / right

def arithmetic (op : BinaryOp) (left right : Scalar) : Except EvalError Scalar :=
  match left.asInt, right.asInt with
  | some a, some b => wholeArithmetic op (isInt32 left && isInt32 right) a b
  | _, _ =>
    match left.asDouble, right.asDouble with
    | some a, some b => .ok (.float64 (floatArithmetic op a b))
    | _, _ => .error (.notNumeric op left right)

def comparison (op : BinaryOp) (left right : Scalar) : Except EvalError Scalar :=
  match left.compare right with
  | some order => .ok (.bool (holds op order))
  | none => .error (.incomparable op left right)

def applyBinary (op : BinaryOp) (left right : Scalar) : Except EvalError Scalar :=
  match op with
  | .and => .ok (conjunction left.asBool right.asBool)
  | .or => .ok (disjunction left.asBool right.asBool)
  | _ =>
    if left.isNull || right.isNull then .ok .null
    else if op.isComparison then comparison op left right
    else arithmetic op left right

def negation : Scalar → Except EvalError Scalar
  | .null => .ok .null
  | value => do pure (.bool !(← truth value))

/-- A column past the end of a short row is null. -/
def eval (schema : Schema) (row : Row) : Expr → Except EvalError Scalar
  | .column name =>
    match schema.index name with
    | some position => .ok ((row.get? position).getD .null)
    | none => .error (.unknownColumn name)
  | .literal value => .ok value
  | .not inner => do negation (← eval schema row inner)
  | .isNull inner negated => do pure (.bool ((← eval schema row inner).isNull != negated))
  | .binary op left right => do applyBinary op (← eval schema row left) (← eval schema row right)

/-- Whether a row passes: null and false both turn it away. -/
def accepts (schema : Schema) (row : Row) (predicate : Expr) : Except EvalError Bool := do
  match ← predicate.eval schema row with
  | .null => pure false
  | value => truth value

end Expr
end StreamPlan
