import StreamPlan.Expr.Basic
import StreamPlan.Json.Reader
import StreamPlan.Scalar.Json

/-! Expressions as JSON: a variant named for the outermost operation. -/
namespace StreamPlan

namespace BinaryOp

def all : List BinaryOp :=
  [.eq, .notEq, .lt, .ltEq, .gt, .gtEq, .and, .or, .plus, .minus, .multiply, .divide]

def name : BinaryOp → String
  | .eq => "Eq"
  | .notEq => "NotEq"
  | .lt => "Lt"
  | .ltEq => "LtEq"
  | .gt => "Gt"
  | .gtEq => "GtEq"
  | .and => "And"
  | .or => "Or"
  | .plus => "Plus"
  | .minus => "Minus"
  | .multiply => "Multiply"
  | .divide => "Divide"

def ofJson? (manner : Json.Manner) (j : Json) : Option BinaryOp := do
  let (name, content) ← j.variant?
  if Json.isBare manner content then all.find? (fun op => op.name = name) else none

end BinaryOp

namespace Expr

def toJson : Expr → Json
  | .column name => .object [("Column", .text name)]
  | .literal value => .object [("Literal", value.toJson)]
  | .binary op left right =>
    .object [("Binary", .object [("op", .text op.name), ("left", left.toJson), ("right", right.toJson)])]
  | .not inner => .object [("Not", inner.toJson)]
  | .isNull inner negated =>
    .object [("IsNull", .object [("expr", inner.toJson), ("negated", .bool negated)])]

/-- Reads an expression nested no deeper than the bound. -/
def ofJsonWithin? (manner : Json.Manner) : Nat → Json → Option Expr
  | 0, _ => none
  | bound + 1, j => do
    match ← j.variant? with
    | ("Column", some name) => name.text?.map .column
    | ("Literal", some value) => (Scalar.ofJson? manner value).map .literal
    | ("Binary", some parts) =>
      match ← parts.parts? manner ["op", "left", "right"] with
      | [some op, some left, some right] =>
        some (.binary (← BinaryOp.ofJson? manner op) (← ofJsonWithin? manner bound left)
          (← ofJsonWithin? manner bound right))
      | _ => none
    | ("Not", some inner) => (ofJsonWithin? manner bound inner).map .not
    | ("IsNull", some parts) =>
      match ← parts.parts? manner ["expr", "negated"] with
      | [some inner, some negated] => some (.isNull (← ofJsonWithin? manner bound inner) (← negated.bool?))
      | _ => none
    | _ => none

def ofJson? (manner : Json.Manner) (j : Json) : Option Expr := ofJsonWithin? manner Json.nestingLimit j

end Expr
end StreamPlan
