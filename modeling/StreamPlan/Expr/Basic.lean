import StreamPlan.Scalar.Basic

/-! Expressions over the columns of a row. -/
namespace StreamPlan

inductive BinaryOp where
  | eq
  | notEq
  | lt
  | ltEq
  | gt
  | gtEq
  | and
  | or
  | plus
  | minus
  | multiply
  | divide
deriving DecidableEq, Repr, Inhabited

namespace BinaryOp

def isComparison : BinaryOp → Bool
  | .eq | .notEq | .lt | .ltEq | .gt | .gtEq => true
  | _ => false

def isArithmetic : BinaryOp → Bool
  | .plus | .minus | .multiply | .divide => true
  | _ => false

def symbol : BinaryOp → String
  | .eq => "="
  | .notEq => "!="
  | .lt => "<"
  | .ltEq => "<="
  | .gt => ">"
  | .gtEq => ">="
  | .and => "AND"
  | .or => "OR"
  | .plus => "+"
  | .minus => "-"
  | .multiply => "*"
  | .divide => "/"

end BinaryOp

inductive Expr where
  | column (name : String)
  | literal (value : Scalar)
  | binary (op : BinaryOp) (left right : Expr)
  | not (inner : Expr)
  | isNull (inner : Expr) (negated : Bool)
deriving DecidableEq, BEq, Repr, Inhabited

namespace Expr

/-- The column names an expression mentions, from left to right. -/
def columns : Expr → List String
  | .column name => [name]
  | .literal _ => []
  | .binary _ left right => left.columns ++ right.columns
  | .not inner => inner.columns
  | .isNull inner _ => inner.columns

def displayLiteral : Scalar → String
  | .text s => s!"'{s}'"
  | value => value.display

/-- Every operation stands in parentheses of its own. -/
def display : Expr → String
  | .column name => name
  | .literal value => displayLiteral value
  | .binary op left right => s!"({left.display} {op.symbol} {right.display})"
  | .not inner => s!"(NOT {inner.display})"
  | .isNull inner false => s!"({inner.display} IS NULL)"
  | .isNull inner true => s!"({inner.display} IS NOT NULL)"

end Expr
end StreamPlan
