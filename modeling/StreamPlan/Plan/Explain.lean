import StreamPlan.Plan.Basic

/-! A plan shown to people: one line a node, inputs indented below it. -/
namespace StreamPlan.Plan

def indent (depth : Nat) : String := String.ofList (List.replicate (2 * depth) ' ')

def explainItem (e : Expr) (field : Field) : String := s!"{e.display} AS {field.name}"

def detail : Plan → String
  | .source _ origin => s!"topic={origin.topic} key={origin.key.name} codec={origin.codec.display}"
  | .filter _ _ predicate => s!"predicate={predicate.display}"
  | .project _ _ schema expressions => ", ".intercalate (List.zipWith explainItem expressions schema.fields)
  | .join _ _ _ spec =>
    s!"{spec.kind.display} ON {spec.leftAlias}.{spec.leftKey} = {spec.rightAlias}.{spec.rightKey}"
  | .output _ _ (.topic name) => s!"topic={name}"
  | .output _ _ .console => "console"

def line (depth : Nat) (plan : Plan) : String :=
  s!"{indent depth}{plan.kindName} {plan.id.display}: {plan.detail}\n"

def explainAt (depth : Nat) : Plan → String
  | .source id origin => line depth (.source id origin)
  | .filter id input predicate => line depth (.filter id input predicate) ++ explainAt (depth + 1) input
  | .project id input schema expressions =>
    line depth (.project id input schema expressions) ++ explainAt (depth + 1) input
  | .join id left right spec =>
    line depth (.join id left right spec) ++ (explainAt (depth + 1) left ++ explainAt (depth + 1) right)
  | .output id input target => line depth (.output id input target) ++ explainAt (depth + 1) input

def explain (plan : Plan) : String := explainAt 0 plan

end StreamPlan.Plan
