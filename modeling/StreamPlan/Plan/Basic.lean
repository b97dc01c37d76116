import StreamPlan.Codec.Basic
import StreamPlan.Expr.Typing
import StreamPlan.Expr.Parser
import StreamPlan.Ident

/-! Logical plans: what a query does to its topics. Every node knows the schema of the rows it
produces, and the checked constructors refuse a node whose expressions or keys do not fit the
schemas below it. -/
namespace StreamPlan

/-- Rows that only arrive, or a table in which a later row replaces the earlier one of its key. -/
inductive Mode where
  | stream
  | table
deriving DecidableEq, Repr, Inhabited

def Mode.display : Mode → String
  | .stream => "stream"
  | .table => "table"

inductive JoinKind where
  | left
  | inner
  | outer
deriving DecidableEq, Repr, Inhabited

def JoinKind.display : JoinKind → String
  | .left => "LEFT"
  | .inner => "INNER"
  | .outer => "OUTER"

structure Source where
  topic : String
  schema : Schema
  key : Field
  mode : Mode
  codec : Codec
deriving DecidableEq, Repr, Inhabited

structure Join where
  kind : JoinKind
  leftKey : String
  rightKey : String
  leftAlias : String
  rightAlias : String
  schema : Schema
deriving DecidableEq, Repr, Inhabited

inductive Target where
  | topic (name : String)
  | console
deriving DecidableEq, Repr, Inhabited

inductive Plan where
  | source (id : NodeId) (source : Source)
  | filter (id : NodeId) (input : Plan) (predicate : Expr)
  | project (id : NodeId) (input : Plan) (schema : Schema) (expressions : List Expr)
  | join (id : NodeId) (left right : Plan) (join : Join)
  | output (id : NodeId) (input : Plan) (target : Target)
deriving DecidableEq, Repr, Inhabited

inductive PlanError where
  | noSourceKey (key topic : String) (schema : Schema)
  | notBoolean (id : NodeId) (predicate : Expr) (type : DataType)
  | widths (id : NodeId) (expressions fields : Nat)
  | noLeftKey (id : NodeId) (key : String) (schema : Schema)
  | noRightKey (id : NodeId) (key : String) (schema : Schema)
  | sameAlias (id : NodeId) (name : String)
  | typing (error : TypeError)
  | parsing (error : SyntaxError)
deriving DecidableEq, Repr

def PlanError.message : PlanError → String
  | .noSourceKey key topic schema =>
    s!"Schema error: key field '{key}' not found in source '{topic}' schema {schema.display}"
  | .notBoolean id predicate type =>
    s!"Planning error: filter {id.display} predicate {predicate.display} is {type.display}, not BOOLEAN"
  | .widths id expressions fields =>
    s!"Planning error: project {id.display} has {Decimal.countText expressions} expressions for {Decimal.countText fields} output fields"
  | .noLeftKey id key schema => s!"Schema error: join {id.display} left key '{key}' not in {schema.display}"
  | .noRightKey id key schema => s!"Schema error: join {id.display} right key '{key}' not in {schema.display}"
  | .sameAlias id name => s!"Planning error: join {id.display} uses alias '{name}' for both sides"
  | .typing error => error.message
  | .parsing error => error.message

def typed : Except TypeError α → Except PlanError α
  | .ok a => .ok a
  | .error e => .error (.typing e)

def parsed : Except SyntaxError α → Except PlanError α
  | .ok a => .ok a
  | .error e => .error (.parsing e)

namespace Plan

def id : Plan → NodeId
  | .source id _ | .filter id _ _ | .project id _ _ _ | .join id _ _ _ | .output id _ _ => id

def schema : Plan → Schema
  | .source _ origin => origin.schema
  | .filter _ input _ => input.schema
  | .project _ _ schema _ => schema
  | .join _ _ _ spec => spec.schema
  | .output _ input _ => input.schema

/-- The codec of the leftmost source. -/
def codec : Plan → Codec
  | .source _ origin => origin.codec
  | .filter _ input _ => input.codec
  | .project _ input _ _ => input.codec
  | .join _ left _ _ => left.codec
  | .output _ input _ => input.codec

def kindName : Plan → String
  | .source _ origin => match origin.mode with
    | .stream => "Source(stream)"
    | .table => "Source(table)"
  | .filter .. => "Filter"
  | .project .. => "Project"
  | .join .. => "Join"
  | .output _ _ target => match target with
    | .topic _ => "Output(sink)"
    | .console => "Output(console)"

def size : Plan → Nat
  | .source _ _ => 1
  | .filter _ input _ => 1 + input.size
  | .project _ input _ _ => 1 + input.size
  | .join _ left right _ => 1 + (left.size + right.size)
  | .output _ input _ => 1 + input.size

/-- Nodes on the longest way from the root to a source. -/
def depth : Plan → Nat
  | .source _ _ => 1
  | .filter _ input _ => 1 + input.depth
  | .project _ input _ _ => 1 + input.depth
  | .join _ left right _ => 1 + max left.depth right.depth
  | .output _ input _ => 1 + input.depth

/-- Ids from the root down, left before right. -/
def ids : Plan → List NodeId
  | .source id _ => [id]
  | .filter id input _ => id :: input.ids
  | .project id input _ _ => id :: input.ids
  | .join id left right _ => id :: (left.ids ++ right.ids)
  | .output id input _ => id :: input.ids

/-- The topic an output node writes to. -/
def sinkTopic : Plan → Option String
  | .output _ _ (.topic name) => some name
  | _ => none

def newSource (id : NodeId) (topic : String) (schema : Schema) (key : String) (mode : Mode)
    (codec : Codec) : Except PlanError Plan :=
  match schema.find key with
  | some field => .ok (.source id ⟨topic, schema, field, mode, codec⟩)
  | none => .error (.noSourceKey key topic schema)

def newFilter (id : NodeId) (input : Plan) (predicate : Expr) : Except PlanError Plan := do
  let type ← typed (predicate.typeOf input.schema)
  if type = .boolean then pure (.filter id input predicate) else throw (.notBoolean id predicate type)

def newProject (id : NodeId) (input : Plan) (schema : Schema) (expressions : List Expr) :
    Except PlanError Plan := do
  if schema.size ≠ expressions.length then throw (.widths id expressions.length schema.size)
  let _ ← typed (expressions.mapM (Expr.typeOf input.schema))
  pure (.project id input schema expressions)

/-- A column for each expression and its name, with the type the expression has; all of them may
be null. -/
def columnsOf (schema : Schema) (items : List (Expr × String)) : Except TypeError (List Field) :=
  items.mapM fun (e, name) => do pure ⟨name, ← e.typeOf schema, true⟩

def newProjectOf (id : NodeId) (input : Plan) (items : List (Expr × String)) : Except PlanError Plan := do
  let fields ← typed (columnsOf input.schema items)
  newProject id input ⟨fields⟩ (items.map (·.1))

def newJoin (id : NodeId) (kind : JoinKind) (left right : Plan)
    (leftKey rightKey leftAlias rightAlias : String) : Except PlanError Plan := do
  if (left.schema.find leftKey).isNone then throw (.noLeftKey id leftKey left.schema)
  if (right.schema.find rightKey).isNone then throw (.noRightKey id rightKey right.schema)
  if Text.sameIgnoringCase leftAlias rightAlias then throw (.sameAlias id leftAlias)
  let schema := left.schema.qualified leftAlias ++ right.schema.qualified rightAlias
  pure (.join id left right ⟨kind, leftKey, rightKey, leftAlias, rightAlias, schema⟩)

end Plan
end StreamPlan
