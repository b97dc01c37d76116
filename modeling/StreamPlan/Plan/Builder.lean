import StreamPlan.Plan.Basic

/-! Plans built node by node. Ids are handed out in order from one; a node that is refused by a
checked constructor has used up its id, one whose text does not parse has not. -/
namespace StreamPlan

structure Builder where
  next : Nat
deriving DecidableEq, Repr

namespace Builder

abbrev Built := Except PlanError Plan × Builder

def start : Builder := ⟨1⟩
def nextId (b : Builder) : NodeId × Builder := (⟨b.next⟩, ⟨b.next + 1⟩)

/-- A node made with the next id. -/
def make (b : Builder) (node : NodeId → Except PlanError Plan) : Built := (node ⟨b.next⟩, ⟨b.next + 1⟩)

def source (b : Builder) (topic : String) (schema : Schema) (key : String) (mode : Mode)
    (codec : Codec) : Built :=
  b.make fun id => Plan.newSource id topic schema key mode codec

def filter (b : Builder) (input : Plan) (predicate : Expr) : Built :=
  b.make fun id => Plan.newFilter id input predicate

def filterText (b : Builder) (input : Plan) (predicate : String) : Built :=
  match Expr.parse predicate with
  | .ok e => b.filter input e
  | .error e => (.error (.parsing e), b)

def projectOf (b : Builder) (input : Plan) (items : List (Expr × String)) : Built :=
  b.make fun id => Plan.newProjectOf id input items

def parseItems (items : List (String × String)) : Except SyntaxError (List (Expr × String)) :=
  items.mapM fun (text, name) => do pure (← Expr.parse text, name)

def project (b : Builder) (input : Plan) (items : List (String × String)) : Built :=
  match parseItems items with
  | .ok items => b.projectOf input items
  | .error e => (.error (.parsing e), b)

/-- Keeps the named columns, in the given order. -/
def select (b : Builder) (input : Plan) (columns : List String) : Built :=
  b.project input (columns.map fun name => (name, name))

def join (b : Builder) (kind : JoinKind) (left right : Plan)
    (leftKey rightKey leftAlias rightAlias : String) : Built :=
  b.make fun id => Plan.newJoin id kind left right leftKey rightKey leftAlias rightAlias

def output (b : Builder) (input : Plan) (target : Target) : Plan × Builder :=
  (.output ⟨b.next⟩ input target, ⟨b.next + 1⟩)

end Builder
end StreamPlan
