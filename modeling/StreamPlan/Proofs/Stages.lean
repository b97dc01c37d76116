import StreamPlan.Compile.Basic
import StreamPlan.Proofs.Built

/-! The stages a plan stands for, by recursion on the plan alone: the stages of the inputs, left
before right, then a rekeying stage where a join needs one, then the stage of the node. Numbers
start anywhere, so that the same list serves a plan compiled after others. Whether the plan is one
that compiles is not asked here. -/
namespace StreamPlan

/-- The left column a join reads by. The fallback is never met in a plan whose join was checked. -/
def Join.leftColumn (spec : Join) (schema : Schema) (fallback : Field) : Field :=
  (schema.find spec.leftKey).getD fallback

namespace Plan

def mode : Plan → Mode
  | .source _ origin => origin.mode
  | .filter _ input _ => input.mode
  | .project _ input _ _ => input.mode
  | .join .. => .stream
  | .output _ input _ => input.mode

def isOutput : Plan → Bool
  | .output .. => true
  | _ => false

/-- The column a node designates as its key. A projection keeps the designation, spelled as its own
schema spells it; the records keep the keys they had. -/
def key : Plan → Field
  | .source _ origin => origin.key
  | .filter _ input _ => input.key
  | .project _ input schema _ => (schema.find input.key.name).getD input.key
  | .join _ left _ spec => (spec.leftColumn left.schema left.key).qualified spec.leftAlias
  | .output _ input _ => input.key

def joinColumn (left : Plan) (spec : Join) : Field := spec.leftColumn left.schema left.key

/-- Whether the designation differs from the declared left key, letter case aside. -/
def rekeyed (left : Plan) (spec : Join) : Bool := !left.key.isNamed (left.joinColumn spec).name

def stagesBelow : Plan → Nat
  | .source _ _ => 0
  | .filter _ input _ => input.stagesBelow + 1
  | .project _ input _ _ => input.stagesBelow + 1
  | .join _ left right spec =>
    left.stagesBelow + 1 + (right.stagesBelow + 1) + if left.rekeyed spec then 1 else 0
  | .output _ input _ => input.stagesBelow + 1

/-- The number of the node's own stage when the first one has number n. -/
def stageId (n : Nat) (plan : Plan) : StageId := ⟨n + plan.stagesBelow⟩
def nextFrom (n : Nat) (plan : Plan) : Nat := n + plan.stagesBelow + 1

def handle (n : Nat) (plan : Plan) : Handle := ⟨plan.mode, plan.schema, plan.key, plan.stageId n⟩

def op (config : Config) : Plan → StageOp
  | .source _ origin => match origin.mode with
    | .stream => .streamSource origin.topic origin.codec
    | .table => .tableSource origin.topic origin.codec (config.storeName origin.topic)
  | .filter _ _ predicate => .filter predicate
  | .project _ _ _ expressions => .project expressions
  | .join _ left _ _ => .leftJoin left.codec
  | .output _ input target => match target with
    | .topic name => .toTopic name input.codec
    | .console => .print

/-- The left input of a join as the join reads it: keyed anew in a stage after both inputs, or as it
is. -/
def leftInput (n : Nat) (left right : Plan) (spec : Join) : Handle :=
  if left.rekeyed spec then
    ⟨.stream, left.schema, left.joinColumn spec, ⟨right.nextFrom (left.nextFrom n)⟩⟩
  else left.handle n

def inputIds (n : Nat) : Plan → List StageId
  | .source _ _ => []
  | .filter _ input _ => [input.stageId n]
  | .project _ input _ _ => [input.stageId n]
  | .join _ left right spec =>
    [(leftInput n left right spec).stage, right.stageId (left.nextFrom n)]
  | .output _ input _ => [input.stageId n]

def stage (config : Config) (n : Nat) (plan : Plan) : Stage :=
  ⟨plan.stageId n, plan.op config, plan.inputIds n, plan.schema, plan.key.name, plan.mode⟩

/-- The stage that keys the left input of a join anew. -/
def rekeyStage (n : Nat) (left right : Plan) (spec : Join) : Stage :=
  let key := (left.joinColumn spec).name
  ⟨⟨right.nextFrom (left.nextFrom n)⟩, .selectKey key, [left.stageId n], left.schema, key, .stream⟩

def rekeyStages (n : Nat) (left right : Plan) (spec : Join) : List Stage :=
  if left.rekeyed spec then [rekeyStage n left right spec] else []

/-- The stages recorded for the node itself, once those of its inputs are there. -/
def ownStages (config : Config) (n : Nat) : Plan → List Stage
  | .join id left right spec =>
    rekeyStages n left right spec ++ [(Plan.join id left right spec).stage config n]
  | plan => [plan.stage config n]

/-- The stages of the nodes below, in recorded order. -/
def innerStages (config : Config) (n : Nat) : Plan → List Stage
  | .source _ _ => []
  | .filter _ input _ => input.innerStages config n ++ [input.stage config n]
  | .project _ input _ _ => input.innerStages config n ++ [input.stage config n]
  | .join _ left right spec =>
    left.innerStages config n ++ [left.stage config n] ++
      (right.innerStages config (left.nextFrom n) ++ [right.stage config (left.nextFrom n)]) ++
      rekeyStages n left right spec
  | .output _ input _ => input.innerStages config n ++ [input.stage config n]

def stages (config : Config) (n : Nat) (plan : Plan) : List Stage :=
  plan.innerStages config n ++ [plan.stage config n]

theorem innerStages_join (config : Config) (n : Nat) (id : NodeId) (left right : Plan) (spec : Join) :
    (Plan.join id left right spec).innerStages config n =
      left.stages config n ++ (right.stages config (left.nextFrom n) ++ rekeyStages n left right spec) := by
  simp [stages, innerStages]

theorem stages_join (config : Config) (n : Nat) (id : NodeId) (left right : Plan) (spec : Join) :
    (Plan.join id left right spec).stages config n =
      left.stages config n ++ (right.stages config (left.nextFrom n) ++
        (rekeyStages n left right spec ++ [(Plan.join id left right spec).stage config n])) := by
  simp [stages, innerStages]

theorem eq_rekeyStage {n : Nat} {left right : Plan} {spec : Join} {stage : Stage}
    (member : stage ∈ rekeyStages n left right spec) : stage = rekeyStage n left right spec := by
  unfold rekeyStages at member
  split at member
  · exact List.mem_singleton.mp member
  · cases member

theorem mem_ownStages {config : Config} {n : Nat} {plan : Plan} {stage : Stage} :
    stage ∈ plan.ownStages config n ↔ stage = plan.stage config n ∨
      ∃ id left right spec, plan = .join id left right spec ∧ stage ∈ rekeyStages n left right spec := by
  cases plan <;> simp [ownStages, or_comm]

theorem length_rekeyStages (n : Nat) (left right : Plan) (spec : Join) :
    (rekeyStages n left right spec).length = if left.rekeyed spec then 1 else 0 := by
  unfold rekeyStages
  split <;> simp

theorem length_innerStages (config : Config) (n : Nat) (plan : Plan) :
    (plan.innerStages config n).length = plan.stagesBelow := by
  induction plan generalizing n with
  | source id origin => rfl
  | filter id input predicate ih => simp [innerStages, stagesBelow, ih]
  | project id input schema expressions ih => simp [innerStages, stagesBelow, ih]
  | join id left right spec leftIh rightIh =>
    simp only [innerStages, stagesBelow, List.length_append, List.length_singleton,
      length_rekeyStages, leftIh, rightIh]
  | output id input target ih => simp [innerStages, stagesBelow, ih]

theorem length_stages (config : Config) (n : Nat) (plan : Plan) :
    (plan.stages config n).length = plan.stagesBelow + 1 := by
  simp [stages, length_innerStages]

theorem next_stages (config : Config) (n : Nat) (plan : Plan) :
    n + (plan.stages config n).length = plan.nextFrom n := by
  rw [length_stages]
  rfl

theorem stages_own (config : Config) (n : Nat) (plan : Plan) :
    (plan.stages config n)[plan.stagesBelow]? = some (plan.stage config n) := by
  rw [stages, List.getElem?_append_right (Nat.le_of_eq (length_innerStages config n plan))]
  simp [length_innerStages]

theorem joinColumn_eq {left : Plan} {spec : Join} {column : Field}
    (found : left.schema.find spec.leftKey = some column) : left.joinColumn spec = column := by
  simp [joinColumn, Join.leftColumn, found]

theorem JoinChecked.find_joinColumn {left right : Plan} {spec : Join}
    (checked : JoinChecked left right spec) :
    left.schema.find spec.leftKey = some (left.joinColumn spec) := by
  obtain ⟨field, found⟩ := checked.leftKey
  rw [joinColumn_eq found]
  exact found

theorem JoinChecked.find_key {left right : Plan} {spec : Join} (checked : JoinChecked left right spec) :
    spec.schema.find s!"{spec.leftAlias}.{(left.joinColumn spec).name}" =
      some ((left.joinColumn spec).qualified spec.leftAlias) := by
  rw [checked.schema]
  exact Schema.find_joined checked.find_joinColumn

end Plan
end StreamPlan
