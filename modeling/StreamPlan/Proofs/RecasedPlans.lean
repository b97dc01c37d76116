import StreamPlan.Proofs.Compilation
import StreamPlan.Proofs.LetterCase
import StreamPlan.Proofs.Nodes

/-! Plans with their references in small letters: those of predicates and projections and the keys of joins.
Where no node has two columns that differ in letter case alone, such a plan stands for the stages of the
first with the references of their expressions in small letters, and compiles where that does. -/
namespace StreamPlan

/-- The join with its keys in small letters. -/
def Join.folded (spec : Join) : Join :=
  { spec with leftKey := Text.lower spec.leftKey, rightKey := Text.lower spec.rightKey }

def StageOp.folded : StageOp → StageOp
  | .filter predicate => .filter predicate.folded
  | .project expressions => .project (expressions.map Expr.folded)
  | op => op

/-- The stage with the references of its expressions in small letters. -/
def Stage.folded (stage : Stage) : Stage := { stage with op := stage.op.folded }

def Topology.folded (t : Topology) : Topology := ⟨t.stages.map Stage.folded⟩

theorem Join.leftColumn_folded {schema : Schema} (distinct : schema.Distinct) (spec : Join) (fallback : Field) :
    spec.folded.leftColumn schema fallback = spec.leftColumn schema fallback := by
  simp only [leftColumn, folded, Schema.find_lower distinct]

namespace Plan

/-- The plan with its references in small letters. A source has resolved its key. -/
def folded : Plan → Plan
  | .source id origin => .source id origin
  | .filter id input predicate => .filter id input.folded predicate.folded
  | .project id input schema expressions => .project id input.folded schema (expressions.map Expr.folded)
  | .join id left right spec => .join id left.folded right.folded spec.folded
  | .output id input target => .output id input.folded target

/-- No node has two columns with names that differ in letter case at most. -/
def Distinct (plan : Plan) : Prop := ∀ node ∈ plan.nodes, node.schema.Distinct

variable {plan input left right : Plan}

@[simp] theorem schema_folded (plan : Plan) : plan.folded.schema = plan.schema := by
  induction plan with
  | source | project | join => rfl
  | filter id input predicate ih => exact ih
  | output id input target ih => exact ih

@[simp] theorem codec_folded (plan : Plan) : plan.folded.codec = plan.codec := by
  induction plan with
  | source => rfl
  | filter id input predicate ih => exact ih
  | project id input schema expressions ih => exact ih
  | join id left right spec leftIh => exact leftIh
  | output id input target ih => exact ih

@[simp] theorem mode_folded (plan : Plan) : plan.folded.mode = plan.mode := by
  induction plan with
  | source | join => rfl
  | filter id input predicate ih => exact ih
  | project id input schema expressions ih => exact ih
  | output id input target ih => exact ih

theorem nodes_folded (plan : Plan) : plan.folded.nodes = plan.nodes.map folded := by
  induction plan with
  | source => rfl
  | filter id input predicate ih => simp [folded, nodes, ih]
  | project id input schema expressions ih => simp [folded, nodes, ih]
  | join id left right spec leftIh rightIh => simp [folded, nodes, leftIh, rightIh]
  | output id input target ih => simp [folded, nodes, ih]

theorem Distinct.own (distinct : plan.Distinct) : plan.schema.Distinct :=
  distinct plan (by cases plan <;> simp [nodes])

theorem Distinct.below {n m : Nat} (distinct : plan.Distinct) (member : (m, input) ∈ plan.inputsFrom n) :
    input.Distinct :=
  fun node inside => distinct node (nodes_of_input member inside)

theorem distinct_left {id : NodeId} {spec : Join} (distinct : (Plan.join id left right spec).Distinct) :
    left.Distinct :=
  distinct.below (n := 0) List.mem_cons_self

theorem distinct_right {id : NodeId} {spec : Join} (distinct : (Plan.join id left right spec).Distinct) :
    right.Distinct :=
  distinct.below (n := 0) (List.mem_cons_of_mem _ List.mem_cons_self)

theorem distinct_folded_iff : plan.folded.Distinct ↔ plan.Distinct := by
  simp [Distinct, nodes_folded]

theorem key_folded (plan : Plan) (distinct : plan.Distinct) : plan.folded.key = plan.key := by
  induction plan with
  | source => rfl
  | filter id input predicate ih => exact ih (distinct.below (n := 0) List.mem_cons_self)
  | project id input schema expressions ih =>
    rw [folded, key, key, ih (distinct.below (n := 0) List.mem_cons_self)]
  | join id left right spec leftIh =>
    have told := distinct_left distinct
    rw [folded, key, schema_folded, leftIh told, Join.leftColumn_folded told.own]
    rfl
  | output id input target ih => exact ih (distinct.below (n := 0) List.mem_cons_self)

theorem joinColumn_folded (distinct : left.Distinct) (spec : Join) :
    left.folded.joinColumn spec.folded = left.joinColumn spec := by
  rw [joinColumn, schema_folded, key_folded left distinct, Join.leftColumn_folded distinct.own, joinColumn]

theorem rekeyed_folded (distinct : left.Distinct) (spec : Join) :
    left.folded.rekeyed spec.folded = left.rekeyed spec := by
  rw [rekeyed, key_folded left distinct, joinColumn_folded distinct, rekeyed]

theorem stagesBelow_folded (plan : Plan) (distinct : plan.Distinct) : plan.folded.stagesBelow = plan.stagesBelow := by
  induction plan with
  | source => rfl
  | filter id input predicate ih =>
    exact congrArg (· + 1) (ih (distinct.below (n := 0) List.mem_cons_self))
  | project id input schema expressions ih =>
    exact congrArg (· + 1) (ih (distinct.below (n := 0) List.mem_cons_self))
  | join id left right spec leftIh rightIh =>
    have told := distinct_left distinct
    rw [folded, stagesBelow, leftIh told, rightIh (distinct_right distinct), rekeyed_folded told, stagesBelow]
  | output id input target ih =>
    exact congrArg (· + 1) (ih (distinct.below (n := 0) List.mem_cons_self))

section
variable (distinct : plan.Distinct)
include distinct

theorem stageId_folded (n : Nat) : plan.folded.stageId n = plan.stageId n := by
  rw [stageId, stagesBelow_folded plan distinct, stageId]

theorem nextFrom_folded (n : Nat) : plan.folded.nextFrom n = plan.nextFrom n := by
  rw [nextFrom, stagesBelow_folded plan distinct, nextFrom]

theorem handle_folded (n : Nat) : plan.folded.handle n = plan.handle n := by
  rw [handle, mode_folded, schema_folded, key_folded plan distinct, stageId_folded distinct, handle]

end

theorem op_folded (config : Config) (plan : Plan) : plan.folded.op config = (plan.op config).folded := by
  cases plan with
  | source id origin => cases mode : origin.mode <;> simp [folded, op, mode, StageOp.folded]
  | filter | project => rfl
  | join id left right spec => simp [folded, op, StageOp.folded]
  | output id input target => cases target <;> simp [folded, op, StageOp.folded]

theorem leftInput_folded (n : Nat) (leftDistinct : left.Distinct) (rightDistinct : right.Distinct) (spec : Join) :
    leftInput n left.folded right.folded spec.folded = leftInput n left right spec := by
  simp only [leftInput, rekeyed_folded leftDistinct, joinColumn_folded leftDistinct, schema_folded,
    nextFrom_folded leftDistinct, nextFrom_folded rightDistinct, handle_folded leftDistinct]

theorem inputIds_folded (n : Nat) (plan : Plan) (distinct : plan.Distinct) :
    plan.folded.inputIds n = plan.inputIds n := by
  cases plan with
  | source => rfl
  | filter id input | project id input | output id input =>
    exact congrArg (fun id => [id]) (stageId_folded (distinct.below (n := 0) List.mem_cons_self) n)
  | join id left right spec =>
    have told := distinct_left distinct
    have also := distinct_right distinct
    simp only [folded, inputIds, leftInput_folded n told also, nextFrom_folded told, stageId_folded also]

theorem stage_folded (config : Config) (n : Nat) (distinct : plan.Distinct) :
    plan.folded.stage config n = (plan.stage config n).folded := by
  simp only [stage, Stage.folded, stageId_folded distinct, op_folded, inputIds_folded n plan distinct, schema_folded,
    key_folded plan distinct, mode_folded]

theorem rekeyStages_folded (n : Nat) (leftDistinct : left.Distinct) (rightDistinct : right.Distinct) (spec : Join) :
    rekeyStages n left.folded right.folded spec.folded = (rekeyStages n left right spec).map Stage.folded := by
  simp only [rekeyStages, rekeyStage, rekeyed_folded leftDistinct, joinColumn_folded leftDistinct, schema_folded,
    nextFrom_folded leftDistinct, nextFrom_folded rightDistinct, stageId_folded leftDistinct]
  cases left.rekeyed spec <;> rfl

theorem ownStages_folded (config : Config) (n : Nat) (distinct : plan.Distinct) :
    plan.folded.ownStages config n = (plan.ownStages config n).map Stage.folded := by
  have own := stage_folded config n distinct
  cases plan with
  | source | filter | project | output => exact congrArg (fun stage => [stage]) own
  | join id left right spec =>
    have rekeying := rekeyStages_folded n (distinct_left distinct) (distinct_right distinct) spec
    rw [folded] at own
    simp only [folded, ownStages, List.map_append, rekeying, own, List.map_cons, List.map_nil]

theorem inputsFrom_folded (n : Nat) (distinct : plan.Distinct) :
    plan.folded.inputsFrom n = (plan.inputsFrom n).map fun (m, input) => (m, input.folded) := by
  cases plan with
  | source | filter | project | output => rfl
  | join id left right spec => simp [folded, inputsFrom, nextFrom_folded (distinct_left distinct)]

/-- The stages of a plan in small letters are those of the plan, with their expressions in small letters. -/
theorem stages_folded (config : Config) (n : Nat) (plan : Plan) (distinct : plan.Distinct) :
    plan.folded.stages config n = (plan.stages config n).map Stage.folded := by
  induction n, plan using inputs_induction with
  | step n plan ih =>
    rw [stages_eq, stages_eq, inputsFrom_folded n distinct, ownStages_folded config n distinct, List.map_append,
      List.map_flatMap, List.flatMap_map]
    congr 1
    refine List.flatMap_congr fun (m, input) member => ?_
    exact ih m input member (distinct.below member)

end Plan

namespace Settings

variable (settings : Settings)

theorem complaint_folded (depth : Nat) (plan : Plan) :
    settings.complaint depth plan.folded = settings.complaint depth plan := by
  induction plan generalizing depth with
  | source => rfl
  | filter id input predicate ih => rw [Plan.folded, complaint, ih, complaint]
  | project id input schema expressions ih => rw [Plan.folded, complaint, ih, complaint]
  | join id left right spec leftIh rightIh =>
    simp only [Plan.folded, complaint, leftIh, rightIh, joinComplaint, Plan.mode_folded, Plan.codec_folded,
      Join.folded]
  | output id input target ih =>
    simp only [Plan.folded, complaint, ih, Plan.codec_folded, nestedComplaint, Plan.kindName]

theorem rootComplaint_folded (plan : Plan) : settings.rootComplaint plan.folded = settings.rootComplaint plan := by
  cases plan with
  | output id input target => exact settings.complaint_folded 1 (.output id input target)
  | source | filter | project | join => rfl

end Settings

def Compiled.folded (compiled : Compiled) : Compiled :=
  ⟨compiled.handle, compiled.sink.folded, compiled.topology.folded⟩

namespace Plan

variable {plan other : Plan}

theorem compile_folded (checked : plan.Checked) (distinct : plan.Distinct) (config : Config) :
    (plan.compile config).map Compiled.folded =
      match (Compiler.start .standard config).settings.rootComplaint plan.folded with
        | none => .ok ⟨plan.folded.handle 0, plan.folded, ⟨plan.folded.stages config 0⟩⟩
        | some e => .error e := by
  rw [compile_checked checked, Settings.rootComplaint_folded, handle_folded distinct,
    stages_folded config 0 plan distinct]
  cases (Compiler.start .standard config).settings.rootComplaint plan <;> rfl

theorem Distinct.alike (distinct : plan.Distinct) (same : plan.folded = other.folded) : other.Distinct :=
  distinct_folded_iff.mp (same ▸ distinct_folded_iff.mpr distinct)

/-- Checked plans that are the same in small letters compile alike, complaints included. -/
theorem compile_alike (checked : plan.Checked) (also : other.Checked) (distinct : plan.Distinct)
    (same : plan.folded = other.folded) (config : Config) :
    (plan.compile config).map Compiled.folded = (other.compile config).map Compiled.folded := by
  rw [compile_folded checked distinct, compile_folded also (distinct.alike same), same]

end Plan
end StreamPlan
