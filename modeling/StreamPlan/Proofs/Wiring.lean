import StreamPlan.Proofs.Authored
import StreamPlan.Proofs.Faults
import StreamPlan.Proofs.Places

/-! How the schema of each stage comes from those of its inputs, which stand before it. Of a plan from
an author every stage is wired so; nothing is said of the rows yet. -/
namespace StreamPlan

/-- The key column is a column of the stage. -/
def Stage.Keyed (stage : Stage) : Prop := ∃ field, stage.schema.find stage.keyField = some field

namespace Topology

/-- The stage at place k has the schema its inputs call for. -/
def Wired (t : Topology) (k : Nat) (stage : Stage) : Prop :=
  match stage.op with
  | .streamSource .. | .tableSource .. => stage.Keyed
  | .filter _ | .toTopic .. | .print =>
    ∃ input, t.earlier? k stage 0 = some input ∧ stage.schema = input.schema
  | .project expressions =>
    ∃ input, t.earlier? k stage 0 = some input ∧
      List.Forall₂ (fun e (field : Field) => e.typeOf input.schema = .ok field.dataType ∧ field.nullable = true)
        expressions stage.schema.fields
  | .selectKey _ =>
    stage.Keyed ∧ ∃ input, t.earlier? k stage 0 = some input ∧ stage.schema = input.schema
  | .leftJoin _ =>
    stage.Keyed ∧ ∃ left, t.earlier? k stage 0 = some left ∧ ∃ right, t.earlier? k stage 1 = some right ∧
      ∃ owner other, stage.schema = left.schema.qualified owner ++ right.schema.qualified other

end Topology

namespace Plan

theorem inferred_placed {n m : Nat} {plan node : Plan} (inferred : plan.Inferred)
    (place : (m, node) ∈ plan.placed n) : node.Inferred := by
  refine of_placed (P := fun _ plan => plan.Inferred) ?_ inferred place
  intro n plan m input inferred member
  cases plan with
  | source => cases member
  | filter | output =>
    cases List.mem_singleton.mp member
    exact inferred
  | project =>
    cases List.mem_singleton.mp member
    exact inferred.1
  | join id left right spec =>
    rcases List.mem_pair.mp member with same | same
    · cases same
      exact inferred.1
    · cases same
      exact inferred.2

section
variable {t : Topology} {config : Config} {n k : Nat}

theorem earlier?_input {input : Plan} {stage : Stage} {position : Nat}
    (has : t.HasAt n (input.stages config n)) (named : stage.inputs[position]? = some (input.stageId n))
    (before : n + input.stagesBelow < k) : t.earlier? k stage position = some (input.stage config n) :=
  Topology.earlier?_eq_some.mpr ⟨_, named, before, hasAt_own has⟩

/-- A join's first input: the left one, or the stage that keys it anew. Both have its schema. -/
theorem earlier?_leftInput {id : NodeId} {left right : Plan} {spec : Join}
    (has : t.HasAt n ((Plan.join id left right spec).stages config n))
    (own : k = n + (Plan.join id left right spec).stagesBelow) :
    ∃ input, t.earlier? k ((Plan.join id left right spec).stage config n) 0 = some input ∧
      input.schema = left.schema := by
  obtain ⟨leftHas, _, rekeyHas⟩ := hasAt_join has
  simp only [stagesBelow] at own
  cases needed : left.rekeyed spec with
  | false =>
    refine ⟨_, earlier?_input leftHas ?_ (by omega), rfl⟩
    simp [stage, inputIds, leftInput, needed, handle]
  | true =>
    have here : t.stages[right.nextFrom (left.nextFrom n)]? = some (rekeyStage n left right spec) :=
      rekeyHas 0 _ (by simp [rekeyStages, needed])
    refine ⟨_, Topology.earlier?_eq_some.mpr ⟨⟨right.nextFrom (left.nextFrom n)⟩, ?_, ?_, here⟩, rfl⟩
    · simp [stage, inputIds, leftInput, needed]
    · simp only [needed, nextFrom, if_true] at own ⊢
      omega

theorem wired_rekeyStage {id : NodeId} {left right : Plan} {spec : Join}
    (has : t.HasAt n ((Plan.join id left right spec).stages config n)) (checked : JoinChecked left right spec) :
    t.Wired (right.nextFrom (left.nextFrom n)) (rekeyStage n left right spec) := by
  have found := Schema.find_found checked.find_joinColumn
  refine ⟨⟨_, found⟩, _, earlier?_input (hasAt_join has).1 rfl ?_, rfl⟩
  simp only [nextFrom]
  omega

theorem wired_stage {node : Plan} (has : t.HasAt n (node.stages config n)) (checked : node.Checked)
    (inferred : node.Inferred) : t.Wired (n + node.stagesBelow) (node.stage config n) := by
  cases node with
  | source id origin =>
    obtain ⟨topic, schema, key, mode, codec⟩ := origin
    cases mode <;> exact ⟨_, checked⟩
  | filter id input predicate =>
    exact ⟨_, earlier?_input has.append.1 rfl (Nat.lt_succ_self _), rfl⟩
  | project id input schema expressions =>
    exact ⟨_, earlier?_input has.append.1 rfl (Nat.lt_succ_self _), inferred.2⟩
  | join id left right spec =>
    obtain ⟨_, _, checked⟩ := checked
    obtain ⟨input, found, same⟩ := earlier?_leftInput has rfl
    have before : left.nextFrom n + right.stagesBelow < n + (Plan.join id left right spec).stagesBelow := by
      simp only [nextFrom, stagesBelow]
      omega
    have other : t.earlier? (n + (Plan.join id left right spec).stagesBelow)
        ((Plan.join id left right spec).stage config n) 1 = some (right.stage config (left.nextFrom n)) :=
      earlier?_input (hasAt_join has).2.1 rfl before
    refine ⟨⟨_, checked.find_key⟩, input, found, _, other, spec.leftAlias, spec.rightAlias, ?_⟩
    rw [same]
    exact checked.schema
  | output id input target =>
    cases target <;> exact ⟨_, earlier?_input has.append.1 rfl (Nat.lt_succ_self _), rfl⟩

end

/-- Every stage of a compiled plan is wired, as long as its author left the columns of projections to
their expressions. -/
theorem wired_compiled {plan : Plan} {config : Config} {compiled : Compiled} (authored : plan.Authored)
    (accepted : plan.compile config = .ok compiled) {k : Nat} {stage : Stage}
    (here : compiled.topology.stages[k]? = some stage) : compiled.topology.Wired k stage := by
  have built := authored.assembled.built
  have number := numbered_compiled built accepted k stage here
  have member := List.mem_of_getElem? here
  rw [(compile_eq_ok built.checked accepted).2] at member
  obtain ⟨m, node, place, own⟩ := mem_stages.mp member
  have has := hasAt_compiled built accepted place
  rcases mem_ownStages.mp own with rfl | ⟨id, left, right, spec, rfl, rekeying⟩
  · cases number
    exact wired_stage has (checked_placed built.checked place)
      (inferred_placed authored.assembled.inferred place)
  · obtain rfl := eq_rekeyStage rekeying
    cases number
    exact wired_rekeyStage has (checked_placed built.checked place).2.2

end Plan
end StreamPlan
