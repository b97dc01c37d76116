import StreamPlan.Proofs.Acceptance
import StreamPlan.Proofs.Trace

/-! Where the stages of a compiled plan stand. The topology has those of every node in their places
and numbers all of them by their places. -/
namespace StreamPlan

namespace Topology

/-- The stages stand in the topology from number n on. -/
def HasAt (t : Topology) (n : Nat) (stages : List Stage) : Prop :=
  ∀ (k : Nat) (stage : Stage), stages[k]? = some stage → t.stages[n + k]? = some stage

theorem HasAt.append {t : Topology} {n : Nat} {stages more : List Stage}
    (has : t.HasAt n (stages ++ more)) : t.HasAt n stages ∧ t.HasAt (n + stages.length) more := by
  constructor
  · intro k stage here
    apply has
    rw [List.getElem?_append_left (List.getElem?_eq_some_iff.mp here).1]
    exact here
  · intro k stage here
    rw [Nat.add_assoc]
    apply has
    rw [List.getElem?_append_right (Nat.le_add_right _ _), Nat.add_sub_cancel_left]
    exact here

theorem HasAt.last {t : Topology} {n : Nat} {stages : List Stage} {stage : Stage}
    (has : t.HasAt n (stages ++ [stage])) : t.stages[n + stages.length]? = some stage :=
  has.append.2 0 stage rfl

def NumberedFrom (n : Nat) (stages : List Stage) : Prop :=
  ∀ (k : Nat) (stage : Stage), stages[k]? = some stage → stage.id = ⟨n + k⟩

theorem numberedFrom_single {n : Nat} {stage : Stage} (own : stage.id = ⟨n⟩) : NumberedFrom n [stage] := by
  intro k stage' here
  cases k with
  | zero => cases here; exact own
  | succ k => cases here

theorem NumberedFrom.append {n : Nat} {stages more : List Stage} (first : NumberedFrom n stages)
    (rest : NumberedFrom (n + stages.length) more) : NumberedFrom n (stages ++ more) := by
  intro k stage here
  by_cases inside : k < stages.length
  · rw [List.getElem?_append_left inside] at here
    exact first k stage here
  · rw [List.getElem?_append_right (by omega)] at here
    rw [rest _ stage here]
    congr 1
    omega

theorem hasAt_self (t : Topology) : t.HasAt 0 t.stages := by
  intro k stage here
  rw [Nat.zero_add]
  exact here

end Topology

namespace Plan

theorem numberedFrom_stages (config : Config) (plan : Plan) (n : Nat) :
    Topology.NumberedFrom n (plan.stages config n) := by
  have after {input : Plan} {stage : Stage} {n : Nat} (first : Topology.NumberedFrom n (input.stages config n))
      (own : stage.id = ⟨input.nextFrom n⟩) :
      Topology.NumberedFrom n (input.stages config n ++ [stage]) := by
    refine first.append (Topology.numberedFrom_single ?_)
    rw [next_stages]
    exact own
  induction plan generalizing n with
  | source id origin => exact Topology.numberedFrom_single rfl
  | filter id input predicate ih => exact after (ih n) rfl
  | project id input schema expressions ih => exact after (ih n) rfl
  | join id left right spec leftIh rightIh =>
    rw [stages_join]
    refine (leftIh n).append ?_
    rw [next_stages]
    refine (rightIh (left.nextFrom n)).append ?_
    rw [next_stages]
    unfold rekeyStages
    cases needed : left.rekeyed spec with
    | false =>
      refine Topology.numberedFrom_single ?_
      simp [stage, stageId, stagesBelow, nextFrom, needed, Nat.add_assoc]
    | true =>
      have first : Topology.NumberedFrom (right.nextFrom (left.nextFrom n)) [rekeyStage n left right spec] :=
        Topology.numberedFrom_single rfl
      refine first.append (Topology.numberedFrom_single ?_)
      simp [stage, stageId, stagesBelow, nextFrom, needed, Nat.add_assoc]
  | output id input target ih => exact after (ih n) rfl

theorem numbered_stages (config : Config) (plan : Plan) :
    Topology.Numbered ⟨plan.stages config 0⟩ := by
  intro k stage here
  rw [numberedFrom_stages config plan 0 k stage here, Nat.zero_add]

section
variable {t : Topology} {config : Config} {n : Nat}

theorem hasAt_own {plan : Plan} (has : t.HasAt n (plan.stages config n)) :
    t.stages[(plan.stageId n).number]? = some (plan.stage config n) := by
  have own := has.last
  rw [length_innerStages] at own
  exact own

theorem hasAt_join {id : NodeId} {left right : Plan} {spec : Join}
    (has : t.HasAt n ((Plan.join id left right spec).stages config n)) :
    t.HasAt n (left.stages config n) ∧
      t.HasAt (left.nextFrom n) (right.stages config (left.nextFrom n)) ∧
        t.HasAt (right.nextFrom (left.nextFrom n))
          (rekeyStages n left right spec ++ [(Plan.join id left right spec).stage config n]) := by
  rw [stages_join] at has
  obtain ⟨leftHas, rest⟩ := has.append
  rw [next_stages] at rest
  obtain ⟨rightHas, own⟩ := rest.append
  rw [next_stages] at own
  exact ⟨leftHas, rightHas, own⟩

/-- Where the stages of a plan stand, those of its nodes stand in their places. -/
theorem hasAt_placed {m : Nat} {plan node : Plan}
    (has : t.HasAt n (plan.stages config n)) (place : (m, node) ∈ plan.placed n) :
    t.HasAt m (node.stages config m) := by
  refine of_placed (P := fun n plan => t.HasAt n (plan.stages config n)) ?_ has place
  intro n plan m input has member
  cases plan with
  | source => cases member
  | filter | project | output =>
    cases List.mem_singleton.mp member
    exact has.append.1
  | join id left right spec =>
    obtain ⟨leftHas, rightHas, _⟩ := hasAt_join has
    rcases List.mem_pair.mp member with same | same
    · cases same
      exact leftHas
    · cases same
      exact rightHas

end

section
variable {plan : Plan} {config : Config} {compiled : Compiled}

theorem numbered_compiled (built : plan.Built) (accepted : plan.compile config = .ok compiled) :
    compiled.topology.Numbered := by
  rw [(compile_eq_ok built.checked accepted).2]
  exact numbered_stages config plan

theorem hasAt_compiled (built : plan.Built) (accepted : plan.compile config = .ok compiled) {m : Nat}
    {node : Plan} (place : (m, node) ∈ plan.placed 0) :
    compiled.topology.HasAt m (node.stages config m) := by
  rw [(compile_eq_ok built.checked accepted).2]
  exact hasAt_placed (Topology.hasAt_self _) place

end
end Plan

/-- A plan compiled after others has the stages of its nodes in places counted from the size before. -/
theorem Compiler.hasAt_compile {compiler after : Compiler} {plan : Plan} {handle : Handle} (built : plan.Built)
    (accepted : compiler.compile plan = (.ok handle, after)) {m : Nat} {node : Plan}
    (place : (m, node) ∈ plan.placed compiler.topology.size) :
    after.topology.HasAt m (node.stages compiler.settings.config m) := by
  have has := (Topology.hasAt_self after.topology)
  rw [topology_of_compile built.checked accepted] at has ⊢
  have own := has.append.2
  rw [Nat.zero_add] at own
  exact Plan.hasAt_placed own place

end StreamPlan
