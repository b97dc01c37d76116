import StreamPlan.Proofs.Continuation
import StreamPlan.Proofs.Handles
import StreamPlan.Proofs.Places

/-! The shape of a compiled topology: the stages of the plan's nodes in post-order, each numbered by
its place, with one more before a join whose left input is keyed otherwise than it declares. This
is said of every plan that compiles into an empty topology, by whatever way it was made. -/
namespace StreamPlan

namespace Plan

/-- The nodes of a plan, inputs before the node that reads them and left before right, each with the
number of its first stage when the plan's has number n. -/
def postOrder (n : Nat) : Plan → List (Nat × Plan)
  | .source id origin => [(n, .source id origin)]
  | .filter id input predicate => input.postOrder n ++ [(n, .filter id input predicate)]
  | .project id input schema expressions => input.postOrder n ++ [(n, .project id input schema expressions)]
  | .join id left right spec =>
    left.postOrder n ++ (right.postOrder (left.nextFrom n) ++ [(n, .join id left right spec)])
  | .output id input target => input.postOrder n ++ [(n, .output id input target)]

/-- Whether the node is a join whose left input has to be keyed anew. -/
def keysAnew : Plan → Bool
  | .join _ left _ spec => left.rekeyed spec
  | _ => false

theorem stages_eq_postOrder (config : Config) (n : Nat) (plan : Plan) :
    plan.stages config n = (plan.postOrder n).flatMap fun (m, node) => node.ownStages config m := by
  induction plan generalizing n with
  | source id origin => rfl
  | filter id input predicate ih =>
    rw [stages_eq]
    simp [inputsFrom, postOrder, ih]
  | project id input schema expressions ih =>
    rw [stages_eq]
    simp [inputsFrom, postOrder, ih]
  | join id left right spec leftIh rightIh =>
    rw [stages_eq]
    simp [inputsFrom, postOrder, leftIh, rightIh]
  | output id input target ih =>
    rw [stages_eq]
    simp [inputsFrom, postOrder, ih]

/-- A stage for each node, and one more for each join that keys its left input anew. -/
theorem stagesBelow_eq (plan : Plan) : plan.stagesBelow + 1 = plan.size + plan.nodes.countP keysAnew := by
  induction plan with
  | source id origin => rfl
  | filter id input predicate ih =>
    simp only [stagesBelow, size, nodes, List.countP_cons, keysAnew, Bool.false_eq_true, if_false]
    omega
  | project id input schema expressions ih =>
    simp only [stagesBelow, size, nodes, List.countP_cons, keysAnew, Bool.false_eq_true, if_false]
    omega
  | join id left right spec leftIh rightIh =>
    simp only [stagesBelow, size, nodes, List.countP_cons, List.countP_append, keysAnew]
    by_cases anew : left.rekeyed spec = true
    · simp only [anew, if_true]
      omega
    · simp only [anew]
      omega
  | output id input target ih =>
    simp only [stagesBelow, size, nodes, List.countP_cons, keysAnew, Bool.false_eq_true, if_false]
    omega

end Plan

namespace Settings
open Compiling

variable {settings : Settings} {t u : Topology} {handle : Handle}

/-- Below the root nothing with an output in it compiles. -/
theorem no_output_of_gives {plan : Plan} {depth : Nat} (below : 1 < depth)
    (given : Gives (settings.compileNode depth plan) t handle u) :
    ∀ node ∈ plan.nodes, node.isOutput = false := by
  induction plan generalizing depth t u handle with
  | source id origin => simp [Plan.nodes, Plan.isOutput]
  | filter id input predicate ih =>
    obtain ⟨_, given⟩ := gives_within.mp given
    obtain ⟨_, _, inner, _⟩ := gives_bind.mp given
    exact List.forall_mem_cons.mpr ⟨rfl, ih (by omega) inner⟩
  | project id input schema expressions ih =>
    obtain ⟨_, given⟩ := gives_within.mp given
    obtain ⟨_, _, inner, _⟩ := gives_bind.mp given
    exact List.forall_mem_cons.mpr ⟨rfl, ih (by omega) inner⟩
  | join id left right spec leftIh rightIh =>
    obtain ⟨_, given⟩ := gives_within.mp given
    obtain ⟨_, _, leftInner, given⟩ := gives_bind.mp given
    obtain ⟨_, _, rightInner, _⟩ := gives_bind.mp given
    refine List.forall_mem_cons.mpr ⟨rfl, List.forall_mem_append.mpr ⟨?_, ?_⟩⟩
    · exact leftIh (by omega) leftInner
    · exact rightIh (by omega) rightInner
  | output id input target ih =>
    obtain ⟨_, given⟩ := gives_within.mp given
    obtain ⟨root, _⟩ := gives_guard.mp given
    exact absurd (not_not.mp root) (Nat.ne_of_gt below)

/-- A plan that compiles is an output over nodes that are none. -/
theorem output_of_gives {plan : Plan} (given : Gives (settings.compileRoot plan) t handle u) :
    ∃ id input target, plan = .output id input target ∧ ∀ node ∈ input.nodes, node.isOutput = false := by
  cases plan with
  | output id input target =>
    obtain ⟨_, given⟩ := gives_within.mp given
    obtain ⟨_, given⟩ := gives_guard.mp given
    obtain ⟨_, _, inner, _⟩ := gives_bind.mp given
    exact ⟨id, input, target, rfl, no_output_of_gives (by omega) inner⟩
  | source | filter | project | join => exact (not_gives_throw given).elim

end Settings

namespace Compiler
open Compiling

variable {compiler after : Compiler} {plan : Plan} {handle : Handle}

/-- What a topology looks like that has a plan compiled into it and nothing else. The key column of
every stage is spelled as the plan has it where the plan's constructors have checked it. -/
structure Pictures (t : Topology) (config : Config) (plan : Plan) : Prop where
  numbered : t.Numbered
  stages : List.Forall₂ Stage.Alike t.stages
    ((plan.postOrder 0).flatMap fun (n, node) => node.ownStages config n)
  spelled : plan.Checked → t.stages = (plan.postOrder 0).flatMap fun (n, node) => node.ownStages config n
  size : t.size = plan.size + plan.nodes.countP Plan.keysAnew
  terminal : ∀ k stage, t.stages[k]? = some stage → (stage.op.isTerminal = true ↔ k + 1 = t.size)

theorem isTerminal_iff_last (config : Config) {id : NodeId} {input : Plan} {target : Target}
    (inner : ∀ node ∈ input.nodes, node.isOutput = false) {k : Nat} {stage : Stage}
    (here : ((Plan.output id input target).stages config 0)[k]? = some stage) :
    stage.op.isTerminal = true ↔ k = input.stagesBelow + 1 := by
  have split : (Plan.output id input target).stages config 0 =
      input.stages config 0 ++ [(Plan.output id input target).stage config 0] := rfl
  have length := Plan.length_stages config 0 input
  rw [split] at here
  rcases Nat.lt_trichotomy k (input.stagesBelow + 1) with before | last | after
  · rw [List.getElem?_append_left (by omega)] at here
    have below := Plan.inner_stages inner config 0 stage (List.mem_of_getElem? here)
    simp [below, Nat.ne_of_lt before]
  · rw [last, ← length, List.getElem?_concat_length] at here
    cases here
    exact ⟨fun _ => last, fun _ => Plan.isTerminal_op config (.output id input target)⟩
  · rw [List.getElem?_eq_none (by simp; omega)] at here
    cases here

/-- A plan that compiles into an empty topology is pictured there by its nodes in post-order. -/
theorem compile_postOrder {registry : Registry} {config : Config}
    (compiled : (start registry config).compile plan = (.ok handle, after)) :
    Pictures after.topology config plan := by
  have given := gives_of_compile compiled
  obtain ⟨id, input, target, rfl, inner⟩ := Settings.output_of_gives given
  obtain ⟨_, recorded, whole, alike⟩ := Settings.compiles_node _ given
  change after.topology.stages = [] ++ recorded at whole
  change List.Forall₂ Stage.Alike recorded ((Plan.output id input target).stages config 0) at alike
  rw [List.nil_append] at whole
  rw [← whole] at alike
  have size : after.topology.size = (Plan.output id input target).stagesBelow + 1 := by
    rw [Topology.size, alike.length_eq, Plan.length_stages]
  refine ⟨?_, ?_, ?_, ?_, ?_⟩
  · intro k stage here
    obtain ⟨own, there, same⟩ := exists_of_getElem?_left alike here
    rw [same.id]
    exact Plan.numbered_stages config _ k own there
  · rw [← Plan.stages_eq_postOrder]
    exact alike
  · intro checked
    rw [← Plan.stages_eq_postOrder, (Settings.gives_checked checked given).2]
    rfl
  · rw [size, Plan.stagesBelow_eq]
  · intro k stage here
    obtain ⟨own, there, same⟩ := exists_of_getElem?_left alike here
    rw [same.op, size, isTerminal_iff_last config inner there]
    exact Nat.add_right_cancel_iff.symm

theorem shipments_pictured : ∃ handle after,
    (start .standard .standard).compile Plan.shipments = (.ok handle, after) ∧
      Pictures after.topology .standard Plan.shipments ∧ after.topology.size = 7 := by
  have compiled : ∃ handle after, (start .standard .standard).compile Plan.shipments = (.ok handle, after) :=
    ⟨_, _, by rfl⟩
  obtain ⟨handle, after, compiled⟩ := compiled
  have pictured := compile_postOrder compiled
  exact ⟨handle, after, compiled, pictured, pictured.size⟩

end Compiler
end StreamPlan
