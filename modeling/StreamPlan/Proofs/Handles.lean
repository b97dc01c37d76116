import StreamPlan.Proofs.Compilation
import StreamPlan.Proofs.Recording

/-! A compiled node is described three times: by the plan, by the stage recorded for it and by the
handle it is compiled to. Of a node the plan's constructors have checked the three say the same,
whatever was recorded before and however deep the node stands. -/
namespace StreamPlan.Settings
open Compiling

variable {settings : Settings} {plan : Plan} {depth : Nat} {t u : Topology} {handle : Handle}

/-- The handle names a recorded stage, and the node, the handle and the stage agree on what it is. -/
structure Agrees (t : Topology) (plan : Plan) (handle : Handle) (stage : Stage) : Prop where
  recorded : t.stages[handle.stage.number]? = some stage
  numbered : stage.id = handle.stage
  schema : handle.schema = stage.schema
  node : handle.schema = plan.schema
  kind : handle.kind = stage.kind
  key : handle.key.name = stage.keyField

theorem agrees_stages (config : Config) (t : Topology) (plan : Plan) :
    Agrees ⟨t.stages ++ plan.stages config t.size⟩ plan (plan.handle t.size) (plan.stage config t.size) where
  recorded := Topology.stage_eq_ok.mp (t.shows_stages config plan)
  numbered := rfl
  schema := rfl
  node := rfl
  kind := rfl
  key := rfl

/-- A checked plan that compiles gives its handle and records its stages after those that were there. -/
theorem gives_checked (checked : plan.Checked) (given : Gives (settings.compileNode depth plan) t handle u) :
    handle = plan.handle t.size ∧ u = ⟨t.stages ++ plan.stages settings.config t.size⟩ := by
  have settled := settings.settles_compileNode plan checked depth t
  cases complaint : settings.complaint depth plan with
  | none =>
    rw [complaint] at settled
    cases Eq.trans (Eq.symm settled) given
    exact ⟨rfl, rfl⟩
  | some e =>
    rw [complaint] at settled
    obtain ⟨left, failed⟩ := settled
    cases failed.symm.trans given

theorem compileNode_agrees (built : plan.Built) (given : Gives (settings.compileNode depth plan) t handle u) :
    ∃ stage, Agrees u plan handle stage := by
  obtain ⟨rfl, rfl⟩ := gives_checked built.checked given
  exact ⟨_, agrees_stages settings.config t plan⟩

theorem shipments_agree : ∃ handle u stage,
    Gives (compileNode ⟨.standard, .standard⟩ 1 Plan.shipments) ⟨Plan.orders.stages .standard 0⟩ handle u ∧
      Agrees u Plan.shipments handle stage := by
  have given : ∃ handle u,
      Gives (compileNode ⟨.standard, .standard⟩ 1 Plan.shipments) ⟨Plan.orders.stages .standard 0⟩ handle u :=
    ⟨_, _, rfl⟩
  obtain ⟨handle, u, given⟩ := given
  obtain ⟨stage, agreeing⟩ := compileNode_agrees Plan.shipments_built given
  exact ⟨handle, u, stage, given, agreeing⟩

end StreamPlan.Settings
