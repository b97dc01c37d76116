import StreamPlan.Proofs.Stages

/-! What compiling does. A step either records its stages and gives its result or stops at the first
complaint; for a checked plan the stages are those the plan stands for, and the complaint can be
read off the plan, the settings and the depth. What a failed step leaves recorded is only known to
come after what was there. -/
namespace StreamPlan

namespace Compiling

/-- From a topology the step records the stages and gives the result, unless there is a complaint,
with which it then fails. -/
def Settles (step : Compiling α) (t : Topology) (complaint : Option CompileError) (result : α)
    (stages : List Stage) : Prop :=
  match complaint with
  | none => step.run t = (.ok result, ⟨t.stages ++ stages⟩)
  | some e => ∃ left, step.run t = (.error e, ⟨t.stages ++ left⟩)

theorem settles_pure (t : Topology) (a : α) : Settles (pure a) t none a [] := by
  change (_, t) = (_, (⟨t.stages ++ []⟩ : Topology))
  simp

theorem settles_throw (t : Topology) (e : CompileError) (a : α) (stages : List Stage) :
    Settles (throw e) t (some e) a stages := by
  refine ⟨[], ?_⟩
  change (_, t) = (_, (⟨t.stages ++ []⟩ : Topology))
  simp

/-- Steps in a row: the complaint of the first comes first, else the second goes on from the stages
the first has recorded. -/
theorem Settles.bind {step : Compiling α} {next : α → Compiling β} {t : Topology}
    {first second : Option CompileError} {a : α} {b : β} {before after : List Stage}
    (done : Settles step t first a before)
    (rest : first = none → Settles (next a) ⟨t.stages ++ before⟩ second b after) :
    Settles (step >>= next) t (first.or second) b (before ++ after) := by
  cases first with
  | some e =>
    obtain ⟨left, failed⟩ := done
    exact ⟨left, by rw [run_bind, failed]⟩
  | none =>
    have rest := rest rfl
    cases second with
    | none =>
      change _ = _ at rest
      change (step >>= next).run t = _
      rw [run_bind, show step.run t = _ from done, ← List.append_assoc]
      exact rest
    | some e =>
      obtain ⟨left, failed⟩ := rest
      exact ⟨before ++ left, by
        rw [run_bind, show step.run t = _ from done, ← List.append_assoc]
        exact failed⟩

theorem settles_refused (t : Topology) (e : CompileError) (next : α → Compiling β) (b : β)
    (stages : List Stage) : Settles (throw e >>= next) t (some e) b stages := by
  refine ⟨[], ?_⟩
  rw [run_bind, List.append_nil]
  rfl

theorem Settles.then {step : Compiling α} {next : α → Compiling β} {t : Topology}
    {complaint : Option CompileError} {a : α} {b : β} {before after : List Stage}
    (done : Settles step t none a before)
    (rest : Settles (next a) ⟨t.stages ++ before⟩ complaint b after) :
    Settles (step >>= next) t complaint b (before ++ after) :=
  done.bind fun _ => rest

theorem Settles.read {step : Compiling α} {next : α → Compiling β} {t : Topology}
    {complaint : Option CompileError} {a : α} {b : β} {after : List Stage}
    (done : Settles step t none a []) (rest : Settles (next a) t complaint b after) :
    Settles (step >>= next) t complaint b after :=
  done.then (by simpa using rest)

theorem Settles.check {step : Compiling α} {next : α → Compiling β} {t : Topology}
    {first second : Option CompileError} {a : α} {b : β} {after : List Stage}
    (done : Settles step t first a []) (rest : Settles (next a) t second b after) :
    Settles (step >>= next) t (first.or second) b after :=
  done.bind fun _ => by simpa using rest

theorem run_record (step : Topology → Topology.Recorded) (t : Topology) :
    (record step).run t = match step t with
      | .ok (id, t) => (.ok id, t)
      | .error e => (.error (.stage e), t) := by
  change (match step t with | .ok (id, t) => _ | .error e => _ : Compiling StageId).run t = _
  cases step t <;> rfl

theorem settles_record {step : Topology → Topology.Recorded} {t : Topology} {op : StageOp}
    {inputs : List StageId} {schema : Schema} {keyField : String} {kind : Mode}
    (recorded : step t = .ok (t.push op inputs schema keyField kind)) :
    Settles (record step) t none t.nextId [⟨t.nextId, op, inputs, schema, keyField, kind⟩] := by
  change (record step).run t = _
  rw [run_record, recorded]
  rfl

end Compiling

namespace Topology

def Shows (t : Topology) (config : Config) (n : Nat) (plan : Plan) : Prop :=
  t.stage (plan.stageId n) = .ok (plan.stage config n)

theorem stage_eq_ok {t : Topology} {id : StageId} {stage : Stage} :
    t.stage id = .ok stage ↔ t.stages[id.number]? = some stage := by
  unfold Topology.stage Topology.stage?
  cases t.stages[id.number]? <;> simp

theorem Shows.append {t : Topology} {config : Config} {n : Nat} {plan : Plan}
    (shown : t.Shows config n plan) (more : List Stage) :
    Shows ⟨t.stages ++ more⟩ config n plan := by
  have here := stage_eq_ok.mp shown
  have bound := (List.getElem?_eq_some_iff.mp here).1
  exact stage_eq_ok.mpr (by rw [List.getElem?_append_left bound, here])

theorem shows_stages (t : Topology) (config : Config) (plan : Plan) :
    Shows ⟨t.stages ++ plan.stages config t.size⟩ config t.size plan := by
  apply stage_eq_ok.mpr
  have beyond : t.stages.length ≤ t.size + plan.stagesBelow := Nat.le_add_right _ _
  have own := plan.stages_own config t.size
  change (t.stages ++ plan.stages config t.size)[t.size + plan.stagesBelow]? = _
  rw [List.getElem?_append_right beyond]
  simpa [size] using own

theorem size_stages (t : Topology) (config : Config) (plan : Plan) :
    size ⟨t.stages ++ plan.stages config t.size⟩ = plan.nextFrom t.size := by
  simp [size, Plan.length_stages, Plan.nextFrom, Nat.add_assoc]

end Topology
end StreamPlan
