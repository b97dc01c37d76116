import StreamPlan.Proofs.RecasedPlans
import StreamPlan.Proofs.Trace

/-! Runs of topologies with the references of expressions in small letters. Expressions are evaluated over the
schemas of stages, so where none of these has two columns that differ in letter case alone, the run has the
outcome of the first, or fails with it. -/
namespace StreamPlan

/-- No stage has two columns with names that differ in letter case at most. -/
def Topology.Distinct (t : Topology) : Prop := ∀ stage ∈ t.stages, stage.schema.Distinct

namespace Run

variable {schema : Schema} {t : Topology} {data : SourceData} {results : List (List Record)}

theorem toOption_evaluated (result : Except EvalError α) : (evaluated result).toOption = result.toOption := by
  cases result <;> rfl

theorem toOption_blame (stage : Stage) (result : Except RunFault α) :
    (blame stage result).toOption = result.toOption := by
  cases result <;> rfl

theorem filter_folded (distinct : schema.Distinct) (predicate : Expr) (records : List Record) :
    (filter schema predicate.folded records).toOption = (filter schema predicate records).toOption := by
  induction records with
  | nil => rfl
  | cons record rest ih => simp only [filter, toOption_bind, Expr.accepts_folded distinct, ih]

theorem projectRow_folded (distinct : schema.Distinct) (expressions : List Expr) (row : Row) :
    (projectRow schema (expressions.map Expr.folded) row).toOption = (projectRow schema expressions row).toOption := by
  simp only [projectRow, toOption_bind, toOption_mapM, List.mapM_map, Function.comp_def, Expr.eval_folded distinct]

theorem project_folded (distinct : schema.Distinct) (expressions : List Expr) (records : List Record) :
    (project schema (expressions.map Expr.folded) records).toOption =
      (project schema expressions records).toOption := by
  simp only [project, toOption_mapM, toOption_bind, projectRow_folded distinct]

theorem inputAt_folded (t : Topology) (results : List (List Record)) (stage : Stage) (position : Nat) :
    inputAt t.folded results stage.folded position = (inputAt t results stage position).map Stage.folded := by
  have found (id : StageId) : t.folded.stage? id = (t.stage? id).map Stage.folded := List.getElem?_map
  cases named : stage.inputs[position]? with
  | none =>
    simp only [inputAt, Stage.folded, named]
    rfl
  | some id =>
    simp only [inputAt, Stage.folded, named, found]
    cases t.stage? id with
    | none => rfl
    | some input =>
      simp only [Option.map_some]
      split_ifs <;> rfl

theorem mem_of_inputAt {stage input : Stage} {position : Nat}
    (found : inputAt t results stage position = .ok input) : input ∈ t.stages := by
  unfold inputAt at found
  split at found
  · cases found
  · split at found
    · cases found
    · rename_i here
      split at found
      · cases found
        exact List.mem_of_getElem? here
      · cases found

/-- What is done with an input. -/
theorem bind_inputAt {stage : Stage} {position : Nat} {next later : Stage → Except RunError α}
    (each : ∀ input ∈ t.stages, (later input.folded).toOption = (next input).toOption) :
    (inputAt t.folded results stage.folded position >>= later).toOption =
      (inputAt t results stage position >>= next).toOption := by
  rw [inputAt_folded]
  cases found : inputAt t results stage position with
  | error e => rfl
  | ok input => exact each input (mem_of_inputAt found)

theorem stageRecords_folded (distinct : t.Distinct) (data : SourceData) (results : List (List Record))
    (stage : Stage) : (stageRecords t.folded data results stage.folded).toOption =
      (stageRecords t data results stage).toOption := by
  obtain ⟨id, op, inputs, schema, keyField, kind⟩ := stage
  cases op with
  | streamSource | tableSource => rfl
  | filter predicate =>
    refine bind_inputAt fun input member => ?_
    simp only [toOption_bind, toOption_blame, toOption_evaluated]
    exact congrArg _ (funext fun records => filter_folded (distinct input member) predicate records)
  | project expressions =>
    refine bind_inputAt fun input member => ?_
    simp only [toOption_bind, toOption_blame, toOption_evaluated]
    exact congrArg _ (funext fun records => project_folded (distinct input member) expressions records)
  | selectKey field => exact bind_inputAt fun input member => rfl
  | leftJoin codec => exact bind_inputAt fun left member => bind_inputAt fun right also => rfl
  | toTopic | print => exact bind_inputAt fun input member => rfl

theorem resume_folded (distinct : t.Distinct) (data : SourceData) (results : List (List Record))
    (stages : List Stage) : (resume t.folded data results (stages.map Stage.folded)).toOption =
      (resume t data results stages).toOption := by
  induction stages generalizing results with
  | nil => rfl
  | cons stage rest ih =>
    simp only [List.map_cons, resume_cons, toOption_bind, stageRecords_folded distinct, ih]

theorem outcomeOf_folded (data : SourceData) (limit : Option Nat) (stages : List Stage)
    (results : List (List Record)) : outcomeOf data limit (stages.map Stage.folded) results =
      outcomeOf data limit stages results := by
  have same (outcome : Outcome) (stage : Stage) (records : List Record) :
      outcome.add data limit stage.folded records = outcome.add data limit stage records := by
    obtain ⟨id, op, inputs, schema, keyField, kind⟩ := stage
    cases op <;> rfl
  unfold outcomeOf
  rw [List.zip_map_left, List.foldl_map]
  simp only [Prod.map, same]
  rfl

end Run

namespace Topology

variable {t other : Topology}

theorem run_folded (distinct : t.Distinct) (data : SourceData) (limit : Option Nat) :
    (t.folded.run data limit).toOption = (t.run data limit).toOption := by
  have traced : (Run.trace t.folded data).toOption = (Run.trace t data).toOption :=
    Run.resume_folded distinct data [] t.stages
  have outcomes (results : List (List Record)) :
      Run.outcomeOf data limit t.folded.stages results = Run.outcomeOf data limit t.stages results :=
    Run.outcomeOf_folded data limit t.stages results
  simp only [run, toOption_bind, traced, outcomes]

theorem Distinct.alike (distinct : t.Distinct) (same : t.folded = other.folded) : other.Distinct := by
  intro stage member
  have inside : stage.folded ∈ t.folded.stages := same ▸ List.mem_map_of_mem member
  obtain ⟨own, there, alike⟩ := List.mem_map.mp inside
  have schemas : own.schema = stage.schema := (congrArg Stage.schema alike :)
  exact schemas ▸ distinct own there

/-- Topologies that are the same in small letters have the same runs, or fail both. -/
theorem run_alike (distinct : t.Distinct) (same : t.folded = other.folded) (data : SourceData)
    (limit : Option Nat) : (t.run data limit).toOption = (other.run data limit).toOption := by
  rw [← run_folded distinct, ← run_folded (distinct.alike same), same]

end Topology

namespace Plan

/-- The stages of a plan have the schemas of its nodes. -/
theorem Distinct.stages {plan : Plan} (distinct : plan.Distinct) (config : Config) (n : Nat) :
    Topology.Distinct ⟨plan.stages config n⟩ := by
  intro stage member
  obtain ⟨m, node, place, own⟩ := mem_stages.mp member
  have inside := mem_nodes_of_placed place
  rcases mem_ownStages.mp own with rfl | ⟨id, left, right, spec, rfl, rekeying⟩
  · exact distinct node inside
  · rw [eq_rekeyStage rekeying]
    exact (distinct_left fun node below => distinct node (nodes_subset inside below)).own

end Plan
end StreamPlan
