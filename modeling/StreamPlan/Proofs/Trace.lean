import Mathlib.Data.List.Basic
import StreamPlan.Proofs.Results
import StreamPlan.Run.Basic

/-! Runs, stage by stage. A run may stop after any stage and go on from the records so far, so that
what one stage makes of them is all there is to say of a whole run. Where stages are numbered by
their places, an input is the stage recorded under its number, with the records of that place. -/
namespace StreamPlan

/-- Every stage has the number of its place. -/
def Topology.Numbered (t : Topology) : Prop :=
  ∀ (k : Nat) (stage : Stage), t.stages[k]? = some stage → stage.id = ⟨k⟩

namespace Run

def resume (t : Topology) (data : SourceData) (results : List (List Record)) (stages : List Stage) :
    Except RunError (List (List Record)) :=
  stages.foldlM (fun results stage => do pure (results ++ [← stageRecords t data results stage])) results

variable {t : Topology} {data : SourceData}

theorem trace_eq_resume : trace t data = resume t data [] t.stages := rfl

theorem resume_append (results : List (List Record)) (stages more : List Stage) :
    resume t data results (stages ++ more) =
      resume t data results stages >>= fun results => resume t data results more := by
  rw [resume, List.foldlM_append]
  rfl

theorem resume_cons (results : List (List Record)) (stage : Stage) (rest : List Stage) :
    resume t data results (stage :: rest) =
      stageRecords t data results stage >>= fun records => resume t data (results ++ [records]) rest := by
  rw [resume, List.foldlM_cons]
  cases stageRecords t data results stage <;> rfl

theorem resume_single (results : List (List Record)) (stage : Stage) :
    resume t data results [stage] =
      stageRecords t data results stage >>= fun records => .ok (results ++ [records]) := by
  rw [resume_cons]
  rfl

/-- The records that a run adds: for each stage those it makes of the records before it. -/
theorem resume_eq_ok {before results : List (List Record)} {stages : List Stage}
    (ran : resume t data before stages = .ok results) :
    ∃ after, results = before ++ after ∧ after.length = stages.length ∧
      ∀ (k : Nat) (stage : Stage) (records : List Record), stages[k]? = some stage → after[k]? = some records →
        stageRecords t data (before ++ after.take k) stage = .ok records := by
  -- on the stages, the records before them free: what one stage adds is before the next
  induction stages generalizing before with
  | nil =>
    cases ran
    exact ⟨[], by simp, rfl, by simp⟩
  | cons first rest ih =>
    rw [resume_cons, bind_eq_ok] at ran
    obtain ⟨made, here, ran⟩ := ran
    obtain ⟨after, rfl, length, later⟩ := ih ran
    refine ⟨made :: after, by simp, by simp [length], ?_⟩
    intro k stage records atPlace given
    cases k with
    | zero =>
      simp only [List.getElem?_cons_zero, Option.some.injEq] at atPlace given
      subst atPlace given
      simpa using here
    | succ k =>
      have next := later k stage records (by simpa using atPlace) (by simpa using given)
      simpa [List.append_assoc] using next

theorem length_trace {results : List (List Record)} (ran : trace t data = .ok results) :
    results.length = t.stages.length := by
  obtain ⟨after, rfl, length, _⟩ := resume_eq_ok (trace_eq_resume.symm.trans ran)
  simpa using length

theorem stageRecords_of_trace {results : List (List Record)} {k : Nat} {stage : Stage}
    {records : List Record} (ran : trace t data = .ok results) (recorded : t.stages[k]? = some stage)
    (given : results[k]? = some records) :
    stageRecords t data (results.take k) stage = .ok records := by
  obtain ⟨after, rfl, _, each⟩ := resume_eq_ok (trace_eq_resume.symm.trans ran)
  exact each k stage records recorded given

structure Reads (t : Topology) (results : List (List Record)) (stage : Stage) (position : Nat)
    (input : Stage) (records : List Record) : Prop where
  found : inputAt t results stage position = .ok input
  given : recordsOf results stage input = .ok records

theorem inputAt_eq_ok {results : List (List Record)} {stage input : Stage} {position : Nat} :
    inputAt t results stage position = .ok input ↔
      ∃ id, stage.inputs[position]? = some id ∧ t.stages[id.number]? = some input ∧
        id.number < results.length := by
  unfold inputAt Topology.stage?
  cases stage.inputs[position]? with
  | none => simp
  | some id =>
    cases found : t.stages[id.number]? with
    | none => simp [found]
    | some other => by_cases evaluated : id.number < results.length <;> simp [found, evaluated]

theorem recordsOf_eq_ok {results : List (List Record)} {stage input : Stage} {records : List Record} :
    recordsOf results stage input = .ok records ↔ results[input.id.number]? = some records := by
  unfold recordsOf
  cases results[input.id.number]? <;> simp

/-- Where stages are numbered by their places an input is read from the place its id names. -/
theorem reads_iff (numbered : t.Numbered) {results : List (List Record)} {stage input : Stage}
    {position : Nat} {records : List Record} :
    Reads t results stage position input records ↔
      ∃ id, stage.inputs[position]? = some id ∧ t.stages[id.number]? = some input ∧
        results[id.number]? = some records := by
  constructor
  · rintro ⟨found, given⟩
    obtain ⟨id, named, recorded, _⟩ := inputAt_eq_ok.mp found
    have given := recordsOf_eq_ok.mp given
    rw [numbered _ _ recorded] at given
    exact ⟨id, named, recorded, given⟩
  · rintro ⟨id, named, recorded, given⟩
    have evaluated := (List.getElem?_eq_some_iff.mp given).1
    refine ⟨inputAt_eq_ok.mpr ⟨id, named, recorded, evaluated⟩, recordsOf_eq_ok.mpr ?_⟩
    rw [numbered _ _ recorded]
    exact given

theorem blame_eq_ok {stage : Stage} {step : Except RunFault α} {a : α} :
    blame stage step = .ok a ↔ step = .ok a := by
  cases step <;> simp [blame]

theorem evaluated_eq_ok {step : Except EvalError α} {a : α} : evaluated step = .ok a ↔ step = .ok a := by
  cases step <;> simp [evaluated]

section
variable {results : List (List Record)} {stage input : Stage} {records : List Record}

theorem stageRecords_source {topic : String} (op : stage.op.sourceTopic = some topic) :
    stageRecords t data results stage = sourceRecords data stage topic := by
  unfold stageRecords
  cases kind : stage.op <;> simp_all [StageOp.sourceTopic]

theorem stageRecords_filter {predicate : Expr} (op : stage.op = .filter predicate)
    (reads : Reads t results stage 0 input records) :
    stageRecords t data results stage =
      blame stage (evaluated (filter input.schema predicate records)) := by
  simp [stageRecords, op, reads.found, reads.given]

theorem stageRecords_project {expressions : List Expr} (op : stage.op = .project expressions)
    (reads : Reads t results stage 0 input records) :
    stageRecords t data results stage =
      blame stage (evaluated (project input.schema expressions records)) := by
  simp [stageRecords, op, reads.found, reads.given]

theorem stageRecords_selectKey {key : String} (op : stage.op = .selectKey key)
    (reads : Reads t results stage 0 input records) :
    stageRecords t data results stage =
      blame stage (keyed stage.keyField stage.schema (records.map (·.row))) := by
  simp [stageRecords, op, reads.found, reads.given]

theorem stageRecords_leftJoin {codec : Codec} {right : Stage} {stored : List Record}
    (op : stage.op = .leftJoin codec) (reads : Reads t results stage 0 input records)
    (also : Reads t results stage 1 right stored) :
    stageRecords t data results stage =
      blame stage (keyed stage.keyField stage.schema (joinedRows right.schema.size records stored)) := by
  simp [stageRecords, op, reads.found, reads.given, also.found, also.given]

theorem stageRecords_terminal (op : stage.op.isTerminal = true)
    (reads : Reads t results stage 0 input records) : stageRecords t data results stage = .ok records := by
  unfold stageRecords
  cases kind : stage.op <;> simp_all [StageOp.isTerminal, reads.found, reads.given]

theorem exists_reads {made : List Record} (done : stageRecords t data results stage = .ok made)
    (op : stage.op.isSource = false) : ∃ input records, Reads t results stage 0 input records := by
  unfold stageRecords at done
  cases kind : stage.op with
  | streamSource | tableSource => simp [kind, StageOp.isSource, StageOp.sourceTopic] at op
  | filter | project | selectKey =>
    simp only [kind, bind_eq_ok] at done
    obtain ⟨input, found, records, given, _⟩ := done
    exact ⟨input, records, found, given⟩
  | toTopic | print =>
    simp only [kind, bind_eq_ok] at done
    obtain ⟨input, found, given⟩ := done
    exact ⟨input, made, found, given⟩
  | leftJoin =>
    simp only [kind, bind_eq_ok] at done
    obtain ⟨left, found, _, _, records, given, _⟩ := done
    exact ⟨left, records, found, given⟩

theorem exists_reads_right {made : List Record} {codec : Codec}
    (done : stageRecords t data results stage = .ok made) (op : stage.op = .leftJoin codec) :
    ∃ right stored, Reads t results stage 1 right stored := by
  simp only [stageRecords, op, bind_eq_ok] at done
  obtain ⟨_, _, right, found, _, _, stored, given, _⟩ := done
  exact ⟨right, stored, found, given⟩

/-- What a stage has of its records whenever the stages before it have it of theirs, every stage of a
run has, whether the run went on after it or not. -/
theorem records_induction {P : Stage → List Record → Prop} {n : Nat} {results : List (List Record)}
    (ran : resume t data [] (t.stages.take n) = .ok results)
    (step : ∀ (k : Nat) (stage : Stage) (made : List Record), t.stages[k]? = some stage →
      results[k]? = some made → stageRecords t data (results.take k) stage = .ok made →
        (∀ (j : Nat) (input : Stage) (given : List Record), t.stages[j]? = some input →
          (results.take k)[j]? = some given → P input given) → P stage made)
    {k : Nat} {stage : Stage} {made : List Record} (here : t.stages[k]? = some stage)
    (given : results[k]? = some made) : P stage made := by
  obtain ⟨after, same, length, each⟩ := resume_eq_ok ran
  obtain rfl : results = after := same
  have among {j : Nat} {records : List Record} (given : results[j]? = some records) {stage : Stage}
      (here : t.stages[j]? = some stage) : (t.stages.take n)[j]? = some stage := by
    have bound := (List.getElem?_eq_some_iff.mp given).1
    rw [length, List.length_take] at bound
    rw [List.getElem?_take_of_lt (by omega), here]
  induction k using Nat.strongRecOn generalizing stage made with
  | ind k ih =>
    refine step k stage made here given (each k stage made (among given here) given) ?_
    intro j input records inputHere inputGiven
    rw [List.getElem?_take] at inputGiven
    split at inputGiven
    · rename_i before
      exact ih j before inputHere inputGiven
    · cases inputGiven

end
end Run
end StreamPlan
