import StreamPlan.Proofs.Faults
import StreamPlan.Proofs.Meaning
import StreamPlan.Proofs.Recorders
import StreamPlan.Proofs.Recording

/-! Topologies recorded call by call, whoever calls and whatever is asked for. A call records one stage
at the end or nothing, so what is so of a stage when it is recorded stays so, and a run of the whole
finds every input where it looks for it. What the rows are, and whether expressions can be evaluated
over them, is left to the run. -/
namespace StreamPlan

/-- What a caller may ask to be recorded. Nothing is asked of the arguments. -/
inductive Call where
  | stream (topic : String) (codec : Codec) (schema : Schema) (key : String)
  | table (topic : String) (codec : Codec) (store : String) (schema : Schema) (key : String)
  | filter (input : StageId) (predicate : Expr)
  | project (input : StageId) (expressions : List Expr) (schema : Schema) (key : String)
  | selectKey (input : StageId) (key : String)
  | leftJoin (left right : StageId) (schema : Schema) (key : String) (codec : Codec)
  | toTopic (input : StageId) (topic : String) (codec : Codec)
  | print (input : StageId)

namespace Call

/-- The call made on the topology that is kept. -/
def perform (call : Call) : Recorder StageId :=
  match call with
  | .stream topic codec schema key => .stream topic codec schema key
  | .table topic codec store schema key => .table topic codec store schema key
  | .filter input predicate => .filter input predicate
  | .project input expressions schema key => .project input expressions schema key
  | .selectKey input key => .selectKey input key
  | .leftJoin left right schema key codec => .leftJoin left right schema key codec
  | .toTopic input topic codec => .toTopic input topic codec
  | .print input => .print input

/-- The recording function that is called. -/
def record (call : Call) : Topology → Topology.Recorded :=
  match call with
  | .stream topic codec schema key => (·.addStream topic codec schema key)
  | .table topic codec store schema key => (·.addTable topic codec store schema key)
  | .filter input predicate => (·.addFilter input predicate)
  | .project input expressions schema key => (·.addProject input expressions schema key)
  | .selectKey input key => (·.addSelectKey input key)
  | .leftJoin left right schema key codec => (·.addLeftJoin left right schema key codec)
  | .toTopic input topic codec => (·.addToTopic input topic codec)
  | .print input => (·.addPrint input)

theorem does_perform (call : Call) : Recorder.Does call.perform call.record := by
  cases call with
  | stream topic codec schema key => exact Recorder.does_stream topic codec schema key
  | table topic codec store schema key => exact Recorder.does_table topic codec store schema key
  | filter input predicate => exact Recorder.does_after input (.filter predicate)
  | project input expressions schema key => exact Recorder.does_project input expressions schema key
  | selectKey input key => exact Recorder.does_selectKey input key
  | leftJoin left right schema key codec => exact Recorder.does_leftJoin left right schema key codec
  | toTopic input topic codec => exact Recorder.does_after input (.toTopic topic codec)
  | print input => exact Recorder.does_after input .print

/-- What compiling records with is the call itself, its complaint passed on. -/
theorem run_record_perform (call : Call) (t : Topology) : (Compiling.record call.record).run t =
    ((call.perform.run t).1.mapError CompileError.stage, (call.perform.run t).2) := by
  rw [Compiling.run_record, call.does_perform t]
  cases call.record t <;> rfl

end Call

namespace Topology

/-- The topology a call leaves behind, recorded or refused. -/
def after (t : Topology) (call : Call) : Topology := (call.perform.run t).2

def recorded (calls : List Call) : Topology := calls.foldl after .empty

def Copies (t : Topology) (k : Nat) (stage : Stage) : Prop :=
  ∃ input, t.earlier? k stage 0 = some input ∧ stage.schema = input.schema ∧
    stage.keyField = input.keyField ∧ stage.kind = input.kind

/-- What a stage has from the stages it reads, which are among the first k, and what its key is. -/
def Inherits (t : Topology) (k : Nat) (stage : Stage) : Prop :=
  match stage.op with
  | .streamSource .. => stage.keyField ∈ stage.schema.names ∧ stage.kind = .stream
  | .tableSource .. => stage.keyField ∈ stage.schema.names ∧ stage.kind = .table
  | .filter _ | .toTopic .. | .print => t.Copies k stage
  | .project _ => ∃ input, t.earlier? k stage 0 = some input ∧ stage.kind = input.kind
  | .selectKey key =>
    stage.keyField ∈ stage.schema.names ∧ key = stage.keyField ∧ stage.kind = .stream ∧
      ∃ input, t.earlier? k stage 0 = some input ∧ stage.schema = input.schema
  | .leftJoin _ =>
    stage.keyField ∈ stage.schema.names ∧ stage.kind = .stream ∧
      ∃ left right, t.earlier? k stage 0 = some left ∧ t.earlier? k stage 1 = some right ∧
        right.kind = .table

structure Stands (t : Topology) (k : Nat) (stage : Stage) : Prop where
  number : stage.id = ⟨k⟩
  before : ∀ id ∈ stage.inputs, id.number < k
  arity : stage.inputs.length = stage.op.arity
  inherits : t.Inherits k stage

variable {t u : Topology} {k position : Nat} {stage input : Stage} {call : Call}

theorem earlier?_append (found : t.earlier? k stage position = some input) (more : List Stage) :
    earlier? ⟨t.stages ++ more⟩ k stage position = some input := by
  obtain ⟨id, named, before, here⟩ := earlier?_eq_some.mp found
  apply earlier?_eq_some.mpr
  refine ⟨id, named, before, ?_⟩
  rw [List.getElem?_append_left (List.getElem?_eq_some_iff.mp here).1]
  exact here

theorem Inherits.append (inherits : t.Inherits k stage) (more : List Stage) :
    Inherits ⟨t.stages ++ more⟩ k stage := by
  unfold Inherits at inherits ⊢
  cases op : stage.op with
  | streamSource | tableSource =>
    rw [op] at inherits
    exact inherits
  | filter | project | toTopic | print =>
    rw [op] at inherits
    obtain ⟨input, found, same⟩ := inherits
    exact ⟨input, earlier?_append found more, same⟩
  | selectKey =>
    rw [op] at inherits
    obtain ⟨keyed, key, kind, input, found, schema⟩ := inherits
    exact ⟨keyed, key, kind, input, earlier?_append found more, schema⟩
  | leftJoin =>
    rw [op] at inherits
    obtain ⟨keyed, kind, left, right, found, also, table⟩ := inherits
    exact ⟨keyed, kind, left, right, earlier?_append found more, earlier?_append also more, table⟩

theorem Stands.append (stands : t.Stands k stage) (more : List Stage) : Stands ⟨t.stages ++ more⟩ k stage :=
  ⟨stands.number, stands.before, stands.arity, stands.inherits.append more⟩

/-- A stage pushed with inputs that are there finds them among the stages before it. -/
theorem earlier?_pushed {id : StageId} {op : StageOp} {inputs : List StageId} {schema : Schema}
    {keyField : String} {kind : Mode} (named : inputs[position]? = some id)
    (here : t.stages[id.number]? = some input) :
    earlier? (t.push op inputs schema keyField kind).2 t.size
      ⟨t.nextId, op, inputs, schema, keyField, kind⟩ position = some input := by
  apply earlier?_append
  apply earlier?_eq_some.mpr
  exact ⟨id, named, (List.getElem?_eq_some_iff.mp here).1, here⟩

/-- What a call can do: if it is not refused, it records one stage at the end, and that stands there. -/
theorem record_stands {id : StageId} (done : call.record t = .ok (id, u)) :
    id = t.nextId ∧ ∃ stage, u = ⟨t.stages ++ [stage]⟩ ∧ u.Stands t.size stage := by
  have within {id : StageId} {stage : Stage} (here : t.stages[id.number]? = some stage) : id.number < t.size :=
    (List.getElem?_eq_some_iff.mp here).1
  cases call with
  | stream topic codec schema key =>
    obtain ⟨field, found, pushed⟩ := addStream_eq_ok.mp done
    cases pushed
    exact ⟨rfl, _, rfl, rfl, by simp, rfl, Schema.mem_names_of_find found, rfl⟩
  | table topic codec store schema key =>
    obtain ⟨field, found, pushed⟩ := addTable_eq_ok.mp done
    cases pushed
    exact ⟨rfl, _, rfl, rfl, by simp, rfl, Schema.mem_names_of_find found, rfl⟩
  | filter input predicate =>
    obtain ⟨parent, here, pushed⟩ := addAfter_eq_ok.mp done
    cases pushed
    exact ⟨rfl, _, rfl, rfl, by simpa using within here, rfl, parent, earlier?_pushed rfl here, rfl, rfl, rfl⟩
  | project input expressions schema key =>
    obtain ⟨parent, here, pushed⟩ := addProject_eq_ok.mp done
    cases pushed
    exact ⟨rfl, _, rfl, rfl, by simpa using within here, rfl, parent, earlier?_pushed rfl here, rfl⟩
  | selectKey input key =>
    obtain ⟨parent, here, field, found, pushed⟩ := addSelectKey_eq_ok.mp done
    cases pushed
    refine ⟨rfl, _, rfl, rfl, by simpa using within here, rfl, Schema.mem_names_of_find found, rfl, rfl, ?_⟩
    exact ⟨parent, earlier?_pushed rfl here, rfl⟩
  | leftJoin left right schema key codec =>
    obtain ⟨first, second, here, there, kind, field, found, pushed⟩ := addLeftJoin_eq_ok.mp done
    cases pushed
    refine ⟨rfl, _, rfl, rfl, ?_, rfl, Schema.mem_names_of_find found, rfl, ?_⟩
    · simpa using ⟨within here, within there⟩
    · exact ⟨first, second, earlier?_pushed rfl here, earlier?_pushed rfl there, kind⟩
  | toTopic input topic codec =>
    obtain ⟨parent, here, pushed⟩ := addAfter_eq_ok.mp done
    cases pushed
    exact ⟨rfl, _, rfl, rfl, by simpa using within here, rfl, parent, earlier?_pushed rfl here, rfl, rfl, rfl⟩
  | print input =>
    obtain ⟨parent, here, pushed⟩ := addAfter_eq_ok.mp done
    cases pushed
    exact ⟨rfl, _, rfl, rfl, by simpa using within here, rfl, parent, earlier?_pushed rfl here, rfl, rfl, rfl⟩

theorem after_eq_record (t : Topology) (call : Call) :
    t.after call = ((Compiling.record call.record).run t).2 :=
  congrArg Prod.snd (call.run_record_perform t).symm

theorem after_eq (t : Topology) (call : Call) :
    t.after call = t ∨ ∃ stage, t.after call = ⟨t.stages ++ [stage]⟩ ∧ (t.after call).Stands t.size stage := by
  unfold after
  rw [call.does_perform t]
  cases done : call.record t with
  | error e => exact .inl rfl
  | ok made =>
    obtain ⟨id, u⟩ := made
    obtain ⟨_, stage, same, stands⟩ := record_stands done
    exact .inr ⟨stage, same, stands⟩

/-- Each stage stands where it was recorded, however many calls came after it. -/
theorem stands_foldl (calls : List Call) (standing : ∀ k stage, t.stages[k]? = some stage → t.Stands k stage) :
    ∀ k stage, (calls.foldl after t).stages[k]? = some stage → (calls.foldl after t).Stands k stage := by
  -- on the calls still to come, from any topology whose stages stand
  induction calls generalizing t with
  | nil => exact standing
  | cons call rest ih =>
    apply ih
    intro k stage here
    rcases after_eq t call with same | ⟨made, same, stands⟩
    · rw [same] at here ⊢
      exact standing k stage here
    · rw [same] at here ⊢
      rcases Nat.lt_or_ge k t.size with before | own
      · rw [List.getElem?_append_left before] at here
        exact (standing k stage here).append [made]
      · have last : k = t.size := by
          have bound := (List.getElem?_eq_some_iff.mp here).1
          simp only [List.length_append, List.length_singleton, size] at bound own ⊢
          omega
        subst last
        cases (List.getElem?_concat_length (l := t.stages)).symm.trans here
        exact same ▸ stands

theorem numbered_of_stands (standing : ∀ k stage, t.stages[k]? = some stage → t.Stands k stage) : t.Numbered :=
  fun k stage here => (standing k stage here).number

end Topology

/-- The complaint is of a row at a stage, not of how the stages were recorded: no input is missing, and
no key column is. -/
def RunError.OfRows : RunError → Prop
  | .stage _ (.rowWidth ..) | .stage _ (.evaluation _) => True
  | .stage _ (.noInput _) | .stage _ (.noKey ..) | .notEvaluated .. | .outOfRange .. => False

namespace Run

variable {t : Topology} {data : SourceData} {results : List (List Record)} {stage : Stage} {e : RunError}

theorem keyed_ofRows {rows : List Row} (keyed : stage.keyField ∈ stage.schema.names)
    (failed : blame stage (Run.keyed stage.keyField stage.schema rows) = .error e) : e.OfRows := by
  obtain ⟨field, found⟩ := Schema.find_of_mem_names keyed
  rw [keyed_eq_arrive found] at failed
  cases each : rows.mapM (Row.arrive stage.schema stage.keyField) with
  | ok =>
    rw [each] at failed
    cases failed
  | error fault =>
    rw [each] at failed
    cases failed
    obtain ⟨row, _, refused⟩ := exists_of_mapM_eq_error each
    unfold Row.arrive at refused
    split at refused
    · cases refused
    · cases refused
      trivial

theorem evaluated_ofRows {step : Except EvalError (List Record)}
    (failed : blame stage (evaluated step) = .error e) : e.OfRows := by
  cases step with
  | ok => cases failed
  | error => cases failed; trivial

theorem source_ofRows {topic : String} (keyed : stage.keyField ∈ stage.schema.names)
    (failed : sourceRecords data stage topic = .error e) : e.OfRows := by
  rcases bind_eq_error.mp failed with failed | ⟨_, _, failed⟩
  · exact keyed_ofRows keyed failed
  · cases failed

/-- A stage that stands finds its inputs and their records, so it can only complain of a row. -/
theorem stageRecords_ofRows (numbered : t.Numbered) (stands : t.Stands results.length stage)
    (failed : stageRecords t data results stage = .error e) : e.OfRows := by
  have inherits := stands.inherits
  unfold Topology.Inherits at inherits
  cases op : stage.op with
  | streamSource topic codec | tableSource topic codec store =>
    have source : stage.op.sourceTopic = some topic := by rw [op]; rfl
    rw [op] at inherits
    rw [stageRecords_source source] at failed
    exact source_ofRows inherits.1 failed
  | filter predicate =>
    rw [op] at inherits
    obtain ⟨input, found, _⟩ := inherits
    obtain ⟨records, reads, _⟩ := reads_of_earlier numbered found
    rw [stageRecords_filter op reads] at failed
    exact evaluated_ofRows failed
  | project expressions =>
    rw [op] at inherits
    obtain ⟨input, found, _⟩ := inherits
    obtain ⟨records, reads, _⟩ := reads_of_earlier numbered found
    rw [stageRecords_project op reads] at failed
    exact evaluated_ofRows failed
  | selectKey key =>
    rw [op] at inherits
    obtain ⟨keyed, _, _, input, found, _⟩ := inherits
    obtain ⟨records, reads, _⟩ := reads_of_earlier numbered found
    rw [stageRecords_selectKey op reads] at failed
    exact keyed_ofRows keyed failed
  | leftJoin codec =>
    rw [op] at inherits
    obtain ⟨keyed, _, left, right, found, also, _⟩ := inherits
    obtain ⟨streamed, reads, _⟩ := reads_of_earlier numbered found
    obtain ⟨stored, readsAlso, _⟩ := reads_of_earlier numbered also
    rw [stageRecords_leftJoin op reads readsAlso] at failed
    exact keyed_ofRows keyed failed
  | toTopic topic codec | print =>
    rw [op] at inherits
    obtain ⟨input, found, _⟩ := inherits
    obtain ⟨records, reads, _⟩ := reads_of_earlier numbered found
    rw [stageRecords_terminal (by rw [op]; rfl) reads] at failed
    cases failed

/-- A run whose stages all stand stops at the first stage that fails, over a row of it. -/
theorem run_ofRows {limit : Option Nat} (standing : ∀ k stage, t.stages[k]? = some stage → t.Stands k stage)
    (failed : t.run data limit = .error e) : e.OfRows := by
  obtain ⟨k, stage, results, here, ran, failed⟩ := trace_eq_error.mp (run_eq_error.mp failed)
  have stands := standing k stage here
  rw [← length_resume here ran] at stands
  exact stageRecords_ofRows (Topology.numbered_of_stands standing) stands failed

end Run

namespace Topology

/-- Whatever is called: every stage stands where it was recorded, a call that is refused leaves the
topology as it was and any other puts one stage after those that are there, and a run never looks for
an input in vain. -/
theorem recorded_stands (calls : List Call) :
    (∀ k stage, (recorded calls).stages[k]? = some stage → (recorded calls).Stands k stage) ∧
    (∀ (call : Call) (e : StageError) (u : Topology), call.perform.run (recorded calls) = (.error e, u) →
      recorded (calls ++ [call]) = u ∧ u = recorded calls) ∧
    (∀ (call : Call) (id : StageId) (u : Topology), call.perform.run (recorded calls) = (.ok id, u) →
      recorded (calls ++ [call]) = u ∧
        ∃ stage, stage.id = id ∧ u.stages = (recorded calls).stages ++ [stage]) ∧
    ∀ data limit e, (recorded calls).run data limit = .error e → e.OfRows := by
  have standing := stands_foldl (t := .empty) calls (fun k stage here => by cases here)
  have next (call : Call) : recorded (calls ++ [call]) = (call.perform.run (recorded calls)).2 := by
    unfold recorded
    rw [List.foldl_append]
    rfl
  refine ⟨standing, ?_, ?_, fun data limit e => Run.run_ofRows standing⟩
  · intro call e u refused
    refine ⟨?_, (call.does_perform.refused_iff.mp refused).2⟩
    rw [next, refused]
  · intro call id u made
    obtain ⟨number, stage, same, stands⟩ := record_stands (call.does_perform.made_iff.mp made)
    refine ⟨?_, stage, stands.number.trans number.symm, by rw [same]⟩
    rw [next, made]

/-- Two calls are refused: there is no stage to filter yet, and a stream cannot be joined against. -/
def attempts : List Call :=
  let schema : Schema := ⟨[⟨"Id", .int32, false⟩]⟩
  [.filter ⟨0⟩ (.column "Id"), .stream "orders" .json schema "id", .leftJoin ⟨0⟩ ⟨0⟩ schema "id" .json,
    .print ⟨0⟩]

theorem attempts_stand : (recorded attempts).size = 2 ∧ recorded (attempts ++ [.print ⟨2⟩]) = recorded attempts ∧
    (∃ stage, stage.id = ⟨2⟩ ∧
      (recorded (attempts ++ [.print ⟨0⟩])).stages = (recorded attempts).stages ++ [stage]) ∧
    ∀ k stage, (recorded attempts).stages[k]? = some stage → (recorded attempts).Stands k stage := by
  obtain ⟨standing, refused, made, _⟩ := recorded_stands attempts
  refine ⟨by rfl, ?_, ?_, standing⟩
  · have stopped : (Call.print ⟨2⟩).perform.run (recorded attempts) =
        (.error (.unknownStage ⟨2⟩), recorded attempts) := by rfl
    exact (refused _ _ _ stopped).1
  · have given : (Call.print ⟨0⟩).perform.run (recorded attempts) =
        (.ok ⟨2⟩, (recorded attempts).after (.print ⟨0⟩)) := by rfl
    obtain ⟨same, stage, number, stages⟩ := made _ _ _ given
    exact ⟨stage, number, same ▸ stages⟩

end Topology
end StreamPlan
