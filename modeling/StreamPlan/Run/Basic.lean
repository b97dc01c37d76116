import StreamPlan.Expr.Eval
import StreamPlan.Manifest
import StreamPlan.Run.Input
import StreamPlan.Run.Record
import StreamPlan.Topology.Json

/-! Topologies run over source rows, stage by stage in recorded order. The records of every stage are
kept, and what a stage does besides producing records is read off them. -/
namespace StreamPlan

inductive RunFault where
  | noInput (position : Nat)
  | noKey (key : String) (schema : Schema)
  | rowWidth (width : Nat) (schema : Schema)
  | evaluation (error : EvalError)
deriving DecidableEq, Repr

def RunFault.message : RunFault → String
  | .noInput position => s!"missing input #{Decimal.countText position}"
  | .noKey key schema => s!"key field '{key}' not in {schema.display}"
  | .rowWidth width schema =>
    s!"row has {Decimal.countText width} values, schema {schema.display} has {Decimal.countText schema.size}"
  | .evaluation error => error.message

inductive RunError where
  | stage (stage : StageId) (fault : RunFault)
  | notEvaluated (stage input : StageId)
  | outOfRange (stage input : StageId)
deriving DecidableEq, Repr

def RunError.message : RunError → String
  | .stage id fault => s!"stage {id.display}: {fault.message}"
  | .notEvaluated id input => s!"stage {id.display} reads stage {input.display}, which has not been evaluated"
  | .outOfRange id input => s!"stage {id.display}: no records are numbered {Decimal.countText input.number}"

namespace Run

/-- A row keyed by the text of its value in the given column. -/
def keyedRow (schema : Schema) (position : Nat) (row : Row) : Except RunFault Record :=
  if row.width ≠ schema.size then .error (.rowWidth row.width schema)
  else .ok ⟨((row.get? position).map Scalar.display).getD "", row⟩

def keyed (key : String) (schema : Schema) (rows : List Row) : Except RunFault (List Record) :=
  match schema.index key with
  | none => .error (.noKey key schema)
  | some position => rows.mapM (keyedRow schema position)

def evaluated : Except EvalError α → Except RunFault α
  | .ok a => .ok a
  | .error e => .error (.evaluation e)

def filter (schema : Schema) (predicate : Expr) : List Record → Except EvalError (List Record)
  | [] => .ok []
  | record :: rest => do
    let accepted ← predicate.accepts schema record.row
    let rest ← filter schema predicate rest
    pure (if accepted then record :: rest else rest)

def projectRow (schema : Schema) (expressions : List Expr) (row : Row) : Except EvalError Row := do
  pure ⟨← expressions.mapM (Expr.eval schema row)⟩

def project (schema : Schema) (expressions : List Expr) (records : List Record) :
    Except EvalError (List Record) :=
  records.mapM fun record => do pure { record with row := ← projectRow schema expressions record.row }

/-- Each row with the row of the same key, or with nulls. -/
def joinedRows (width : Nat) (stream table : List Record) : List Row :=
  stream.map fun record => record.row ++ (rowOfKey table record.key).getD (Row.nulls width)

/-- The input at a position, which must be one of the stages evaluated so far. -/
def inputAt (topology : Topology) (results : List (List Record)) (stage : Stage) (position : Nat) :
    Except RunError Stage :=
  match stage.inputs[position]? with
  | none => .error (.stage stage.id (.noInput position))
  | some id =>
    match topology.stage? id with
    | none => .error (.notEvaluated stage.id id)
    | some input => if id.number < results.length then .ok input else .error (.notEvaluated stage.id id)

/-- The records filed under the id the input itself carries. It is the id under which the input was
found only where stages are numbered by their places. -/
def recordsOf (results : List (List Record)) (stage input : Stage) : Except RunError (List Record) :=
  match results[input.id.number]? with
  | some records => .ok records
  | none => .error (.outOfRange stage.id input.id)

def blame (stage : Stage) : Except RunFault α → Except RunError α
  | .ok a => .ok a
  | .error fault => .error (.stage stage.id fault)

def sourceRecords (data : SourceData) (stage : Stage) (topic : String) : Except RunError (List Record) := do
  let records ← blame stage (keyed stage.keyField stage.schema (data.rows topic))
  pure (if stage.kind = .table then latestPerKey records else records)

/-- The records a stage produces, given those of the stages before it. -/
def stageRecords (topology : Topology) (data : SourceData) (results : List (List Record)) (stage : Stage) :
    Except RunError (List Record) := do
  match stage.op with
  | .streamSource topic _ => sourceRecords data stage topic
  | .tableSource topic _ _ => sourceRecords data stage topic
  | .filter predicate =>
    let input ← inputAt topology results stage 0
    let records ← recordsOf results stage input
    blame stage (evaluated (filter input.schema predicate records))
  | .project expressions =>
    let input ← inputAt topology results stage 0
    let records ← recordsOf results stage input
    blame stage (evaluated (project input.schema expressions records))
  | .selectKey _ =>
    let input ← inputAt topology results stage 0
    let records ← recordsOf results stage input
    blame stage (keyed stage.keyField stage.schema (records.map (·.row)))
  | .leftJoin _ =>
    let left ← inputAt topology results stage 0
    let right ← inputAt topology results stage 1
    let streamed ← recordsOf results stage left
    let stored ← recordsOf results stage right
    blame stage (keyed stage.keyField stage.schema (joinedRows right.schema.size streamed stored))
  | .toTopic _ _ => recordsOf results stage (← inputAt topology results stage 0)
  | .print => recordsOf results stage (← inputAt topology results stage 0)

/-- The records of every stage, in recorded order. -/
def trace (topology : Topology) (data : SourceData) : Except RunError (List (List Record)) :=
  topology.stages.foldlM (fun results stage => do
    pure (results ++ [← stageRecords topology data results stage])) []

/-- Records per topic, sorted by topic. -/
abbrev Sinks := List (String × List Record)

def deliver (topic : String) (more : List Record) : Sinks → Sinks
  | [] => [(topic, more)]
  | (other, records) :: rest =>
    if topic = other then (other, records ++ more) :: rest
    else if topic < other then (topic, more) :: (other, records) :: rest
    else (other, records) :: deliver topic more rest

structure Outcome where
  sinks : Sinks
  console : List String
  rowsIn : Nat
  rowsOut : Nat
deriving DecidableEq, Repr

def Outcome.empty : Outcome := ⟨[], [], 0, 0⟩

def limited (limit : Option Nat) (records : List Record) : List Record :=
  match limit with
  | some n => records.take n
  | none => records

/-- What a stage with these records adds to the outcome. A console stage shows no more records than
the limit. -/
def Outcome.add (data : SourceData) (limit : Option Nat) (outcome : Outcome) (stage : Stage)
    (records : List Record) : Outcome :=
  match stage.op with
  | .streamSource topic _ => { outcome with rowsIn := outcome.rowsIn + (data.rows topic).length }
  | .tableSource topic _ _ => { outcome with rowsIn := outcome.rowsIn + (data.rows topic).length }
  | .toTopic topic _ =>
    { outcome with sinks := deliver topic records outcome.sinks, rowsOut := outcome.rowsOut + records.length }
  | .print =>
    { outcome with
      console := outcome.console ++ (limited limit records).map Record.display
      rowsOut := outcome.rowsOut + records.length }
  | _ => outcome

def outcomeOf (data : SourceData) (limit : Option Nat) (stages : List Stage) (results : List (List Record)) :
    Outcome :=
  (stages.zip results).foldl (fun outcome (stage, records) => outcome.add data limit stage records) .empty

end Run

/-- Runs a topology; the limit is on the records each console stage shows. -/
def Topology.run (topology : Topology) (data : SourceData) (limit : Option Nat) : Except RunError Run.Outcome := do
  let results ← Run.trace topology data
  pure (Run.outcomeOf data limit topology.stages results)

/-- The account of a run that started and finished at the given times. -/
def Run.Outcome.manifest (outcome : Run.Outcome) (topology : Topology) (started finished : Nat) : Manifest :=
  (Manifest.start topology.fingerprint started).finish finished outcome.rowsIn outcome.rowsOut

end StreamPlan
