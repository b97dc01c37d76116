import StreamPlan.Proofs.JoinKeys
import StreamPlan.Proofs.ValueTypes
import StreamPlan.Proofs.Wiring

/-! Runs over rows that fit their sources. Where the stages are wired, the rows of every stage fit its
schema, and a run can only stop at an expression that cannot be evaluated over some row. That an
expression can be evaluated is not claimed. -/
namespace StreamPlan

/-- Stages that evaluate expressions. -/
def StageOp.evaluates : StageOp → Bool
  | .filter _ | .project _ => true
  | _ => false

instance (value : Scalar) (type : DataType) : Decidable (value.HasType type) :=
  inferInstanceAs (Decidable (_ ∨ _))

instance (row : Row) (schema : Schema) : Decidable (row.Fits schema) :=
  inferInstanceAs (Decidable (List.Forall₂ _ _ _))

/-- The rows each source reads fit its schema. -/
def SourceData.Fits (data : SourceData) (t : Topology) : Prop :=
  ∀ stage ∈ t.stages, ∀ topic ∈ stage.op.sourceTopic, ∀ row ∈ data.rows topic, row.Fits stage.schema

instance (data : SourceData) (t : Topology) : Decidable (data.Fits t) :=
  inferInstanceAs (Decidable (∀ stage ∈ t.stages, ∀ topic ∈ stage.op.sourceTopic, ∀ row ∈ data.rows topic, _))

namespace Row

theorem Fits.width {row : Row} {schema : Schema} (fits : row.Fits schema) : row.width = schema.size :=
  fits.length_eq

theorem Fits.joined {left right : Row} {leftSchema rightSchema : Schema} (owner other : String)
    (leftFits : left.Fits leftSchema) (rightFits : right.Fits rightSchema) :
    (left ++ right).Fits (leftSchema.qualified owner ++ rightSchema.qualified other) := by
  refine List.rel_append ?_ ?_
  · exact List.forall₂_map_right_iff.mpr leftFits
  · exact List.forall₂_map_right_iff.mpr rightFits

theorem fits_nulls (schema : Schema) : (Row.nulls schema.size).Fits schema := by
  refine List.forall₂_iff_get.mpr ⟨by simp [Row.nulls, Schema.size], fun i bound _ => ?_⟩
  simp [Row.nulls, Scalar.hasType_null]

end Row

namespace Run

variable {t : Topology} {data : SourceData} {results : List (List Record)} {stage input : Stage}

def AllFit (records : List Record) (schema : Schema) : Prop := ∀ record ∈ records, record.row.Fits schema

/-- How a stage over fitting rows may end: with fitting rows, or for want of an expression's value. -/
def EndsTyped (stage : Stage) : Except RunError (List Record) → Prop
  | .ok made => AllFit made stage.schema
  | .error e => stage.op.evaluates = true ∧ ∃ error, e = .stage stage.id (.evaluation error)

theorem keyed_fitting {rows : List Row} (keyed : stage.Keyed) (fits : ∀ row ∈ rows, row.Fits stage.schema) :
    ∃ made, Run.keyed stage.keyField stage.schema rows = .ok made ∧ AllFit made stage.schema := by
  obtain ⟨field, found⟩ := keyed
  refine ⟨_, keyed_of_widths found fun row member => (fits row member).width, ?_⟩
  intro record member
  obtain ⟨row, inside, rfl⟩ := List.mem_map.mp member
  exact fits row inside

theorem endsTyped_keyed {rows : List Row} (keyed : stage.Keyed) (fits : ∀ row ∈ rows, row.Fits stage.schema) :
    EndsTyped stage (blame stage (Run.keyed stage.keyField stage.schema rows)) := by
  obtain ⟨made, done, fit⟩ := keyed_fitting keyed fits
  rw [done]
  exact fit

theorem endsTyped_source {topic : String} (keyed : stage.Keyed)
    (fits : ∀ row ∈ data.rows topic, row.Fits stage.schema) :
    EndsTyped stage (sourceRecords data stage topic) := by
  obtain ⟨made, done, fit⟩ := keyed_fitting keyed fits
  unfold sourceRecords
  rw [done]
  intro record member
  split at member
  · rw [latestPerKey_eq_lastPerKey] at member
    exact fit record (mem_of_mem_lastPerKey member)
  · exact fit record member

theorem endsTyped_evaluated {step : Except EvalError (List Record)} (op : stage.op.evaluates = true)
    (fits : ∀ made, step = .ok made → AllFit made stage.schema) :
    EndsTyped stage (blame stage (evaluated step)) := by
  cases step with
  | ok made => exact fits made rfl
  | error error => exact ⟨op, error, rfl⟩

theorem allFit_filter {schema : Schema} {predicate : Expr} {given made : List Record}
    (fit : AllFit given schema) (done : filter schema predicate given = .ok made) : AllFit made schema := by
  have kept : Plan.kept schema predicate given = .ok made := by
    rw [← filter_eq_kept, done]
    rfl
  exact fun record member => fit record ((Plan.sublist_of_kept kept).subset member)

/-- Every value of a projected row is that of an expression, and of its type. -/
theorem allFit_project {schema made : Schema} {expressions : List Expr} {given results : List Record}
    (fit : AllFit given schema)
    (typed : List.Forall₂ (fun e (field : Field) => e.typeOf schema = .ok field.dataType ∧ field.nullable = true)
      expressions made.fields)
    (done : project schema expressions given = .ok results) : AllFit results made := by
  have mapped : Plan.mapped schema expressions given = .ok results := by
    rw [← project_eq_mapped, done]
    rfl
  intro result member
  obtain ⟨record, inside, _, values⟩ := exists_of_mem_right (Plan.forall₂_of_mapped mapped) member
  refine forall₂_joined (mapM_eq_ok.mp values) typed fun e value field evaluated column => ?_
  exact Expr.hasType_of_eval (fit record inside).suits column.1 evaluated

theorem allFit_joinedRows {left right : Schema} (owner other : String) {streamed stored : List Record}
    (leftFit : AllFit streamed left) (rightFit : AllFit stored right) :
    ∀ row ∈ joinedRows right.size streamed stored, row.Fits (left.qualified owner ++ right.qualified other) := by
  intro row member
  obtain ⟨record, inside, rfl⟩ := List.mem_map.mp member
  refine (leftFit record inside).joined owner other ?_
  cases found : rowOfKey stored record.key with
  | none => exact Row.fits_nulls right
  | some row =>
    obtain ⟨partner, stands, _, rfl⟩ := rowOfKey_eq_some found
    exact rightFit partner stands

/-- The step: over earlier records that fit, a wired stage ends typed. -/
theorem endsTyped_stage (numbered : t.Numbered) (wired : t.Wired results.length stage)
    (rows : ∀ topic ∈ stage.op.sourceTopic, ∀ row ∈ data.rows topic, row.Fits stage.schema)
    (fit : ∀ (j : Nat) (input : Stage) (given : List Record), t.stages[j]? = some input →
      results[j]? = some given → AllFit given input.schema) :
    EndsTyped stage (stageRecords t data results stage) := by
  have read {position : Nat} {input : Stage} (found : t.earlier? results.length stage position = some input) :
      ∃ records, Reads t results stage position input records ∧ AllFit records input.schema := by
    obtain ⟨records, reads, j, here, given⟩ := reads_of_earlier numbered found
    exact ⟨records, reads, fit j input records here given⟩
  unfold Topology.Wired at wired
  cases op : stage.op with
  | streamSource topic | tableSource topic =>
    rw [op] at wired
    have source : stage.op.sourceTopic = some topic := by rw [op]; rfl
    rw [stageRecords_source source]
    exact endsTyped_source wired (rows topic source)
  | filter predicate =>
    rw [op] at wired
    obtain ⟨input, found, schema⟩ := wired
    obtain ⟨records, reads, given⟩ := read found
    rw [stageRecords_filter op reads]
    refine endsTyped_evaluated (by rw [op]; rfl) fun made done => ?_
    rw [schema]
    exact allFit_filter given done
  | project expressions =>
    rw [op] at wired
    obtain ⟨input, found, columns⟩ := wired
    obtain ⟨records, reads, given⟩ := read found
    rw [stageRecords_project op reads]
    exact endsTyped_evaluated (by rw [op]; rfl) fun made done => allFit_project given columns done
  | selectKey key =>
    rw [op] at wired
    obtain ⟨keyed, input, found, schema⟩ := wired
    obtain ⟨records, reads, given⟩ := read found
    rw [stageRecords_selectKey op reads]
    refine endsTyped_keyed keyed fun row member => ?_
    obtain ⟨record, inside, rfl⟩ := List.mem_map.mp member
    rw [schema]
    exact given record inside
  | leftJoin codec =>
    rw [op] at wired
    obtain ⟨keyed, left, found, right, also, owner, other, schema⟩ := wired
    obtain ⟨streamed, reads, leftFit⟩ := read found
    obtain ⟨stored, readsAlso, rightFit⟩ := read also
    rw [stageRecords_leftJoin op reads readsAlso]
    refine endsTyped_keyed keyed ?_
    rw [schema]
    exact allFit_joinedRows owner other leftFit rightFit
  | toTopic | print =>
    rw [op] at wired
    obtain ⟨input, found, schema⟩ := wired
    obtain ⟨records, reads, given⟩ := read found
    rw [stageRecords_terminal (by rw [op]; rfl) reads]
    change AllFit records stage.schema
    rw [schema]
    exact given

end Run

namespace Plan
open Run

theorem addressedOrders_assembled : addressedOrders.Assembled := by
  have source : orders.Assembled :=
    .source (show (Builder.source ⟨1⟩ "orders" orders.schema "id" .stream .json).1 = .ok _ by rfl)
  have table : customers.Assembled :=
    .source (show (Builder.source ⟨2⟩ "customers" customers.schema "name" .table .json).1 = .ok _ by rfl)
  have paid : paidOrders.Assembled :=
    .filter source (show (Builder.filter ⟨3⟩ orders (.column "paid")).1 = .ok _ by rfl)
  exact .join paid table
    (show (Builder.join ⟨4⟩ .left paidOrders customers "customer" "name" "o" "c").1 = .ok _ by rfl)

theorem shipments_assembled : shipments.Assembled := by
  have shipped : shippedOrders.Assembled := .projectOf addressedOrders_assembled
    (show (Builder.projectOf ⟨5⟩ addressedOrders
      [(.column "o.id", "id"), (.column "o.customer", "o.customer"), (.column "c.city", "city")]).1 =
        .ok _ by rfl)
  exact Assembled.output (b := ⟨6⟩) shipped

section
variable {plan : Plan} {config : Config} {compiled : Compiled} {data : SourceData}

/-- The records of every stage that a run comes to fit it. -/
theorem fits_records (authored : plan.Authored) (accepted : plan.compile config = .ok compiled)
    (fits : data.Fits compiled.topology) {n : Nat} {results : List (List Record)}
    (ran : resume compiled.topology data [] (compiled.topology.stages.take n) = .ok results)
    {k : Nat} {stage : Stage} {made : List Record} (here : compiled.topology.stages[k]? = some stage)
    (given : results[k]? = some made) : AllFit made stage.schema := by
  have numbered := numbered_compiled authored.assembled.built accepted
  refine records_induction (P := fun stage made => AllFit made stage.schema) ran ?_ here given
  intro k stage made here given done before
  have bound := (List.getElem?_eq_some_iff.mp given).1
  have size : (results.take k).length = k := List.length_take_of_le (Nat.le_of_lt bound)
  have wired := wired_compiled authored accepted here
  rw [← size] at wired
  have ends := endsTyped_stage numbered wired (fits stage (List.mem_of_getElem? here)) before
  rw [done] at ends
  exact ends

/-- A plan from an author, run over rows that fit its sources, can only stop at an expression without
a value; if it does not, the records of every stage fit it. -/
theorem run_typed (authored : plan.Authored) (accepted : plan.compile config = .ok compiled)
    (fits : data.Fits compiled.topology) (limit : Option Nat) :
    (∀ e, compiled.topology.run data limit = .error e →
      ∃ stage ∈ compiled.topology.stages, stage.op.evaluates = true ∧
        ∃ error, e = .stage stage.id (.evaluation error)) ∧
    ∀ outcome, compiled.topology.run data limit = .ok outcome →
      ∃ results, trace compiled.topology data = .ok results ∧
        List.Forall₂ (fun stage records => ∀ record ∈ records, record.row.Fits stage.schema)
          compiled.topology.stages results := by
  refine ⟨fun e failed => ?_, fun outcome ran => ?_⟩
  · obtain ⟨k, stage, results, here, ran, failed⟩ := trace_eq_error.mp (run_eq_error.mp failed)
    have member := List.mem_of_getElem? here
    have wired := wired_compiled authored accepted here
    rw [← length_resume here ran] at wired
    have ends := endsTyped_stage (numbered_compiled authored.assembled.built accepted) wired
      (fits stage member) fun j input given => fits_records authored accepted fits ran
    rw [failed] at ends
    exact ⟨stage, member, ends⟩
  · obtain ⟨results, ran, _⟩ := bind_eq_ok.mp ran
    have whole : resume compiled.topology data [] (compiled.topology.stages.take compiled.topology.stages.length) =
        .ok results := by
      rw [List.take_length]
      exact ran
    refine ⟨results, ran, List.forall₂_iff_get.mpr ⟨(length_trace ran).symm, fun k bound other => ?_⟩⟩
    exact fits_records authored accepted fits whole (List.getElem?_eq_getElem bound) (List.getElem?_eq_getElem other)

end

theorem shipments_typed : shipments.Authored ∧ ∃ compiled, shipments.compile .standard = .ok compiled ∧
    shipmentRows.Fits compiled.topology ∧
      (∃ outcome, compiled.topology.run shipmentRows none = .ok outcome) ∧
        ∃ results, trace compiled.topology shipmentRows = .ok results ∧
          List.Forall₂ (fun stage records => ∀ record ∈ records, record.row.Fits stage.schema)
            compiled.topology.stages results := by
  have accepted : ∃ compiled, shipments.compile .standard = .ok compiled := ⟨_, by rfl⟩
  obtain ⟨compiled, accepted⟩ := accepted
  have topology := (compile_eq_ok shipments_built.checked accepted).2
  have fits : shipmentRows.Fits compiled.topology := by
    rw [topology]
    decide
  have ran : ∃ outcome, compiled.topology.run shipmentRows none = .ok outcome := by
    rw [topology]
    exact ⟨_, by rfl⟩
  obtain ⟨outcome, ran⟩ := ran
  exact ⟨.inl shipments_assembled, compiled, accepted, fits, ⟨outcome, ran⟩,
    (run_typed (.inl shipments_assembled) accepted fits none).2 outcome ran⟩

end Plan
end StreamPlan
