import StreamPlan.Proofs.Simulation

/-! Where record keys come from. Sources, rekeyings and joins make the key of a record from its own
row; filters and outputs pass records on; a projection maps the row and keeps the key, so that the
key is in its rows only where it copies a column the key was in. -/
namespace StreamPlan

/-- The text in the column is the key of each record. -/
def KeyedAt (records : List Record) (position : Nat) : Prop :=
  ∀ record ∈ records, (record.row.get? position).map Scalar.display = some record.key

namespace StageOp

def makesKeys : StageOp → Bool
  | .streamSource .. | .tableSource .. | .selectKey _ | .leftJoin _ => true
  | _ => false

def passesOn : StageOp → Bool
  | .filter _ | .toTopic .. | .print => true
  | _ => false

/-- Stages that go on with the rows of their first input under new keys. -/
def rekeys : StageOp → Bool
  | .selectKey _ | .leftJoin _ => true
  | _ => false

end StageOp

namespace Topology

def Feeds (t : Topology) (stage : Stage) (position : Nat) (input : Stage) : Prop :=
  ∃ id, stage.inputs[position]? = some id ∧ t.stages[id.number]? = some input

/-- By the stages alone, the column holds the record keys: it is the one the keys were made from, or
a copy of a column that held them. A column beside the new key column goes on holding the keys if
both held them before. -/
inductive CarriesKey (t : Topology) : Stage → Nat → Prop where
  | made {stage : Stage} {position : Nat} (op : stage.op.makesKeys = true)
      (column : stage.schema.index stage.keyField = some position) : CarriesKey t stage position
  | beside {stage input : Stage} {position other : Nat} (op : stage.op.rekeys = true)
      (column : stage.schema.index stage.keyField = some position) (feeds : t.Feeds stage 0 input)
      (held : CarriesKey t input position) (also : CarriesKey t input other) : CarriesKey t stage other
  | passed {stage input : Stage} {position : Nat} (op : stage.op.passesOn = true)
      (feeds : t.Feeds stage 0 input) (held : CarriesKey t input position) : CarriesKey t stage position
  | copied {stage input : Stage} {position origin : Nat} {name : String} {expressions : List Expr}
      (op : stage.op = .project expressions) (item : expressions[position]? = some (.column name))
      (feeds : t.Feeds stage 0 input) (column : input.schema.index name = some origin)
      (held : CarriesKey t input origin) : CarriesKey t stage position

end Topology

namespace Run

theorem keyedAt_keyed {schema : Schema} {key : String} {position : Nat} {rows : List Row}
    {records : List Record} (column : schema.index key = some position)
    (done : keyed key schema rows = .ok records) : KeyedAt records position := by
  simp only [keyed, column] at done
  intro record member
  obtain ⟨row, _, made⟩ := exists_of_mem_right (mapM_eq_ok.mp done) member
  obtain ⟨fits, made⟩ := refused_eq_ok.mp made
  cases made
  have bound : position < row.values.length := by
    rw [show row.values.length = schema.size from not_not.mp fits]
    exact Schema.index_lt column
  simp [Row.get?, List.getElem?_eq_getElem bound]

theorem rows_of_keyed {schema : Schema} {key : String} {rows : List Row} {records : List Record}
    (done : keyed key schema rows = .ok records) :
    List.Forall₂ (fun row record => record.row = row) rows records := by
  unfold keyed at done
  split at done
  · cases done
  · refine (mapM_eq_ok.mp done).imp fun row record made => ?_
    obtain ⟨_, made⟩ := refused_eq_ok.mp made
    cases made
    rfl

theorem get?_append_left {row : Row} {position : Nat} {value : Scalar}
    (here : row.get? position = some value) (more : Row) : (row ++ more).get? position = some value := by
  have bound := (List.getElem?_eq_some_iff.mp here).1
  exact (List.getElem?_append_left bound).trans here

/-- A stage that keys longer rows by a column that held the keys leaves every key as it was. -/
theorem keyedAt_beside {given made : List Record} {position other : Nat}
    (longer : List.Forall₂ (fun record result => ∃ more, result.row = record.row ++ more) given made)
    (keyed : KeyedAt made position) (held : KeyedAt given position) (also : KeyedAt given other) :
    KeyedAt made other := by
  intro result member
  obtain ⟨record, inside, more, row⟩ := exists_of_mem_right longer member
  obtain ⟨old, oldHere, oldText⟩ := Option.map_eq_some_iff.mp (held record inside)
  obtain ⟨value, here, text⟩ := Option.map_eq_some_iff.mp (also record inside)
  have key := keyed result member
  rw [row, get?_append_left oldHere more] at key
  rw [row, get?_append_left here more, ← key]
  simp [text, oldText]

theorem keyedAt_mapped {schema : Schema} {expressions : List Expr} {given made : List Record}
    {position origin : Nat} {name : String} (done : Plan.mapped schema expressions given = .ok made)
    (item : expressions[position]? = some (.column name)) (column : schema.index name = some origin)
    (held : KeyedAt given origin) : KeyedAt made position := by
  intro result member
  obtain ⟨record, inside, key, values⟩ := exists_of_mem_right (Plan.forall₂_of_mapped done) member
  obtain ⟨value, here, evaluated⟩ := exists_of_getElem?_left (mapM_eq_ok.mp values) item
  obtain ⟨old, oldHere, text⟩ := Option.map_eq_some_iff.mp (held record inside)
  simp only [Expr.eval, column, oldHere, Option.getD_some] at evaluated
  cases evaluated
  rw [key, ← text, Row.get?, here]
  rfl

section
variable {t : Topology} {data : SourceData} {results : List (List Record)}

theorem getElem?_of_take {k i : Nat} {records : List Record}
    (here : (results.take k)[i]? = some records) : results[i]? = some records := by
  rw [List.getElem?_take] at here
  split at here
  · exact here
  · cases here

theorem read_of_reads (numbered : t.Numbered) {k position : Nat} {stage input other : Stage}
    {given : List Record} (feeds : t.Feeds stage position input)
    (reads : Reads t (results.take k) stage position other given) :
    input = other ∧ ∃ j : Nat, t.stages[j]? = some input ∧ results[j]? = some given := by
  obtain ⟨id, named, recorded⟩ := feeds
  obtain ⟨read, readNamed, readRecorded, given⟩ := (reads_iff numbered).mp reads
  cases named.symm.trans readNamed
  cases recorded.symm.trans readRecorded
  exact ⟨rfl, id.number, recorded, getElem?_of_take given⟩

/-- What a stage of a finished run reads first: the stage that its first input names, and the records of
that stage. -/
def Draws (t : Topology) (results : List (List Record)) (stage input : Stage) (given : List Record) : Prop :=
  ∃ id, stage.inputs[0]? = some id ∧ t.stages[id.number]? = some input ∧ results[id.number]? = some given

theorem exists_draws (numbered : t.Numbered) {k : Nat} {stage : Stage} {made : List Record}
    (done : stageRecords t data (results.take k) stage = .ok made) (op : stage.op.isSource = false) :
    ∃ input given, Reads t (results.take k) stage 0 input given ∧ Draws t results stage input given := by
  obtain ⟨input, given, reads⟩ := exists_reads done op
  obtain ⟨id, named, recorded, earlier⟩ := (reads_iff numbered).mp reads
  exact ⟨input, given, reads, id, named, recorded, getElem?_of_take earlier⟩

theorem keyedAt_source {stage : Stage} {topic : String} {records : List Record} {position : Nat}
    (column : stage.schema.index stage.keyField = some position)
    (done : sourceRecords data stage topic = .ok records) : KeyedAt records position := by
  obtain ⟨arrived, keyed, kept⟩ := bind_eq_ok.mp done
  have held := keyedAt_keyed column (blame_eq_ok.mp keyed)
  cases kept
  intro record member
  split at member
  · rw [latestPerKey_eq_lastPerKey] at member
    exact held record (mem_of_mem_lastPerKey member)
  · exact held record member

/-- What a rekeying or a join makes of the records of its first input: the same rows, or longer ones,
keyed by its key column. -/
theorem keyed_of_rekeys {stage input : Stage} {given made : List Record} (op : stage.op.rekeys = true)
    (reads : Reads t results stage 0 input given) (done : stageRecords t data results stage = .ok made) :
    (∃ rows, keyed stage.keyField stage.schema rows = .ok made) ∧
      List.Forall₂ (fun record result => ∃ more, result.row = record.row ++ more) given made := by
  cases kind : stage.op with
  | selectKey key =>
    rw [stageRecords_selectKey kind reads, blame_eq_ok] at done
    have rows := List.forall₂_map_left_iff.mp (rows_of_keyed done)
    refine ⟨⟨_, done⟩, rows.imp fun record result same => ⟨⟨[]⟩, ?_⟩⟩
    rw [same]
    exact congrArg Row.mk (List.append_nil _).symm
  | leftJoin codec =>
    obtain ⟨right, stored, also⟩ := exists_reads_right done kind
    rw [stageRecords_leftJoin kind reads also, blame_eq_ok] at done
    have rows := List.forall₂_map_left_iff.mp (rows_of_keyed done)
    exact ⟨⟨_, done⟩, rows.imp fun record result same => ⟨_, same⟩⟩
  | streamSource | tableSource | filter | project | toTopic | print =>
    simp [kind, StageOp.rekeys] at op

theorem keyedAt_made {stage : Stage} {made : List Record} {position : Nat}
    (op : stage.op.makesKeys = true) (column : stage.schema.index stage.keyField = some position)
    (done : stageRecords t data results stage = .ok made) : KeyedAt made position := by
  have rekeyed (rekeys : stage.op.rekeys = true) (source : stage.op.isSource = false) :
      KeyedAt made position := by
    obtain ⟨input, given, reads⟩ := exists_reads done source
    obtain ⟨⟨rows, keyed⟩, _⟩ := keyed_of_rekeys rekeys reads done
    exact keyedAt_keyed column keyed
  cases kind : stage.op with
  | streamSource | tableSource =>
    rw [stageRecords_source (by rw [kind]; rfl)] at done
    exact keyedAt_source column done
  | selectKey | leftJoin => exact rekeyed (by rw [kind]; rfl) (by rw [kind]; rfl)
  | filter | project | toTopic | print => simp [kind, StageOp.makesKeys] at op

theorem subset_of_passesOn {stage input : Stage} {given made : List Record}
    (op : stage.op.passesOn = true) (reads : Reads t results stage 0 input given)
    (done : stageRecords t data results stage = .ok made) : made ⊆ given := by
  cases kind : stage.op with
  | filter predicate =>
    rw [stageRecords_filter kind reads, filter_eq_kept, blame_eq_ok] at done
    exact (Plan.sublist_of_kept done).subset
  | toTopic | print =>
    rw [stageRecords_terminal (by rw [kind]; rfl) reads] at done
    cases done
    exact List.Subset.refl _
  | streamSource | tableSource | project | selectKey | leftJoin => simp [kind, StageOp.passesOn] at op

theorem keyedAt_passed {stage input : Stage} {given made : List Record} {position : Nat}
    (op : stage.op.passesOn = true) (reads : Reads t results stage 0 input given)
    (done : stageRecords t data results stage = .ok made) (held : KeyedAt given position) :
    KeyedAt made position :=
  fun record member => held record (subset_of_passesOn op reads done member)

theorem keyedAt_copied {stage input : Stage} {expressions : List Expr} {given made : List Record}
    {position origin : Nat} {name : String} (op : stage.op = .project expressions)
    (reads : Reads t results stage 0 input given) (done : stageRecords t data results stage = .ok made)
    (item : expressions[position]? = some (.column name)) (column : input.schema.index name = some origin)
    (held : KeyedAt given origin) : KeyedAt made position := by
  rw [stageRecords_project op reads, project_eq_mapped, blame_eq_ok] at done
  exact keyedAt_mapped done item column held

theorem isSource_of_passesOn {op : StageOp} (passes : op.passesOn = true) : op.isSource = false := by
  cases op <;> first | rfl | cases passes

theorem isSource_of_rekeys {op : StageOp} (rekeys : op.rekeys = true) : op.isSource = false := by
  cases op <;> first | rfl | cases rekeys

/-- In a finished run a column that holds the record keys does so in every record. -/
theorem keyedAt_of_carriesKey (numbered : t.Numbered) (ran : trace t data = .ok results)
    {stage : Stage} {position : Nat} (held : t.CarriesKey stage position) {k : Nat} {records : List Record}
    (recorded : t.stages[k]? = some stage) (given : results[k]? = some records) :
    KeyedAt records position := by
  -- on why the column holds the keys: an input is another stage, whose records are again arbitrary
  induction held generalizing k records with
  | made op column => exact keyedAt_made op column (stageRecords_of_trace ran recorded given)
  | beside op column feeds _ _ heldIh alsoIh =>
    have done := stageRecords_of_trace ran recorded given
    obtain ⟨_, before, reads⟩ := exists_reads done (isSource_of_rekeys op)
    obtain ⟨rfl, j, place, earlier⟩ := read_of_reads numbered feeds reads
    obtain ⟨⟨rows, keyed⟩, longer⟩ := keyed_of_rekeys op reads done
    exact keyedAt_beside longer (keyedAt_keyed column keyed) (heldIh place earlier) (alsoIh place earlier)
  | passed op feeds _ ih =>
    have done := stageRecords_of_trace ran recorded given
    obtain ⟨_, before, reads⟩ := exists_reads done (isSource_of_passesOn op)
    obtain ⟨rfl, j, place, earlier⟩ := read_of_reads numbered feeds reads
    exact keyedAt_passed op reads done (ih place earlier)
  | copied op item feeds column _ ih =>
    have done := stageRecords_of_trace ran recorded given
    obtain ⟨_, before, reads⟩ := exists_reads done (by rw [op]; rfl)
    obtain ⟨rfl, j, place, earlier⟩ := read_of_reads numbered feeds reads
    exact keyedAt_copied op reads done item column (ih place earlier)

theorem exists_keyColumn {stage : Stage} {made : List Record} (op : stage.op.makesKeys = true)
    (done : stageRecords t data results stage = .ok made) :
    ∃ position, stage.schema.index stage.keyField = some position := by
  have column {rows : List Row} {records : List Record}
      (done : keyed stage.keyField stage.schema rows = .ok records) :
      ∃ position, stage.schema.index stage.keyField = some position := by
    unfold keyed at done
    split at done
    · cases done
    · exact ⟨_, ‹_›⟩
  have rekeyed (rekeys : stage.op.rekeys = true) :
      ∃ position, stage.schema.index stage.keyField = some position := by
    obtain ⟨_, _, reads⟩ := exists_reads done (isSource_of_rekeys rekeys)
    obtain ⟨⟨_, keyed⟩, _⟩ := keyed_of_rekeys rekeys reads done
    exact column keyed
  cases kind : stage.op with
  | streamSource | tableSource =>
    rw [stageRecords_source (by rw [kind]; rfl)] at done
    obtain ⟨_, keyed, _⟩ := bind_eq_ok.mp done
    exact column (blame_eq_ok.mp keyed)
  | selectKey | leftJoin => exact rekeyed (by rw [kind]; rfl)
  | filter | project | toTopic | print => simp [kind, StageOp.makesKeys] at op

theorem keys_of_project {stage input : Stage} {expressions : List Expr} {given made : List Record}
    (op : stage.op = .project expressions) (reads : Reads t results stage 0 input given)
    (done : stageRecords t data results stage = .ok made) : made.map (·.key) = given.map (·.key) := by
  rw [stageRecords_project op reads, project_eq_mapped, blame_eq_ok] at done
  exact Plan.keys_of_mapped done

end
end Run

namespace Plan

/-- In a run of a compiled plan the key of a record is the text of its key column wherever that
column holds the keys, which it does where keys are made. Filters and outputs leave the columns that do
as they are; a projection keeps the keys it is given, and they are in the copies of such columns. -/
theorem key_of_keyColumn {plan : Plan} {config : Config} {compiled : Compiled} (built : plan.Built)
    (accepted : plan.compile config = .ok compiled) {data : SourceData} {results : List (List Record)}
    (ran : Run.trace compiled.topology data = .ok results) {k : Nat} {stage : Stage}
    {records : List Record} (recorded : compiled.topology.stages[k]? = some stage)
    (given : results[k]? = some records) :
    (∀ position, stage.schema.index stage.keyField = some position →
        compiled.topology.CarriesKey stage position → KeyedAt records position) ∧
      (stage.op.makesKeys = true → ∃ position, stage.schema.index stage.keyField = some position ∧
        compiled.topology.CarriesKey stage position ∧ KeyedAt records position) ∧
      (stage.op.passesOn = true → ∃ input before, Run.Draws compiled.topology results stage input before ∧
        ∀ position, KeyedAt before position → KeyedAt records position) ∧
      ∀ expressions, stage.op = .project expressions → ∃ input before,
        Run.Draws compiled.topology results stage input before ∧
          records.map (·.key) = before.map (·.key) ∧
            ∀ position name origin, expressions[position]? = some (.column name) →
              input.schema.index name = some origin → KeyedAt before origin → KeyedAt records position := by
  have numbered := numbered_compiled built accepted
  have done := Run.stageRecords_of_trace ran recorded given
  have keyed {position : Nat} (held : compiled.topology.CarriesKey stage position) : KeyedAt records position :=
    Run.keyedAt_of_carriesKey numbered ran held recorded given
  refine ⟨fun position _ held => keyed held, ?_, ?_, ?_⟩
  · intro op
    obtain ⟨position, column⟩ := Run.exists_keyColumn op done
    exact ⟨position, column, .made op column, keyed (.made op column)⟩
  · intro op
    obtain ⟨input, before, reads, draws⟩ := Run.exists_draws numbered done (Run.isSource_of_passesOn op)
    exact ⟨input, before, draws, fun position held => Run.keyedAt_passed op reads done held⟩
  · intro expressions op
    obtain ⟨input, before, reads, draws⟩ := Run.exists_draws numbered done (by rw [op]; rfl)
    exact ⟨input, before, draws, Run.keys_of_project op reads done,
      fun position name origin item column held => Run.keyedAt_copied op reads done item column held⟩

theorem shipments_keyed : shipments.Built ∧ ∃ compiled, shipments.compile .standard = .ok compiled ∧
    ∃ results, Run.trace compiled.topology shipmentRows = .ok results ∧
      compiled.topology.stages[5]? = some (shippedOrders.stage .standard 0) ∧
        compiled.topology.CarriesKey (shippedOrders.stage .standard 0) 1 ∧
          results[5]? = some shipped ∧ KeyedAt shipped 1 := by
  have accepted : ∃ compiled, shipments.compile .standard = .ok compiled := ⟨_, by rfl⟩
  obtain ⟨compiled, accepted⟩ := accepted
  have topology := (compile_eq_ok shipments_built.checked accepted).2
  have ran : ∃ results, Run.trace compiled.topology shipmentRows = .ok results ∧
      results[5]? = some shipped := by
    rw [topology]
    exact ⟨_, by rfl, by rfl⟩
  obtain ⟨results, ran, given⟩ := ran
  have recorded : compiled.topology.stages[5]? = some (shippedOrders.stage .standard 0) := by
    rw [topology]
    rfl
  have held : compiled.topology.CarriesKey (shippedOrders.stage .standard 0) 1 := by
    have key : (addressedOrders.stage .standard 0).schema.index "o.customer" = some 1 := by decide
    rw [topology]
    exact .copied rfl rfl ⟨_, rfl, rfl⟩ key (.made rfl key)
  exact ⟨shipments_built, compiled, accepted, results, ran, recorded, held, given,
    (key_of_keyColumn shipments_built accepted ran recorded given).1 1 (by decide) held⟩

/-- Orders under the column name of their number, with the customer in it. -/
def relabelled : Plan :=
  .output ⟨3⟩ (.project ⟨2⟩ orders ⟨[⟨"id", .utf8, true⟩]⟩ [.column "customer"]) (.topic "out")

theorem relabelled_not_keyed : ¬ ∀ (plan : Plan) (config : Config) (compiled : Compiled) (data : SourceData)
    (results : List (List Record)) (k : Nat) (stage : Stage) (records : List Record) (position : Nat),
    plan.Built → plan.compile config = .ok compiled → Run.trace compiled.topology data = .ok results →
      compiled.topology.stages[k]? = some stage → results[k]? = some records →
        stage.schema.index stage.keyField = some position → KeyedAt records position := by
  intro claim
  have built : relabelled.Built :=
    .output (.projectOf orders_built
      (show newProjectOf ⟨2⟩ orders [(.column "customer", "id")] = .ok _ by rfl))
  have keyed := claim relabelled .standard _ shipmentRows _ 1 _ _ 0 built (by rfl) (by rfl) (by rfl)
    (by rfl) (by rfl)
  have first := keyed _ List.mem_cons_self
  revert first
  decide

end Plan
end StreamPlan
