import StreamPlan.Proofs.Nodes
import StreamPlan.Proofs.Tables
import StreamPlan.Proofs.Trace

/-! What a plan means for the rows of its topics, by recursion on the plan alone, with no stages and
no order of running. A filter or a projection leaves record keys as they are; sources and joins make
them from the rows. -/
namespace StreamPlan

def Row.textOf (schema : Schema) (name : String) (row : Row) : String :=
  (((schema.index name).bind row.get?).map Scalar.display).getD ""

def Row.keyedBy (schema : Schema) (name : String) (row : Row) : Record := ⟨row.textOf schema name, row⟩

/-- A row as it arrives: keyed, if it has a value for every column and no more. -/
def Row.arrive (schema : Schema) (name : String) (row : Row) : Except RunFault Record :=
  if row.width = schema.size then .ok (row.keyedBy schema name) else .error (.rowWidth row.width schema)

namespace Plan

def kept (schema : Schema) (predicate : Expr) (records : List Record) : Except RunFault (List Record) :=
  Run.evaluated (records.filterMapM fun record => do
    pure (if ← predicate.accepts schema record.row then some record else none))

def mapped (schema : Schema) (expressions : List Expr) (records : List Record) :
    Except RunFault (List Record) :=
  Run.evaluated (records.mapM fun record => do
    pure ⟨record.key, ⟨← expressions.mapM (Expr.eval schema record.row)⟩⟩)

def joinInput (left : Plan) (spec : Join) (streamed : List Record) : List Record :=
  if left.rekeyed spec then
    streamed.map fun record => record.row.keyedBy left.schema (left.joinColumn spec).name
  else streamed

/-- A left row with the right row of the same key, or with nulls. -/
def paired (right : Plan) (stored : List Record) (record : Record) : Row :=
  let partner := stored.find? fun other => other.key = record.key
  record.row ++ (partner.map (·.row)).getD (Row.nulls right.schema.size)

def joined (left right : Plan) (spec : Join) (streamed stored : List Record) : List Record :=
  (joinInput left spec streamed).map fun record =>
    (paired right stored record).keyedBy spec.schema s!"{spec.leftAlias}.{(left.joinColumn spec).name}"

/-- The records a plan stands for, or the first fault met on the way. -/
def records (data : SourceData) : Plan → Except RunFault (List Record)
  | .source _ origin => do
    let arrived ← (data.rows origin.topic).mapM (Row.arrive origin.schema origin.key.name)
    match origin.mode with
    | .stream => pure arrived
    | .table => pure (lastPerKey arrived)
  | .filter _ input predicate => do kept input.schema predicate (← input.records data)
  | .project _ input _ expressions => do mapped input.schema expressions (← input.records data)
  | .join _ left right spec => do
    let streamed ← left.records data
    let stored ← right.records data
    pure (joined left right spec streamed stored)
  | .output _ input _ => input.records data

end Plan

/-! The steps of a run are the steps of the meaning. -/
namespace Run

theorem keyedRow_eq_arrive {schema : Schema} {name : String} {position : Nat}
    (found : schema.index name = some position) (row : Row) :
    keyedRow schema position row = row.arrive schema name := by
  unfold keyedRow Row.arrive Row.keyedBy Row.textOf
  by_cases fits : row.width = schema.size <;> simp [found, fits]

theorem keyed_eq_arrive {schema : Schema} {name : String} {field : Field}
    (found : schema.find name = some field) (rows : List Row) :
    keyed name schema rows = rows.mapM (Row.arrive schema name) := by
  obtain ⟨position, index, _⟩ := Schema.find_eq_some_iff.mp found
  simp only [keyed, index]
  congr 1
  funext row
  exact keyedRow_eq_arrive index row

theorem keyed_of_widths {schema : Schema} {name : String} {field : Field} {rows : List Row}
    (found : schema.find name = some field) (fits : ∀ row ∈ rows, row.width = schema.size) :
    keyed name schema rows = .ok (rows.map (Row.keyedBy schema name)) := by
  rw [keyed_eq_arrive found, mapM_eq_ok, List.forall₂_map_right_iff, List.forall₂_same]
  intro row member
  simp [Row.arrive, fits row member]

theorem filter_eq_kept (schema : Schema) (predicate : Expr) (records : List Record) :
    evaluated (filter schema predicate records) = Plan.kept schema predicate records := by
  unfold Plan.kept
  congr 1
  induction records with
  | nil => rfl
  | cons record rest ih =>
    -- both ask the first record before the others
    rw [filter, List.filterMapM_cons, ih]
    cases predicate.accepts schema record.row with
    | error e => rfl
    | ok accepted =>
      cases accepted <;> simp

theorem project_eq_mapped (schema : Schema) (expressions : List Expr) (records : List Record) :
    evaluated (project schema expressions records) = Plan.mapped schema expressions records := by
  unfold Plan.mapped project projectRow
  congr 2
  funext record
  cases expressions.mapM (Expr.eval schema record.row) <;> rfl

end Run

/-! Rows have the width of the schema, and a table has no key twice. -/
namespace Plan

theorem sublist_of_kept {schema : Schema} {predicate : Expr} {records passed : List Record}
    (done : kept schema predicate records = .ok passed) : passed.Sublist records := by
  rw [← Run.filter_eq_kept, Run.evaluated_eq_ok] at done
  induction records generalizing passed with
  | nil =>
    cases done
    exact .slnil
  | cons record rest ih =>
    simp only [Run.filter, bind_eq_ok] at done
    obtain ⟨accepted, _, others, later, done⟩ := done
    cases done
    cases accepted with
    | false => exact (ih later).cons record
    | true => exact (ih later).cons_cons record

theorem forall₂_of_mapped {schema : Schema} {expressions : List Expr} {records made : List Record}
    (done : mapped schema expressions records = .ok made) :
    List.Forall₂ (fun record result => result.key = record.key ∧
      expressions.mapM (Expr.eval schema record.row) = .ok result.row.values) records made := by
  have done := mapM_eq_ok.mp (Run.evaluated_eq_ok.mp done)
  refine done.imp fun record result same => ?_
  obtain ⟨values, evaluated, same⟩ := bind_eq_ok.mp same
  cases same
  exact ⟨rfl, evaluated⟩

theorem keys_of_mapped {schema : Schema} {expressions : List Expr} {records made : List Record}
    (done : mapped schema expressions records = .ok made) : made.map (·.key) = records.map (·.key) := by
  have keys := forall₂_of_mapped done
  apply List.ext_getElem
  · simp [keys.length_eq]
  · intro i bound other
    simp only [List.getElem_map]
    exact (keys.get (by simpa using other) (by simpa using bound)).1

theorem width_append (left right : Row) : (left ++ right).width = left.width + right.width :=
  List.length_append

theorem width_nulls (width : Nat) : (Row.nulls width).width = width := List.length_replicate

theorem arrive_eq_ok {schema : Schema} {name : String} {row : Row} {record : Record} :
    row.arrive schema name = .ok record ↔ row.width = schema.size ∧ row.keyedBy schema name = record := by
  unfold Row.arrive
  by_cases fits : row.width = schema.size <;> simp [fits]

theorem row_of_mem_joinInput {left : Plan} {spec : Join} {streamed : List Record} {record : Record}
    (member : record ∈ joinInput left spec streamed) : ∃ given ∈ streamed, given.row = record.row := by
  unfold joinInput at member
  split at member
  · obtain ⟨given, inside, rfl⟩ := List.mem_map.mp member
    exact ⟨given, inside, rfl⟩
  · exact ⟨record, member, rfl⟩

theorem width_paired {left right : Plan} {spec : Join} {stored : List Record} {record : Record}
    (checked : JoinChecked left right spec) (fits : record.row.width = left.schema.size)
    (storedFits : ∀ other ∈ stored, other.row.width = right.schema.size) :
    (paired right stored record).width = spec.schema.size := by
  rw [checked.schema, Schema.size_append, Schema.size_qualified, Schema.size_qualified, paired,
    width_append, fits]
  congr 1
  cases partner : stored.find? fun other => other.key = record.key with
  | none => exact width_nulls _
  | some other => exact storedFits other (List.mem_of_find?_eq_some partner)

/-- Every record has a value for each column of its node's schema, and no more. -/
theorem width_records {plan : Plan} (checked : plan.Checked) {data : SourceData} {records : List Record}
    (done : plan.records data = .ok records) : ∀ record ∈ records, record.row.width = plan.schema.size := by
  induction plan generalizing records with
  | source id origin =>
    obtain ⟨arrived, each, done⟩ := bind_eq_ok.mp done
    have fits : ∀ record ∈ arrived, record.row.width = origin.schema.size := by
      intro record member
      obtain ⟨row, _, same⟩ := exists_of_mem_right (mapM_eq_ok.mp each) member
      obtain ⟨fits, rfl⟩ := arrive_eq_ok.mp same
      exact fits
    intro record member
    -- a table keeps some of the records that arrived
    cases mode : origin.mode with
    | stream =>
      simp only [mode] at done
      cases done
      exact fits record member
    | table =>
      simp only [mode] at done
      cases done
      exact fits record (mem_of_mem_lastPerKey member)
  | filter id input predicate ih =>
    obtain ⟨below, given, done⟩ := bind_eq_ok.mp done
    intro record member
    exact ih checked.1 given record ((sublist_of_kept done).subset member)
  | project id input schema expressions ih =>
    obtain ⟨below, _, done⟩ := bind_eq_ok.mp done
    obtain ⟨_, widths, _⟩ := checked
    intro record member
    obtain ⟨_, _, _, evaluated⟩ := exists_of_mem_right (forall₂_of_mapped done) member
    exact (mapM_eq_ok.mp evaluated).length_eq.symm.trans widths.symm
  | join id left right spec leftIh rightIh =>
    obtain ⟨leftChecked, rightChecked, joinChecked⟩ := checked
    simp only [Plan.records, bind_eq_ok] at done
    obtain ⟨streamed, leftDone, stored, rightDone, done⟩ := done
    cases done
    intro record member
    obtain ⟨given, inside, rfl⟩ := List.mem_map.mp member
    obtain ⟨original, place, same⟩ := row_of_mem_joinInput inside
    have fits := leftIh leftChecked leftDone original place
    rw [same] at fits
    exact width_paired joinChecked fits (rightIh rightChecked rightDone)
  | output id input target ih => exact ih checked done

theorem nodup_records {plan : Plan} (tabular : plan.Tabular) {data : SourceData} {records : List Record}
    (done : plan.records data = .ok records) : (records.map (·.key)).Nodup := by
  induction tabular generalizing records with
  | source table =>
    obtain ⟨arrived, _, done⟩ := bind_eq_ok.mp done
    simp only [table] at done
    cases done
    rw [← latestPerKey_eq_lastPerKey]
    exact nodup_latestPerKey arrived
  | filter _ ih =>
    obtain ⟨below, given, done⟩ := bind_eq_ok.mp done
    exact (ih given).sublist ((sublist_of_kept done).map _)
  | project _ ih =>
    obtain ⟨below, given, done⟩ := bind_eq_ok.mp done
    rw [keys_of_mapped done]
    exact ih given

theorem joinedRows_eq_paired (right : Plan) (streamed : List Record) {stored : List Record}
    (unique : (stored.map (·.key)).Nodup) :
    Run.joinedRows right.schema.size streamed stored = streamed.map (paired right stored) := by
  unfold Run.joinedRows paired
  simp only [rowOfKey_eq_find unique]

structure Joinable (left right : Plan) (streamed stored : List Record) : Prop where
  left : ∀ record ∈ streamed, record.row.width = left.schema.size
  right : ∀ record ∈ stored, record.row.width = right.schema.size
  unique : (stored.map (·.key)).Nodup

/-- The rows of a join fit its schema, so that keying them cannot fail. -/
theorem keyed_joinedRows {left right : Plan} {spec : Join} {streamed stored : List Record}
    (checked : JoinChecked left right spec) (joinable : Joinable left right streamed stored) :
    Run.keyed s!"{spec.leftAlias}.{(left.joinColumn spec).name}" spec.schema
      (Run.joinedRows right.schema.size (joinInput left spec streamed) stored) =
        .ok (joined left right spec streamed stored) := by
  rw [joinedRows_eq_paired right _ joinable.unique, Run.keyed_of_widths checked.find_key]
  · rw [joined, List.map_map]
    rfl
  · intro row member
    obtain ⟨record, inside, rfl⟩ := List.mem_map.mp member
    obtain ⟨original, place, same⟩ := row_of_mem_joinInput inside
    exact width_paired checked (same ▸ joinable.left original place) joinable.right

theorem keyed_joinInput {left right : Plan} {spec : Join} {streamed : List Record}
    (checked : JoinChecked left right spec) (needed : left.rekeyed spec = true)
    (fits : ∀ record ∈ streamed, record.row.width = left.schema.size) :
    Run.keyed (left.joinColumn spec).name left.schema (streamed.map (·.row)) =
      .ok (joinInput left spec streamed) := by
  rw [Run.keyed_of_widths (Schema.find_found checked.find_joinColumn)]
  · rw [joinInput, if_pos needed, List.map_map]
    rfl
  · intro row member
    obtain ⟨record, inside, rfl⟩ := List.mem_map.mp member
    exact fits record inside

end Plan
end StreamPlan
