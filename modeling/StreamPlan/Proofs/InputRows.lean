import StreamPlan.Proofs.Deliveries
import StreamPlan.Proofs.TypedRuns

/-! Rows read from a document. They fit the schema they were read against, and are null only where it
says so. Topics that sources share are read once, against the schema of the first of them. -/
namespace StreamPlan

/-- A value the column declares: of its type, and null only in a nullable column. -/
def Field.Admits (field : Field) (value : Scalar) : Prop :=
  value.HasType field.dataType ∧ (value = .null → field.nullable = true)

def Row.Keeps (row : Row) (schema : Schema) : Prop :=
  List.Forall₂ (fun value (field : Field) => field.Admits value) row.values schema.fields

theorem Row.Keeps.fits {row : Row} {schema : Schema} (keeps : row.Keeps schema) : row.Fits schema :=
  keeps.imp fun _ _ admitted => admitted.1

theorem Row.Keeps.ne_null {row : Row} {schema : Schema} (keeps : row.Keeps schema) {position : Nat}
    {field : Field} (column : schema.fields[position]? = some field) (required : field.nullable = false) :
    row.get? position ≠ some .null := by
  obtain ⟨value, here, _, null⟩ := exists_of_getElem?_left keeps.flip column
  rw [Row.get?, here]
  intro same
  cases same
  exact Bool.noConfusion (required.symm.trans (null rfl))

namespace SourceData

theorem valueOf_dataType {j : Json} {type : DataType} {value : Scalar} (read : valueOf j type = some value) :
    value.dataType = some type := by
  cases type <;> simp only [valueOf, Option.map_eq_some_iff] at read <;> obtain ⟨_, _, rfl⟩ := read <;> rfl

theorem scalarOf_hasType {j : Json} {type : DataType} {value : Scalar} (read : scalarOf j type = some value) :
    value.HasType type := by
  unfold scalarOf at read
  split at read
  · cases read
    exact Scalar.hasType_null type
  · exact .inr (valueOf_dataType read)

theorem columnValue_admitted {topic : String} {fields : List (String × Json)} {field : Field} {value : Scalar}
    (read : columnValue topic fields field = .ok value) : field.Admits value := by
  unfold columnValue at read
  dsimp only at read
  split at read
  · cases read
  · rename_i found known
    obtain ⟨declared, made⟩ := refused_eq_ok.mp read
    cases made
    refine ⟨scalarOf_hasType known, fun null => ?_⟩
    subst null
    simpa [Scalar.isNull] using declared

theorem rowOf_keeps {topic : String} {schema : Schema} {j : Json} {row : Row}
    (read : rowOf topic schema j = .ok row) : row.Keeps schema := by
  unfold rowOf at read
  split at read
  · obtain ⟨values, each, made⟩ := bind_eq_ok.mp read
    cases made
    exact (mapM_eq_ok.mp each).flip.imp fun value field done => columnValue_admitted done
  · cases read

theorem rowsOf_keep {topic : String} {schema : Schema} {j : Json} {rows : List Row}
    (read : rowsOf topic schema j = .ok rows) : ∀ row ∈ rows, row.Keeps schema := by
  unfold rowsOf at read
  split at read
  · intro row member
    obtain ⟨_, _, done⟩ := exists_of_mem_right (mapM_eq_ok.mp read) member
    exact rowOf_keeps done
  · cases read

theorem lookup_pushTo (topic other : String) (more : List Row) (topics : List (String × List Row)) :
    (pushTo topic more topics).lookup other =
      if other = topic then some ((topics.lookup topic).getD [] ++ more) else topics.lookup other := by
  induction topics with
  | nil => simp [pushTo, lookup_cons_eq_ite]
  | cons first rest ih =>
    obtain ⟨name, rows⟩ := first
    by_cases own : name = topic
    · subst own
      by_cases same : other = name <;> simp [pushTo, lookup_cons_eq_ite, same]
    · by_cases same : other = name
      · subst same
        simp [pushTo, own]
      · simp [pushTo, lookup_cons_eq_ite, own, same, ih, Ne.symm own]

theorem find_push (data : SourceData) (topic other : String) (more : List Row) :
    (data.push topic more).find other =
      if other = topic then some (data.rows topic ++ more) else data.find other :=
  lookup_pushTo topic other more data.topics

section
variable {document : List (String × Json)} {data after : SourceData} {stage : Stage}

/-- A stage takes nothing but the rows of its own topic. -/
theorem find_load {other : String} (loaded : load document data stage = .ok after)
    (apart : stage.op.sourceTopic ≠ some other) : after.find other = data.find other := by
  unfold load at loaded
  split at loaded
  · cases loaded
    rfl
  · rename_i topic source
    split at loaded
    · cases loaded
      rfl
    · split at loaded
      · cases loaded
        rfl
      · obtain ⟨rows, _, made⟩ := bind_eq_ok.mp loaded
        cases made
        have ne : other ≠ topic := fun same => apart (same ▸ source)
        rw [find_push, if_neg ne]

theorem rows_load {topic : String} (loaded : load document data stage = .ok after)
    (source : stage.op.sourceTopic = some topic) (fresh : data.find topic = none) :
    ∀ row ∈ after.rows topic, row.Keeps stage.schema := by
  simp only [load, source, fresh, Option.isSome_none, Bool.false_eq_true, if_false] at loaded
  split at loaded
  · cases loaded
    simp [rows, fresh]
  · obtain ⟨rows, read, made⟩ := bind_eq_ok.mp loaded
    cases made
    simpa [SourceData.rows, find_push, fresh] using rowsOf_keep read

theorem rows_of_find {other : SourceData} {topic : String} (same : data.find topic = other.find topic) :
    data.rows topic = other.rows topic :=
  congrArg (·.getD []) same

theorem find_loads {stages : List Stage} {other : String}
    (loaded : stages.foldlM (load document) data = .ok after)
    (apart : ∀ stage ∈ stages, stage.op.sourceTopic ≠ some other) : after.find other = data.find other := by
  induction stages generalizing data with
  | nil =>
    cases loaded
    rfl
  | cons first rest ih =>
    obtain ⟨middle, here, loaded⟩ := bind_eq_ok.mp loaded
    rw [ih loaded fun stage member => apart stage (List.mem_cons_of_mem _ member)]
    exact find_load here (apart first List.mem_cons_self)

theorem rows_loads {stages : List Stage} (loaded : stages.foldlM (load document) data = .ok after)
    (distinct : (stages.map (·.op.sourceTopic)).Nodup)
    (fresh : ∀ stage ∈ stages, ∀ topic ∈ stage.op.sourceTopic, data.find topic = none) :
    ∀ stage ∈ stages, ∀ topic ∈ stage.op.sourceTopic, ∀ row ∈ after.rows topic, row.Keeps stage.schema := by
  -- on the sources: those to come read other topics, and leave the rows of the first as they were
  induction stages generalizing data with
  | nil => simp
  | cons first rest ih =>
    obtain ⟨middle, here, later⟩ := bind_eq_ok.mp loaded
    obtain ⟨apart, distinct⟩ := List.nodup_cons.mp distinct
    intro stage member topic source
    rcases List.mem_cons.mp member with rfl | member
    · have kept : after.find topic = middle.find topic := find_loads later fun other inside same =>
        apart (List.mem_map.mpr ⟨other, inside, same.trans source.symm⟩)
      rw [rows_of_find kept]
      exact rows_load here source (fresh stage List.mem_cons_self topic source)
    · refine ih later distinct (fun other inside topic source => ?_) stage member topic source
      have ne : first.op.sourceTopic ≠ some topic := fun same =>
        apart (List.mem_map.mpr ⟨other, inside, source.trans same.symm⟩)
      rw [find_load here ne]
      exact fresh other (List.mem_cons_of_mem _ inside) topic source

end

/-- The rows each source reads are such as its schema declares. -/
def Keeps (data : SourceData) (t : Topology) : Prop :=
  ∀ stage ∈ t.stages, ∀ topic ∈ stage.op.sourceTopic, ∀ row ∈ data.rows topic, row.Keeps stage.schema

theorem Keeps.fits {data : SourceData} {t : Topology} (keeps : data.Keeps t) : data.Fits t :=
  fun stage member topic source row inside => (keeps stage member topic source row inside).fits

theorem keeps_ofJson {document : Json} {t : Topology} {data : SourceData}
    (read : ofJson document t = .ok data) (distinct : (t.sources.map (·.op.sourceTopic)).Nodup) :
    data.Keeps t := by
  unfold ofJson at read
  split at read
  · intro stage member topic source
    refine rows_loads read distinct (fun _ _ _ _ => rfl) stage ?_ topic source
    exact List.mem_filter.mpr ⟨member, by rw [StageOp.isSource, source]; rfl⟩
  · cases read

end SourceData
end StreamPlan
