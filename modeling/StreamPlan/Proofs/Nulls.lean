import StreamPlan.Proofs.InputRows

/-! Nulls in columns that allow none. A join takes over the columns of its right side as they were
declared there, and leaves them null beside a record without a partner; no other step puts a null
where the schema has none. -/
namespace StreamPlan

/-- The row of the stage is null in a column because some join found no partner for a record: there,
or at a stage before it, from where the row was carried on. -/
inductive Run.Vacated (t : Topology) (results : List (List Record)) : Stage → Row → Nat → Prop where
  | unmatched {stage left right : Stage} {codec : Codec} {streamed stored : List Record} {record : Record}
      {position : Nat} (op : stage.op = .leftJoin codec) (reads : Reads t results stage 0 left streamed)
      (also : Reads t results stage 1 right stored) (inside : record ∈ streamed)
      (alone : ∀ partner ∈ stored, partner.key ≠ record.key) (within : position < right.schema.size) :
      Vacated t results stage (record.row ++ Row.nulls right.schema.size) (left.schema.size + position)
  | matched {stage left right : Stage} {codec : Codec} {streamed stored : List Record}
      {record partner : Record} {position : Nat} (op : stage.op = .leftJoin codec)
      (reads : Reads t results stage 0 left streamed) (also : Reads t results stage 1 right stored)
      (inside : record ∈ streamed) (stands : partner ∈ stored) (same : partner.key = record.key)
      (vacated : Vacated t results right partner.row position) :
      Vacated t results stage (record.row ++ partner.row) (left.schema.size + position)
  | joined {stage left : Stage} {codec : Codec} {streamed : List Record} {record : Record} {more : Row}
      {position : Nat} (op : stage.op = .leftJoin codec) (reads : Reads t results stage 0 left streamed)
      (inside : record ∈ streamed) (vacated : Vacated t results left record.row position) :
      Vacated t results stage (record.row ++ more) position
  | carried {stage input : Stage} {records : List Record} {record : Record} {position : Nat}
      (op : stage.op.passesOn = true ∨ ∃ key, stage.op = .selectKey key)
      (reads : Reads t results stage 0 input records) (inside : record ∈ records)
      (vacated : Vacated t results input record.row position) : Vacated t results stage record.row position

namespace Row

variable {left right : Row} {position : Nat}

theorem get?_append_right (left right : Row) (position : Nat) :
    (left ++ right).get? (left.width + position) = right.get? position :=
  List.getElem?_append_right (Nat.le_add_right _ _) |>.trans (by simp [get?])

theorem get?_append_left (within : position < left.width) :
    (left ++ right).get? position = left.get? position :=
  List.getElem?_append_left within

theorem get?_nulls {width : Nat} (within : position < width) : (nulls width).get? position = some .null := by
  simp [nulls, get?, within]

end Row

theorem Schema.getElem?_joined {left right : Schema} {owner other : String} {position : Nat} {field : Field}
    (column : (left.qualified owner ++ right.qualified other).fields[position]? = some field) :
    (position < left.size ∧ ∃ own, left.fields[position]? = some own ∧ own.nullable = field.nullable) ∨
      ∃ beyond own, position = left.size + beyond ∧ right.fields[beyond]? = some own ∧
        own.nullable = field.nullable := by
  change ((left.fields.map (Field.qualified owner)) ++ right.fields.map (Field.qualified other))[position]? =
    some field at column
  by_cases within : position < left.size
  · rw [List.getElem?_append_left (by simpa [size] using within), List.getElem?_map] at column
    obtain ⟨own, here, rfl⟩ := Option.map_eq_some_iff.mp column
    exact .inl ⟨within, own, here, rfl⟩
  · rw [List.getElem?_append_right (by simpa [size] using within), List.getElem?_map, List.length_map] at column
    obtain ⟨own, here, rfl⟩ := Option.map_eq_some_iff.mp column
    exact .inr ⟨position - left.size, own, by omega, here, rfl⟩

namespace Run

section
variable {t : Topology} {data : SourceData} {results : List (List Record)} {stage input : Stage}
variable {records made : List Record} {position : Nat}

/-- Every null in a column that allows none was left there by a join. -/
def NullsVacated (t : Topology) (results : List (List Record)) (stage : Stage) (made : List Record) : Prop :=
  ∀ record ∈ made, ∀ (position : Nat) (field : Field), stage.schema.fields[position]? = some field →
    field.nullable = false → record.row.get? position = some .null → Vacated t results stage record.row position

/-- Records of every stage that fit it. -/
def AllStagesFit (t : Topology) (results : List (List Record)) : Prop :=
  ∀ (k : Nat) (stage : Stage) (made : List Record), t.stages[k]? = some stage → results[k]? = some made →
    AllFit made stage.schema

theorem Reads.later (numbered : t.Numbered) {k : Nat} (reads : Reads t (results.take k) stage position input records) :
    Reads t results stage position input records := by
  obtain ⟨id, named, here, given⟩ := (reads_iff numbered).mp reads
  exact (reads_iff numbered).mpr ⟨id, named, here, getElem?_of_take given⟩

theorem Reads.width (numbered : t.Numbered) (fit : AllStagesFit t results)
    (reads : Reads t results stage position input records) {record : Record} (inside : record ∈ records) :
    record.row.width = input.schema.size := by
  obtain ⟨id, _, here, given⟩ := (reads_iff numbered).mp reads
  exact (fit _ _ _ here given record inside).width

theorem Vacated.null (numbered : t.Numbered) (fit : AllStagesFit t results) {row : Row}
    (vacated : Vacated t results stage row position) : row.get? position = some .null := by
  -- on how the column came to be null: a row carried on is null where it was null before
  induction vacated with
  | unmatched _ reads _ inside _ within =>
    rw [← reads.width numbered fit inside, Row.get?_append_right]
    exact Row.get?_nulls within
  | matched _ reads _ inside _ _ _ ih =>
    rw [← reads.width numbered fit inside, Row.get?_append_right]
    exact ih
  | joined _ _ _ _ ih => exact get?_append_left ih _
  | carried _ _ _ _ ih => exact ih

theorem nullsVacated_source {topic : String} (rows : ∀ row ∈ data.rows topic, row.Keeps stage.schema)
    (done : sourceRecords data stage topic = .ok made) : NullsVacated t results stage made := by
  obtain ⟨arrived, keyed, kept⟩ := bind_eq_ok.mp done
  have keeps : ∀ record ∈ arrived, record.row.Keeps stage.schema := by
    intro record member
    obtain ⟨row, inside, same⟩ := exists_of_mem_right (rows_of_keyed (blame_eq_ok.mp keyed)) member
    exact same ▸ rows row inside
  cases kept
  intro record member position field column required null
  split at member
  · rw [latestPerKey_eq_lastPerKey] at member
    exact absurd null ((keeps record (mem_of_mem_lastPerKey member)).ne_null column required)
  · exact absurd null ((keeps record member).ne_null column required)

theorem nullsVacated_carried (op : stage.op.passesOn = true ∨ ∃ key, stage.op = .selectKey key)
    (reads : Reads t results stage 0 input records) (schema : stage.schema = input.schema)
    (given : NullsVacated t results input records)
    (rows : ∀ result ∈ made, ∃ record ∈ records, result.row = record.row) : NullsVacated t results stage made := by
  intro result member position field column required null
  obtain ⟨record, inside, same⟩ := rows result member
  rw [schema] at column
  rw [same] at null ⊢
  exact .carried op reads inside (given record inside position field column required null)

theorem nullsVacated_joined {left right : Stage} {codec : Codec} {streamed stored : List Record}
    {owner other : String} (numbered : t.Numbered) (fit : AllStagesFit t results)
    (op : stage.op = .leftJoin codec) (reads : Reads t results stage 0 left streamed)
    (also : Reads t results stage 1 right stored)
    (schema : stage.schema = left.schema.qualified owner ++ right.schema.qualified other)
    (leftGiven : NullsVacated t results left streamed) (rightGiven : NullsVacated t results right stored)
    (rows : JoinedOn (·.key) (·.key) right.schema.size streamed stored made) :
    NullsVacated t results stage made := by
  intro result member position field column required null
  obtain ⟨record, inside, matching⟩ := exists_of_mem_right rows member
  have width := reads.width numbered fit inside
  rw [schema] at column
  rcases Schema.getElem?_joined column with ⟨within, own, here, same⟩ | ⟨beyond, own, rfl, here, same⟩
  · -- a column of the left side, where every row begins with that of the record
    have begins : ∃ more, result.row = record.row ++ more := by
      rcases matching with ⟨_, _, _, row⟩ | ⟨_, row⟩ <;> exact ⟨_, row⟩
    obtain ⟨more, row⟩ := begins
    rw [row, Row.get?_append_left (by omega)] at null
    rw [row]
    exact .joined op reads inside (leftGiven record inside position own here (same.trans required) null)
  · rcases matching with ⟨partner, stands, equal, row⟩ | ⟨alone, row⟩
    · rw [row, ← width, Row.get?_append_right] at null
      rw [row]
      exact .matched op reads also inside stands equal
        (rightGiven partner stands beyond own here (same.trans required) null)
    · rw [row]
      exact .unmatched op reads also inside alone (List.getElem?_eq_some_iff.mp here).1

/-- The step: a wired stage over rows that keep to their schema leaves a null in a column that allows
none only as a join does, or where the stage before had it. -/
theorem nullsVacated_stage {k : Nat} (numbered : t.Numbered) (fit : AllStagesFit t results)
    (wired : t.Wired k stage)
    (rows : ∀ topic ∈ stage.op.sourceTopic, ∀ row ∈ data.rows topic, row.Keeps stage.schema)
    (done : stageRecords t data (results.take k) stage = .ok made)
    (before : ∀ (j : Nat) (input : Stage) (given : List Record), t.stages[j]? = some input →
      (results.take k)[j]? = some given → NullsVacated t results input given) :
    NullsVacated t results stage made := by
  have read {position : Nat} {input other : Stage} {given : List Record}
      (found : t.earlier? k stage position = some input)
      (reads : Reads t (results.take k) stage position other given) :
      other = input ∧ Reads t results stage position input given ∧ NullsVacated t results input given := by
    obtain ⟨id, named, _, here⟩ := Topology.earlier?_eq_some.mp found
    obtain ⟨_, again, place, given⟩ := (reads_iff numbered).mp reads
    cases named.symm.trans again
    cases here.symm.trans place
    exact ⟨rfl, reads.later numbered, before id.number _ _ here given⟩
  have passed {input : Stage} (op : stage.op.passesOn = true) (found : t.earlier? k stage 0 = some input)
      (schema : stage.schema = input.schema) : NullsVacated t results stage made := by
    obtain ⟨_, given, reads⟩ := exists_reads done (isSource_of_passesOn op)
    have among := subset_of_passesOn op reads done
    obtain ⟨_, whole, vacated⟩ := read found reads
    exact nullsVacated_carried (.inl op) whole schema vacated fun record member => ⟨record, among member, rfl⟩
  unfold Topology.Wired at wired
  cases op : stage.op with
  | streamSource topic | tableSource topic =>
    have source : stage.op.sourceTopic = some topic := by rw [op]; rfl
    rw [stageRecords_source source] at done
    exact nullsVacated_source (rows topic source) done
  | filter | toTopic | print =>
    rw [op] at wired
    obtain ⟨input, found, schema⟩ := wired
    exact passed (by rw [op]; rfl) found schema
  | project expressions =>
    rw [op] at wired
    obtain ⟨_, _, columns⟩ := wired
    intro record _ position field column required _
    obtain ⟨_, _, _, nullable⟩ := exists_of_getElem?_left columns.flip column
    exact Bool.noConfusion (required.symm.trans nullable)
  | selectKey key =>
    rw [op] at wired
    obtain ⟨_, input, found, schema⟩ := wired
    obtain ⟨_, given, reads⟩ := exists_reads done (by rw [op]; rfl)
    rw [stageRecords_selectKey op reads, blame_eq_ok] at done
    obtain ⟨_, whole, vacated⟩ := read found reads
    refine nullsVacated_carried (.inr ⟨key, op⟩) whole schema vacated fun result member => ?_
    exact exists_of_mem_right (List.forall₂_map_left_iff.mp (rows_of_keyed done)) member
  | leftJoin codec =>
    rw [op] at wired
    obtain ⟨_, left, found, right, beside, owner, other, schema⟩ := wired
    obtain ⟨_, streamed, reads⟩ := exists_reads done (by rw [op]; rfl)
    obtain ⟨_, stored, also⟩ := exists_reads_right done op
    rw [stageRecords_leftJoin op reads also, blame_eq_ok] at done
    obtain ⟨rfl, whole, vacated⟩ := read found reads
    obtain ⟨rfl, alsoWhole, alsoVacated⟩ := read beside also
    exact nullsVacated_joined numbered fit op whole alsoWhole schema vacated alsoVacated
      (joinedOn_key (rows_of_keyed done))

end
end Run

namespace Plan
open Run

/-- A plan from an author, run over the rows of a document of which no two sources read one topic:
where a column allows no null, a record is null exactly where a join vacated it. -/
theorem null_iff_vacated {plan : Plan} {config : Config} {compiled : Compiled} {document : Json}
    {data : SourceData} {results : List (List Record)} (authored : plan.Authored)
    (accepted : plan.compile config = .ok compiled)
    (distinct : (compiled.topology.sources.map (·.op.sourceTopic)).Nodup)
    (read : SourceData.ofJson document compiled.topology = .ok data)
    (ran : trace compiled.topology data = .ok results) :
    ∀ (k : Nat) (stage : Stage) (made : List Record), compiled.topology.stages[k]? = some stage →
      results[k]? = some made → ∀ record ∈ made, ∀ (position : Nat) (field : Field),
        stage.schema.fields[position]? = some field → field.nullable = false →
          (record.row.get? position = some .null ↔
            Vacated compiled.topology results stage record.row position) := by
  have numbered := numbered_compiled authored.assembled.built accepted
  have keeps := SourceData.keeps_ofJson read distinct
  have whole : resume compiled.topology data [] (compiled.topology.stages.take compiled.topology.stages.length) =
      .ok results := by
    rw [List.take_length]
    exact ran
  have fit : AllStagesFit compiled.topology results := fun k stage made here given =>
    fits_records authored accepted keeps.fits whole here given
  intro k stage made here given record inside position field column required
  refine ⟨fun null => ?_, fun vacated => vacated.null numbered fit⟩
  have vacated : NullsVacated compiled.topology results stage made := by
    refine records_induction (P := NullsVacated compiled.topology results) whole ?_ here given
    intro k stage made here given done before
    have wired := wired_compiled authored accepted here
    exact nullsVacated_stage numbered fit wired (keeps stage (List.mem_of_getElem? here)) done before
  exact vacated record inside position field column required null

/-- Paid orders beside the customers who placed them, as they come from the join. -/
def addressedConsole : Plan := .output ⟨5⟩ addressedOrders .console

/-- An order placed by no known customer. -/
def strayOrder : Json :=
  .object [("customers", .list []),
    ("orders", .list [.object [("customer", .text "bob"), ("id", .whole 2), ("paid", .bool true)]])]

theorem addressedConsole_assembled : addressedConsole.Assembled :=
  Assembled.output (b := ⟨5⟩) addressedOrders_assembled

theorem strayOrder_vacated : addressedConsole.Authored ∧ ∃ compiled data results,
    addressedConsole.compile .standard = .ok compiled ∧
      (compiled.topology.sources.map (·.op.sourceTopic)).Nodup ∧
        SourceData.ofJson strayOrder compiled.topology = .ok data ∧ trace compiled.topology data = .ok results ∧
          ∃ stage records record field, compiled.topology.stages[5]? = some stage ∧ results[5]? = some records ∧
            record ∈ records ∧ stage.schema.fields[3]? = some field ∧ field.nullable = false ∧
              Vacated compiled.topology results stage record.row 3 := by
  have authored : addressedConsole.Authored := .inl addressedConsole_assembled
  have accepted : ∃ compiled, addressedConsole.compile .standard = .ok compiled := ⟨_, by rfl⟩
  obtain ⟨compiled, accepted⟩ := accepted
  have topology := (compile_eq_ok authored.assembled.built.checked accepted).2
  have distinct : (compiled.topology.sources.map (·.op.sourceTopic)).Nodup := by
    rw [topology]
    decide
  have read : SourceData.ofJson strayOrder compiled.topology =
      .ok ⟨[("orders", [⟨[.int32 2, .text "bob", .bool true]⟩]), ("customers", [])]⟩ := by
    rw [topology]
    rfl
  have ran : ∃ results, trace compiled.topology
      ⟨[("orders", [⟨[.int32 2, .text "bob", .bool true]⟩]), ("customers", [])]⟩ = .ok results ∧
        results[5]? = some [⟨"bob", ⟨[.int32 2, .text "bob", .bool true, .null, .null]⟩⟩] := by
    rw [topology]
    exact ⟨_, by rfl, by rfl⟩
  obtain ⟨results, ran, given⟩ := ran
  have here : compiled.topology.stages[5]? = some (addressedConsole.stage .standard 0) := by
    rw [topology]
    rfl
  have vacated := null_iff_vacated authored accepted distinct read ran 5 _ _ here given _ List.mem_cons_self 3
    ⟨"c.name", .utf8, false⟩ (by rfl) rfl
  exact ⟨authored, compiled, _, results, accepted, distinct, read, ran, _, _, _, _, here, given,
    List.mem_cons_self, by rfl, rfl, vacated.mp rfl⟩

/-- The stray order is printed with null for the name of its customer, and no customer may lack a name. -/
theorem not_nullsHonoured : ¬ ∀ (plan : Plan) (config : Config) (compiled : Compiled) (document : Json)
    (data : SourceData) (results : List (List Record)), plan.Authored →
      plan.compile config = .ok compiled → (compiled.topology.sources.map (·.op.sourceTopic)).Nodup →
        SourceData.ofJson document compiled.topology = .ok data → trace compiled.topology data = .ok results →
          ∀ (k : Nat) (stage : Stage) (made : List Record), compiled.topology.stages[k]? = some stage →
            results[k]? = some made → ∀ record ∈ made, ∀ (position : Nat) (field : Field),
              stage.schema.fields[position]? = some field → field.nullable = false →
                record.row.get? position ≠ some .null := by
  intro claim
  exact claim addressedConsole .standard _ strayOrder _ _ (.inl addressedConsole_assembled) (by rfl) (by decide)
    (by rfl) (by rfl) 5 _ _ (by rfl) (by rfl) _ List.mem_cons_self 3 _ (by rfl) (by rfl) (by rfl)

end Plan
end StreamPlan
