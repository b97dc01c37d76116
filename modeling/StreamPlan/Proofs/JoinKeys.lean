import StreamPlan.Proofs.RecordKeys

/-! What joins join on. The runner pairs records by their keys; that is the declared condition where
the declared columns hold the keys, which a join sees to on its left side only, and by the name of
the column. -/
namespace StreamPlan

/-- The result is the row with one of the other side that has the same text, or with nulls where none
has. -/
def Matches (leftText rightText : Record → String) (stored : List Record) (width : Nat)
    (record result : Record) : Prop :=
  (∃ partner ∈ stored, rightText partner = leftText record ∧ result.row = record.row ++ partner.row) ∨
    (∀ partner ∈ stored, rightText partner ≠ leftText record) ∧ result.row = record.row ++ Row.nulls width

def JoinedOn (leftText rightText : Record → String) (width : Nat) (streamed stored made : List Record) :
    Prop :=
  List.Forall₂ (Matches leftText rightText stored width) streamed made

theorem rowOfKey_eq_some {table : List Record} {key : String} {row : Row}
    (found : rowOfKey table key = some row) : ∃ record ∈ table, record.key = key ∧ record.row = row := by
  obtain ⟨record, here, rfl⟩ := Option.map_eq_some_iff.mp found
  have same := List.find?_some here
  exact ⟨record, List.mem_reverse.mp (List.mem_of_find?_eq_some here), by simpa using same, rfl⟩

theorem rowOfKey_eq_none {table : List Record} {key : String} (missing : rowOfKey table key = none) :
    ∀ record ∈ table, record.key ≠ key := by
  have none := List.find?_eq_none.mp (Option.map_eq_none_iff.mp missing)
  intro record member same
  exact none record (List.mem_reverse.mpr member) (decide_eq_true same)

theorem joinedOn_key {width : Nat} {streamed stored made : List Record}
    (rows : List.Forall₂ (fun row result => result.row = row) (Run.joinedRows width streamed stored) made) :
    JoinedOn (·.key) (·.key) width streamed stored made := by
  refine (List.forall₂_map_left_iff.mp rows).imp fun record result row => ?_
  unfold Matches
  rw [row]
  cases found : rowOfKey stored record.key with
  | some partner =>
    obtain ⟨other, member, same, rfl⟩ := rowOfKey_eq_some found
    exact .inl ⟨other, member, same, rfl⟩
  | none => exact .inr ⟨rowOfKey_eq_none found, rfl⟩

theorem JoinedOn.congr {leftText rightText leftOther rightOther : Record → String} {width : Nat}
    {streamed stored made : List Record} (joined : JoinedOn leftText rightText width streamed stored made)
    (left : ∀ record ∈ streamed, leftOther record = leftText record)
    (right : ∀ partner ∈ stored, rightOther partner = rightText partner) :
    JoinedOn leftOther rightOther width streamed stored made := by
  induction joined with
  | nil => exact .nil
  | @cons record result streamed made matched _ ih =>
    have same := left record List.mem_cons_self
    refine .cons ?_ (ih fun other member => left other (List.mem_cons_of_mem _ member))
    rcases matched with ⟨partner, member, equal, row⟩ | ⟨absent, row⟩
    · exact .inl ⟨partner, member, by rw [right partner member, same, equal], row⟩
    · refine .inr ⟨fun partner member => ?_, row⟩
      rw [right partner member, same]
      exact absent partner member

/-- The text in the named column is the key of each record. -/
def Schema.HoldsKeys (schema : Schema) (name : String) (records : List Record) : Prop :=
  ∀ record ∈ records, record.row.textOf schema name = record.key

instance (schema : Schema) (name : String) (records : List Record) : Decidable (schema.HoldsKeys name records) :=
  inferInstanceAs (Decidable (∀ record ∈ records, record.row.textOf schema name = record.key))

theorem KeyedAt.holdsKeys {records : List Record} {schema : Schema} {name : String} {position : Nat}
    (held : KeyedAt records position) (column : schema.index name = some position) :
    schema.HoldsKeys name records := by
  intro record member
  have text := held record member
  simp [Row.textOf, column, text]

namespace Plan

/-- The records of a join's stage in a run, and those of the two stages it reads. -/
structure JoinRecords (t : Topology) (config : Config) (results : List (List Record)) (m : Nat)
    (id : NodeId) (left right : Plan) (spec : Join) (streamed stored made : List Record) : Prop where
  stage : t.stages[((Plan.join id left right spec).stageId m).number]? =
    some ((Plan.join id left right spec).stage config m)
  streamed : results[(leftInput m left right spec).stage.number]? = some streamed
  stored : results[(right.stageId (left.nextFrom m)).number]? = some stored
  made : results[((Plan.join id left right spec).stageId m).number]? = some made

section
variable {t : Topology} {data : SourceData} {results : List (List Record)} {config : Config} {m : Nat}
variable {id : NodeId} {left right : Plan} {spec : Join} {streamed stored made : List Record}

theorem joinRecords_of_trace (numbered : t.Numbered) (ran : Run.trace t data = .ok results)
    (has : t.HasAt m ((Plan.join id left right spec).stages config m)) :
    ∃ streamed stored made, JoinRecords t config results m id left right spec streamed stored made ∧
      JoinedOn (·.key) (·.key) right.schema.size streamed stored made := by
  have recorded := hasAt_own has
  have rightRecorded := hasAt_own (hasAt_join has).2.1
  have bound : ((Plan.join id left right spec).stageId m).number < results.length := by
    rw [Run.length_trace ran]
    exact (List.getElem?_eq_some_iff.mp recorded).1
  have own := List.getElem?_eq_getElem bound
  have done := Run.stageRecords_of_trace ran recorded own
  obtain ⟨input, streamed, reads⟩ := Run.exists_reads done rfl
  obtain ⟨table, stored, also⟩ := Run.exists_reads_right done rfl
  obtain ⟨_, named, _, leftGiven⟩ := (Run.reads_iff numbered).mp reads
  obtain ⟨_, rightNamed, there, rightGiven⟩ := (Run.reads_iff numbered).mp also
  obtain rfl := Option.some.inj named
  obtain rfl := Option.some.inj rightNamed
  cases there.symm.trans rightRecorded
  rw [Run.stageRecords_leftJoin rfl reads also, Run.blame_eq_ok] at done
  exact ⟨streamed, stored, _, ⟨recorded, Run.getElem?_of_take leftGiven, Run.getElem?_of_take rightGiven, own⟩,
    joinedOn_key (Run.rows_of_keyed done)⟩

/-- The records of a left input that is keyed anew are keyed by the declared column, whatever held their
keys before. -/
theorem holdsKeys_rekeyed (numbered : t.Numbered) (ran : Run.trace t data = .ok results)
    (has : t.HasAt m ((Plan.join id left right spec).stages config m))
    (checked : JoinChecked left right spec) (needed : left.rekeyed spec = true)
    (given : results[(leftInput m left right spec).stage.number]? = some streamed) :
    left.schema.HoldsKeys spec.leftKey streamed := by
  obtain ⟨position, column, here⟩ := Schema.find_eq_some_iff.mp checked.find_joinColumn
  have own := (hasAt_join has).2.2
  simp only [leftInput, rekeyStages, needed, if_true] at given own
  have made : t.CarriesKey (rekeyStage m left right spec) position :=
    .made rfl (Schema.index_found column here)
  exact (Run.keyedAt_of_carriesKey numbered ran made (own.append.1 0 _ rfl) given).holdsKeys column

theorem joinedOn_held (joined : JoinedOn (·.key) (·.key) right.schema.size streamed stored made)
    (rekeyed : left.rekeyed spec = true → left.schema.HoldsKeys spec.leftKey streamed)
    (leftHeld : left.rekeyed spec = false → left.schema.HoldsKeys spec.leftKey streamed)
    (rightHeld : right.schema.HoldsKeys spec.rightKey stored) :
    JoinedOn (·.row.textOf left.schema spec.leftKey) (·.row.textOf right.schema spec.rightKey)
      right.schema.size streamed stored made := by
  refine joined.congr ?_ rightHeld
  cases needed : left.rekeyed spec with
  | false => exact leftHeld needed
  | true => exact rekeyed needed

end

section
variable {plan : Plan} {config : Config} {compiled : Compiled} {data : SourceData} {results : List (List Record)}
variable {m : Nat} {id : NodeId} {left right : Plan} {spec : Join}

/-- A join of a compiled plan is joined on record keys, and so on the declared columns where these
hold the keys of the records it reads, as the left one does of records that are keyed anew. -/
theorem joined_on_declared (built : plan.Built) (accepted : plan.compile config = .ok compiled)
    (ran : Run.trace compiled.topology data = .ok results)
    (place : (m, Plan.join id left right spec) ∈ plan.placed 0) :
    ∃ streamed stored made,
      JoinRecords compiled.topology config results m id left right spec streamed stored made ∧
        JoinedOn (·.key) (·.key) right.schema.size streamed stored made ∧
          (left.rekeyed spec = true → left.schema.HoldsKeys spec.leftKey streamed) ∧
            ((left.rekeyed spec = false → left.schema.HoldsKeys spec.leftKey streamed) →
              right.schema.HoldsKeys spec.rightKey stored →
                JoinedOn (·.row.textOf left.schema spec.leftKey) (·.row.textOf right.schema spec.rightKey)
                  right.schema.size streamed stored made) := by
  have numbered := numbered_compiled built accepted
  have has := hasAt_compiled built accepted place
  obtain ⟨_, _, checked⟩ := checked_placed built.checked place
  obtain ⟨streamed, stored, made, records, joined⟩ := joinRecords_of_trace numbered ran has
  have rekeyed (needed : left.rekeyed spec = true) : left.schema.HoldsKeys spec.leftKey streamed :=
    holdsKeys_rekeyed numbered ran has checked needed records.streamed
  exact ⟨streamed, stored, made, records, joined, rekeyed, joinedOn_held joined rekeyed⟩

/-- So it is where the stages alone show that the declared columns hold the keys. -/
theorem joined_on_carried (built : plan.Built) (accepted : plan.compile config = .ok compiled)
    (ran : Run.trace compiled.topology data = .ok results)
    (place : (m, Plan.join id left right spec) ∈ plan.placed 0)
    (leftHeld : left.rekeyed spec = false → ∃ position, left.schema.index spec.leftKey = some position ∧
      compiled.topology.CarriesKey (left.stage config m) position)
    (rightHeld : ∃ position, right.schema.index spec.rightKey = some position ∧
      compiled.topology.CarriesKey (right.stage config (left.nextFrom m)) position) :
    ∃ streamed stored made,
      JoinRecords compiled.topology config results m id left right spec streamed stored made ∧
        JoinedOn (·.row.textOf left.schema spec.leftKey) (·.row.textOf right.schema spec.rightKey)
          right.schema.size streamed stored made := by
  have numbered := numbered_compiled built accepted
  have has := hasAt_compiled built accepted place
  obtain ⟨leftHas, rightHas, _⟩ := hasAt_join has
  obtain ⟨_, _, checked⟩ := checked_placed built.checked place
  obtain ⟨streamed, stored, made, records, joined⟩ := joinRecords_of_trace numbered ran has
  refine ⟨streamed, stored, made, records, joinedOn_held joined (fun needed => ?_) ?_ ?_⟩
  · exact holdsKeys_rekeyed numbered ran has checked needed records.streamed
  · intro same
    obtain ⟨position, column, held⟩ := leftHeld same
    have given := records.streamed
    simp only [leftInput, same] at given
    exact (Run.keyedAt_of_carriesKey numbered ran held (hasAt_own leftHas) given).holdsKeys column
  · obtain ⟨position, column, held⟩ := rightHeld
    exact (Run.keyedAt_of_carriesKey numbered ran held (hasAt_own rightHas) records.stored).holdsKeys column

end

/-- The orders paid for, keyed by their customers. -/
def paidRecords : List Record :=
  [⟨"ada", ⟨[.int32 1, .text "ada", .bool true]⟩⟩, ⟨"bob", ⟨[.int32 2, .text "bob", .bool true]⟩⟩]

/-- The last that is known of each customer. -/
def customerRecords : List Record := [⟨"ada", ⟨[.text "ada", .text "bath"]⟩⟩]

def addressedRecords : List Record :=
  [⟨"ada", ⟨[.int32 1, .text "ada", .bool true, .text "ada", .text "bath"]⟩⟩,
    ⟨"bob", ⟨[.int32 2, .text "bob", .bool true, .null, .null]⟩⟩]

theorem shipments_joined : shipments.Built ∧ ∃ compiled, shipments.compile .standard = .ok compiled ∧
    ∃ results, Run.trace compiled.topology shipmentRows = .ok results ∧
      JoinRecords compiled.topology .standard results 0 ⟨4⟩ paidOrders customers addressing
        paidRecords customerRecords addressedRecords ∧
      JoinedOn (·.row.textOf paidOrders.schema "customer") (·.row.textOf customers.schema "name")
        customers.schema.size paidRecords customerRecords addressedRecords := by
  have accepted : ∃ compiled, shipments.compile .standard = .ok compiled := ⟨_, by rfl⟩
  obtain ⟨compiled, accepted⟩ := accepted
  have topology := (compile_eq_ok shipments_built.checked accepted).2
  have place : (0, addressedOrders) ∈ shipments.placed 0 :=
    List.mem_cons_of_mem _ (List.mem_cons_of_mem _ List.mem_cons_self)
  have ran : ∃ results, Run.trace compiled.topology shipmentRows = .ok results ∧
      results[(leftInput 0 paidOrders customers addressing).stage.number]? = some paidRecords ∧
        results[(customers.stageId (paidOrders.nextFrom 0)).number]? = some customerRecords ∧
          results[(addressedOrders.stageId 0).number]? = some addressedRecords := by
    rw [topology]
    exact ⟨_, by rfl, by rfl, by rfl, by rfl⟩
  obtain ⟨results, ran, left, right, both⟩ := ran
  obtain ⟨streamed, stored, made, records, _, _, declared⟩ :=
    joined_on_declared shipments_built accepted ran place
  obtain rfl := Option.some.inj (left.symm.trans records.streamed)
  obtain rfl := Option.some.inj (right.symm.trans records.stored)
  obtain rfl := Option.some.inj (both.symm.trans records.made)
  have rekeyed : paidOrders.rekeyed addressing = true := by decide
  exact ⟨shipments_built, compiled, accepted, results, ran, records,
    declared (fun same => nomatch rekeyed.symm.trans same) (by decide)⟩

/-- What a plan's joins would be if the declared columns were what is joined on. -/
def JoinsAsDeclared (plan : Plan) (data : SourceData) : Prop :=
  ∀ (compiled : Compiled) (results : List (List Record)) (m : Nat) (id : NodeId) (left right : Plan)
    (spec : Join) (streamed stored made : List Record), plan.compile .standard = .ok compiled →
      Run.trace compiled.topology data = .ok results → (m, Plan.join id left right spec) ∈ plan.placed 0 →
        JoinRecords compiled.topology .standard results m id left right spec streamed stored made →
          JoinedOn (·.row.textOf left.schema spec.leftKey) (·.row.textOf right.schema spec.rightKey)
            right.schema.size streamed stored made

/-- Orders joined with customers by a column that is not the key of the customers. -/
def ordersByCity : Plan :=
  .output ⟨4⟩ (.join ⟨3⟩ orders customers ⟨.left, "customer", "city", "o", "c",
    orders.schema.qualified "o" ++ customers.schema.qualified "c"⟩) .console

/-- Orders joined by a column that has the name of their key and not its values. -/
def ordersByLabel : Plan :=
  let labels : Plan := .project ⟨3⟩ orders ⟨[⟨"id", .utf8, true⟩]⟩ [.column "customer"]
  .output ⟨5⟩ (.join ⟨4⟩ labels customers ⟨.left, "id", "name", "o", "c",
    labels.schema.qualified "o" ++ customers.schema.qualified "c"⟩) .console

theorem not_joinsAsDeclared :
    (ordersByCity.Built ∧ ¬ JoinsAsDeclared ordersByCity shipmentRows) ∧
      ordersByLabel.Built ∧ ¬ JoinsAsDeclared ordersByLabel shipmentRows := by
  have byCity : ordersByCity.Built :=
    .output (.join orders_built customers_built
      (show newJoin ⟨3⟩ .left orders customers "customer" "city" "o" "c" = .ok _ by rfl))
  have labels : Plan.Built _ :=
    .projectOf orders_built (show newProjectOf ⟨3⟩ orders [(.column "customer", "id")] = .ok _ by rfl)
  have byLabel : ordersByLabel.Built :=
    .output (.join labels customers_built
      (show newJoin ⟨4⟩ .left _ customers "id" "name" "o" "c" = .ok _ by rfl))
  refine ⟨⟨byCity, fun claim => ?_⟩, byLabel, fun claim => ?_⟩
  · have joined := claim _ _ 0 _ _ _ _ _ _ _ (by rfl) (by rfl) (List.mem_cons_of_mem _ List.mem_cons_self)
      ⟨by rfl, by rfl, by rfl, by rfl⟩
    cases joined with
    | cons first _ =>
      revert first
      unfold Matches
      decide
  · have joined := claim _ _ 0 _ _ _ _ _ _ _ (by rfl) (by rfl) (List.mem_cons_of_mem _ List.mem_cons_self)
      ⟨by rfl, by rfl, by rfl, by rfl⟩
    cases joined with
    | cons first _ =>
      revert first
      unfold Matches
      decide

end Plan
end StreamPlan
