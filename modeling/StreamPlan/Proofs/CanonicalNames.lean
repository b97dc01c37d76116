import StreamPlan.Proofs.Recording
import StreamPlan.Proofs.RecordKeys

/-! Names of key columns. A plan keeps the name of a key as the schema spells it, a compiler asks for that
name again, recording a stage looks it up once more and running the stage again; each time it is the same
column, also where names repeat or differ in letter case only. -/
namespace StreamPlan

namespace Schema

variable {schema : Schema} {name : String} {position : Nat} {field : Field}

/-- The name stands for the column wherever it is looked up: for a source that is made, a compiler, a stage
that is recorded, and rows that are keyed. -/
structure Designates (schema : Schema) (name : String) (position : Nat) (field : Field) : Prop where
  here : schema.fields[position]? = some field
  index : schema.index name = some position
  made : ∀ id topic mode codec,
    Plan.newSource id topic schema name mode codec = .ok (.source id ⟨topic, schema, field, mode, codec⟩)
  asked : ∀ id, Settings.column id schema name = pure field
  recorded : ∀ blamed, Topology.keyName schema name blamed = .ok field.name
  keyed : ∀ rows, Run.keyed name schema rows = rows.mapM (Run.keyedRow schema position)

theorem designates_of_index (index : schema.index name = some position)
    (here : schema.fields[position]? = some field) : schema.Designates name position field := by
  have found : schema.find name = some field := find_eq_some_iff.mpr ⟨position, index, here⟩
  refine ⟨here, index, fun id topic mode codec => ?_, fun id => ?_, fun blamed => ?_, fun rows => ?_⟩
  · exact Plan.newSource_eq_ok.mpr ⟨field, found, rfl⟩
  · simp only [Settings.column, found]
  · exact Topology.keyName_eq_ok.mpr ⟨field, found, rfl⟩
  · simp only [Run.keyed, index]

/-- The column's own name stands for it as well. -/
theorem Designates.again (designates : schema.Designates name position field) :
    schema.Designates field.name position field :=
  designates_of_index (index_found designates.index designates.here) designates.here

theorem Designates.find (designates : schema.Designates name position field) : schema.find name = some field :=
  find_eq_some_iff.mpr ⟨position, designates.index, designates.here⟩

/-- A key of the left side of a join stands, qualified, for the same column of the joined rows. -/
theorem Designates.joined {left : Schema} (designates : left.Designates name position field) (right : Schema)
    (owner other : String) :
    (left.qualified owner ++ right.qualified other).Designates s!"{owner}.{field.name}" position
      (field.qualified owner) := by
  have index : (left.qualified owner ++ right.qualified other).index s!"{owner}.{field.name}" = some position :=
    index_joined designates.index designates.here
  obtain ⟨place, found, here⟩ := find_eq_some_iff.mp (find_joined designates.find)
  cases index.symm.trans found
  exact designates_of_index index here

end Schema

namespace Topology

variable {t : Topology} {n position : Nat} {schema : Schema}

/-- The stage with the number has the column for its key, under the column's own name. -/
def NamesKey (t : Topology) (n : Nat) (schema : Schema) (position : Nat) : Prop :=
  ∃ stage field, t.stages[n]? = some stage ∧ stage.schema = schema ∧ stage.keyField = field.name ∧
    schema.Designates stage.keyField position field

/-- And whatever is run, its records have their keys from the column. -/
def KeysBy (t : Topology) (n : Nat) (schema : Schema) (position : Nat) : Prop :=
  t.NamesKey n schema position ∧ ∀ data results records,
    Run.trace t data = .ok results → results[n]? = some records → KeyedAt records position

theorem namesKey_of_keyField {stage : Stage} {field : Field} (recorded : t.stages[n]? = some stage)
    (key : stage.keyField = field.name) (designates : stage.schema.Designates field.name position field) :
    t.NamesKey n stage.schema position :=
  ⟨stage, field, recorded, rfl, key, key ▸ designates⟩

theorem keysBy_of_makesKeys {stage : Stage} {field : Field} (recorded : t.stages[n]? = some stage)
    (op : stage.op.makesKeys = true) (key : stage.keyField = field.name)
    (designates : stage.schema.Designates field.name position field) : t.KeysBy n stage.schema position :=
  ⟨namesKey_of_keyField recorded key designates, fun _ _ _ ran given =>
    Run.keyedAt_made op (key ▸ designates.index) (Run.stageRecords_of_trace ran recorded given)⟩

end Topology

namespace Compiler

variable {compiler after : Compiler} {plan : Plan} {handle : Handle} {m position : Nat} {field : Field}
  {name : String}

theorem keysBy_source (built : plan.Built) (accepted : compiler.compile plan = (.ok handle, after)) {id : NodeId}
    {origin : Source} (place : (m, .source id origin) ∈ plan.placed compiler.topology.size)
    (designates : origin.schema.Designates name position origin.key) :
    after.topology.KeysBy m origin.schema position := by
  have own := Plan.hasAt_own (hasAt_compile built accepted place)
  have op : (Plan.op compiler.settings.config (.source id origin)).makesKeys = true := by
    cases mode : origin.mode <;> simp [Plan.op, mode, StageOp.makesKeys]
  exact Topology.keysBy_of_makesKeys own op rfl designates.again

theorem namesKey_project (built : plan.Built) (accepted : compiler.compile plan = (.ok handle, after)) {id : NodeId}
    {input : Plan} {schema : Schema} {expressions : List Expr}
    (place : (m, .project id input schema expressions) ∈ plan.placed compiler.topology.size)
    (designates : schema.Designates input.key.name position field) :
    after.topology.NamesKey ((Plan.project id input schema expressions).stageId m).number schema position := by
  have own := Plan.hasAt_own (hasAt_compile built accepted place)
  have key : (Plan.project id input schema expressions).key = field := by
    simp only [Plan.key, designates.find, Option.getD_some]
  exact Topology.namesKey_of_keyField own (congrArg Field.name key) designates.again

theorem keysBy_join (built : plan.Built) (accepted : compiler.compile plan = (.ok handle, after)) {id : NodeId}
    {left right : Plan} {spec : Join} (place : (m, .join id left right spec) ∈ plan.placed compiler.topology.size)
    (designates : left.schema.Designates spec.leftKey position field) :
    (left.rekeyed spec = true →
        after.topology.KeysBy (right.nextFrom (left.nextFrom m)) left.schema position) ∧
      after.topology.KeysBy ((Plan.join id left right spec).stageId m).number spec.schema position := by
  have has := hasAt_compile built accepted place
  have checked := Plan.checked_placed built.checked place
  have column : left.joinColumn spec = field := Plan.joinColumn_eq designates.find
  constructor
  · intro needed
    have recorded := (Plan.hasAt_join has).2.2 0 (Plan.rekeyStage m left right spec)
      (by simp [Plan.rekeyStages, needed])
    exact Topology.keysBy_of_makesKeys recorded rfl (congrArg Field.name column) designates.again
  · have own := Plan.hasAt_own has
    have key : (Plan.join id left right spec).key = field.qualified spec.leftAlias :=
      congrArg (Field.qualified spec.leftAlias) column
    have joined := designates.joined right.schema spec.leftAlias spec.rightAlias
    rw [← checked.2.2.schema] at joined
    exact Topology.keysBy_of_makesKeys own rfl (congrArg Field.name key) joined

/-- A name that is found stands for one column in every look-up, and so does the column's own name, which is
what plans and stages keep: they key by the column that was named. -/
theorem resolved_again {schema : Schema} (found : schema.index name = some position) :
    ∃ field, schema.Designates name position field ∧ schema.Designates field.name position field ∧
      ∀ (compiler after : Compiler) (plan : Plan) (handle : Handle), plan.Built →
        compiler.compile plan = (.ok handle, after) →
          (∀ m id topic mode codec,
            (m, .source id ⟨topic, schema, field, mode, codec⟩) ∈ plan.placed compiler.topology.size →
              after.topology.KeysBy m schema position) ∧
          (∀ m id input expressions,
            (m, .project id input schema expressions) ∈ plan.placed compiler.topology.size →
              input.key.name = name → after.topology.NamesKey
                ((Plan.project id input schema expressions).stageId m).number schema position) ∧
          ∀ m id left right spec, (m, .join id left right spec) ∈ plan.placed compiler.topology.size →
            left.schema = schema → spec.leftKey = name →
              (left.rekeyed spec = true →
                after.topology.KeysBy (right.nextFrom (left.nextFrom m)) schema position) ∧
              after.topology.KeysBy ((Plan.join id left right spec).stageId m).number spec.schema position := by
  obtain ⟨field, here, _⟩ := Schema.index_eq_some found
  have designates := Schema.designates_of_index found here
  refine ⟨field, designates, designates.again, fun compiler after plan handle built accepted => ⟨?_, ?_, ?_⟩⟩
  · intro m id topic mode codec place
    exact keysBy_source built accepted place designates
  · rintro m id input expressions place rfl
    exact namesKey_project built accepted place designates
  · rintro m id left right spec place rfl rfl
    exact keysBy_join built accepted place designates

/-- Three spellings of one name, one of them twice. -/
def spellings : Schema :=
  ⟨[⟨"Id", .utf8, true⟩, ⟨"id", .int64, true⟩, ⟨"ID", .boolean, true⟩, ⟨"id", .int32, true⟩]⟩

def spelled : Plan := .source ⟨1⟩ ⟨"spelled", spellings, ⟨"Id", .utf8, true⟩, .stream, .json⟩

def naming : Join :=
  ⟨.left, "iD", "name", "s", "c", spellings.qualified "s" ++ Plan.customers.schema.qualified "c"⟩

def named : Plan := .join ⟨3⟩ spelled Plan.customers naming

theorem resolved_again_spellings :
    spellings.index "iD" = some 0 ∧ spellings.Designates "Id" 0 ⟨"Id", .utf8, true⟩ ∧
      ∃ handle after,
        (start .standard .standard).compile (.output ⟨4⟩ named (.topic "out")) = (.ok handle, after) ∧
          after.topology.KeysBy 0 spellings 0 ∧ after.topology.KeysBy (named.stageId 0).number named.schema 0 := by
  have found : spellings.index "iD" = some 0 := by decide
  obtain ⟨field, _, again, compiles⟩ := resolved_again found
  obtain rfl : ⟨"Id", .utf8, true⟩ = field := Option.some.inj again.here
  have source : spelled.Built :=
    .source (show Plan.newSource ⟨1⟩ "spelled" spellings "iD" .stream .json = .ok _ by rfl)
  have built : (Plan.output ⟨4⟩ named (.topic "out")).Built :=
    .output (.join source Plan.customers_built
      (show Plan.newJoin ⟨3⟩ .left spelled Plan.customers "iD" "name" "s" "c" = .ok _ by rfl))
  have accepted : ∃ handle after,
      (start .standard .standard).compile (.output ⟨4⟩ named (.topic "out")) = (.ok handle, after) :=
    ⟨_, _, by rfl⟩
  obtain ⟨handle, after, accepted⟩ := accepted
  obtain ⟨sources, _, joins⟩ := compiles _ _ _ _ built accepted
  have keyed := sources 0 ⟨1⟩ "spelled" .stream .json (.tail _ (.tail _ (List.mem_append_left _ (.head _))))
  have joined := joins 0 ⟨3⟩ spelled Plan.customers naming (.tail _ (.head _)) rfl rfl
  exact ⟨found, again, handle, after, accepted, keyed, joined.2⟩

end Compiler

end StreamPlan
