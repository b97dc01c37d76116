import StreamPlan.Proofs.Compiling

/-! Steps read backwards: what must have been recorded when one succeeds, and what one that fails
leaves behind. Nothing is asked of the plan or of the topology a step starts from. -/
namespace StreamPlan

namespace Topology

variable {t u : Topology} {id : StageId}

theorem keyName_eq_ok {schema : Schema} {key name : String} {blamed : StageId} :
    keyName schema key blamed = .ok name ↔ ∃ field, schema.find key = some field ∧ field.name = name := by
  cases found : schema.find key <;> simp [keyName, found]

theorem addStream_eq_ok {topic : String} {codec : Codec} {schema : Schema} {key : String} :
    t.addStream topic codec schema key = .ok (id, u) ↔ ∃ field, schema.find key = some field ∧
      t.push (.streamSource topic codec) [] schema field.name .stream = (id, u) := by
  simp [addStream, bind_eq_ok, keyName_eq_ok]

theorem addTable_eq_ok {topic : String} {codec : Codec} {store : String} {schema : Schema} {key : String} :
    t.addTable topic codec store schema key = .ok (id, u) ↔ ∃ field, schema.find key = some field ∧
      t.push (.tableSource topic codec store) [] schema field.name .table = (id, u) := by
  simp [addTable, bind_eq_ok, keyName_eq_ok]

theorem addAfter_eq_ok {input : StageId} {op : StageOp} :
    t.addAfter input op = .ok (id, u) ↔ ∃ parent, t.stages[input.number]? = some parent ∧
      t.push op [input] parent.schema parent.keyField parent.kind = (id, u) := by
  simp [addAfter, bind_eq_ok, stage_eq_ok]

theorem addProject_eq_ok {input : StageId} {expressions : List Expr} {schema : Schema} {key : String} :
    t.addProject input expressions schema key = .ok (id, u) ↔
      ∃ parent, t.stages[input.number]? = some parent ∧ t.push (.project expressions) [input] schema
        (((schema.find key).map (·.name)).getD key) parent.kind = (id, u) := by
  simp [addProject, bind_eq_ok, stage_eq_ok]

theorem addSelectKey_eq_ok {input : StageId} {key : String} :
    t.addSelectKey input key = .ok (id, u) ↔ ∃ parent, t.stages[input.number]? = some parent ∧
      ∃ field, parent.schema.find key = some field ∧
        t.push (.selectKey field.name) [input] parent.schema field.name .stream = (id, u) := by
  simp [addSelectKey, bind_eq_ok, stage_eq_ok, keyName_eq_ok]

theorem addLeftJoin_eq_ok {stream table : StageId} {schema : Schema} {key : String} {codec : Codec} :
    t.addLeftJoin stream table schema key codec = .ok (id, u) ↔
      ∃ left right, t.stages[stream.number]? = some left ∧ t.stages[table.number]? = some right ∧
        right.kind = .table ∧ ∃ field, schema.find key = some field ∧
          t.push (.leftJoin codec) [stream, table] schema field.name .stream = (id, u) := by
  simp only [addLeftJoin, bind_eq_ok, stage_eq_ok, throw_eq_error, error_bind, refused_eq_ok, keyName_eq_ok,
    not_not, pure_eq_ok, Except.ok.injEq]
  constructor
  · rintro ⟨left, here, right, there, table, _, ⟨field, found, rfl⟩, pushed⟩
    exact ⟨left, right, here, there, table, field, found, pushed⟩
  · rintro ⟨left, right, here, there, table, field, found, pushed⟩
    exact ⟨left, here, right, there, table, _, ⟨field, found, rfl⟩, pushed⟩

end Topology

namespace Compiling

/-- From a topology the step gives the result and leaves the second topology. -/
def Gives (step : Compiling α) (t : Topology) (a : α) (u : Topology) : Prop := step.run t = (.ok a, u)

/-- From a topology the step fails with the error and leaves the second topology. -/
def Stops (step : Compiling α) (t : Topology) (e : CompileError) (u : Topology) : Prop :=
  step.run t = (.error e, u)

variable {t u : Topology}

theorem gives_bind {step : Compiling α} {next : α → Compiling β} {b : β} :
    Gives (step >>= next) t b u ↔ ∃ a m, Gives step t a m ∧ Gives (next a) m b u := by
  unfold Gives
  rw [run_bind]
  rcases step.run t with ⟨e | a, m⟩
  · exact ⟨nofun, fun ⟨_, _, first, _⟩ => nomatch first⟩
  · constructor
    · exact fun rest => ⟨a, m, rfl, rest⟩
    · rintro ⟨_, _, ⟨⟩, rest⟩
      exact rest

theorem stops_bind {step : Compiling α} {next : α → Compiling β} {e : CompileError} :
    Stops (step >>= next) t e u ↔ Stops step t e u ∨ ∃ a m, Gives step t a m ∧ Stops (next a) m e u := by
  unfold Stops Gives
  rw [run_bind]
  rcases step.run t with ⟨_ | a, m⟩
  · constructor
    · intro first
      cases first
      exact .inl rfl
    · rintro (⟨⟨⟩⟩ | ⟨_, _, ⟨⟩, _⟩)
      rfl
  · constructor
    · exact fun rest => .inr ⟨a, m, rfl, rest⟩
    · rintro (first | ⟨_, _, ⟨⟩, rest⟩)
      · cases first
      · exact rest

theorem gives_pure {a b : α} : Gives (pure a) t b u ↔ a = b ∧ t = u := by
  change ((Except.ok a, t) : Except CompileError α × Topology) = (.ok b, u) ↔ _
  simp

theorem not_stops_pure {a : α} {e : CompileError} : ¬ Stops (pure a) t e u := nofun

theorem not_gives_throw {e : CompileError} {a : α} : ¬ Gives (throw e) t a u := nofun

theorem stops_throw {e raised : CompileError} :
    Stops (throw e : Compiling α) t raised u ↔ e = raised ∧ t = u := by
  change ((Except.error e, t) : Except CompileError α × Topology) = (.error raised, u) ↔ _
  simp

theorem gives_guard {c : Prop} [Decidable c] {e : CompileError} {after : β → Compiling α} {rest : Compiling α}
    {a : α} : Gives (if c then throw e >>= after else rest) t a u ↔ ¬ c ∧ Gives rest t a u := by
  by_cases refused : c
  · simp [refused, not_gives_throw]
  · simp [refused]

theorem stops_guard {c : Prop} [Decidable c] {e raised : CompileError} {after : β → Compiling α}
    {rest : Compiling α} (stopped : Stops (if c then throw e >>= after else rest) t raised u) :
    u = t ∨ ¬ c ∧ Stops rest t raised u := by
  by_cases refused : c
  · rw [if_pos refused] at stopped
    rcases stops_bind.mp stopped with stopped | ⟨_, _, given, _⟩
    · exact .inl (stops_throw.mp stopped).2.symm
    · exact (not_gives_throw given).elim
  · rw [if_neg refused] at stopped
    exact .inr ⟨refused, stopped⟩

theorem gives_record {step : Topology → Topology.Recorded} {id : StageId} :
    Gives (record step) t id u ↔ step t = .ok (id, u) := by
  unfold Gives
  rw [run_record]
  rcases step t with e | ⟨made, m⟩
  · exact ⟨nofun, nofun⟩
  · change ((Except.ok made, m) : Except CompileError StageId × Topology) = (.ok id, u) ↔ _
    simp

theorem stops_record {step : Topology → Topology.Recorded} {e : CompileError}
    (stopped : Stops (record step) t e u) : u = t := by
  unfold Stops at stopped
  rw [run_record] at stopped
  cases result : step t with
  | ok =>
    rw [result] at stopped
    cases stopped
  | error =>
    rw [result] at stopped
    cases stopped
    rfl

end Compiling

namespace Settings
open Compiling

variable {settings : Settings} {t u : Topology}

theorem gives_codec {codec given : Codec} : Gives (settings.codec codec) t given u ↔
    settings.registry.refusal codec = none ∧ codec = given ∧ t = u := by
  unfold Settings.codec
  cases settings.registry.refusal codec with
  | none => simp [gives_pure]
  | some => simp [not_gives_throw]

theorem stops_codec {codec : Codec} {e : CompileError} (stopped : Stops (settings.codec codec) t e u) :
    u = t := by
  unfold Settings.codec at stopped
  split at stopped
  · exact (not_stops_pure stopped).elim
  · exact (stops_throw.mp stopped).2.symm

theorem gives_column {id : NodeId} {schema : Schema} {name : String} {field : Field} :
    Gives (column id schema name) t field u ↔ schema.find name = some field ∧ t = u := by
  unfold column
  cases schema.find name with
  | none => simp [not_gives_throw]
  | some => simp [gives_pure]

theorem stops_column {id : NodeId} {schema : Schema} {name : String} {e : CompileError}
    (stopped : Stops (column id schema name) t e u) : u = t := by
  unfold column at stopped
  split at stopped
  · exact (not_stops_pure stopped).elim
  · exact (stops_throw.mp stopped).2.symm

theorem gives_checkDepth {id : NodeId} {depth : Nat} {a : Unit} :
    Gives (settings.checkDepth id depth) t a u ↔ depth ≤ settings.config.maxDepth ∧ t = u := by
  unfold checkDepth
  by_cases deep : settings.config.maxDepth < depth
  · simp [deep, not_gives_throw, Nat.not_le_of_lt deep]
  · simp [deep, gives_pure, Nat.le_of_not_gt deep]

theorem stops_checkDepth {id : NodeId} {depth : Nat} {e : CompileError}
    (stopped : Stops (settings.checkDepth id depth) t e u) :
    settings.config.maxDepth < depth ∧ u = t := by
  unfold checkDepth at stopped
  split at stopped
  · rename_i deep
    exact ⟨deep, (stops_throw.mp stopped).2.symm⟩
  · exact (not_stops_pure stopped).elim

/-- The depth of a node is looked at before anything else. -/
theorem gives_within {id : NodeId} {depth : Nat} {rest : Compiling α} {a : α} :
    Gives (settings.checkDepth id depth >>= fun _ => rest) t a u ↔
      depth ≤ settings.config.maxDepth ∧ Gives rest t a u := by
  constructor
  · intro given
    obtain ⟨_, _, checked, given⟩ := gives_bind.mp given
    obtain ⟨within, rfl⟩ := gives_checkDepth.mp checked
    exact ⟨within, given⟩
  · rintro ⟨within, given⟩
    exact gives_bind.mpr ⟨(), t, gives_checkDepth.mpr ⟨within, rfl⟩, given⟩

theorem stops_within {id : NodeId} {depth : Nat} {rest : Compiling α} {e : CompileError}
    (stopped : Stops (settings.checkDepth id depth >>= fun _ => rest) t e u) :
    settings.config.maxDepth < depth ∧ u = t ∨ depth ≤ settings.config.maxDepth ∧ Stops rest t e u := by
  rcases stops_bind.mp stopped with stopped | ⟨_, _, checked, stopped⟩
  · exact .inl (stops_checkDepth stopped)
  · obtain ⟨within, rfl⟩ := gives_checkDepth.mp checked
    exact .inr ⟨within, stopped⟩

variable {below handle : Handle}

theorem gives_recorded {step : Topology → Topology.Recorded} {give : StageId → Handle} :
    Gives (record step >>= fun id => pure (give id)) t handle u ↔
      ∃ id, step t = .ok (id, u) ∧ give id = handle := by
  constructor
  · intro given
    obtain ⟨id, _, recorded, made⟩ := gives_bind.mp given
    obtain ⟨rfl, rfl⟩ := gives_pure.mp made
    exact ⟨id, gives_record.mp recorded, rfl⟩
  · rintro ⟨id, recorded, rfl⟩
    exact gives_bind.mpr ⟨id, u, gives_record.mpr recorded, gives_pure.mpr ⟨rfl, rfl⟩⟩

theorem stops_recorded {step : Topology → Topology.Recorded} {give : StageId → Handle} {e : CompileError}
    (stopped : Stops (record step >>= fun id => pure (give id)) t e u) : u = t := by
  rcases stops_bind.mp stopped with stopped | ⟨_, _, _, stopped⟩
  · exact stops_record stopped
  · exact (not_stops_pure stopped).elim

/-- The codec is asked for before the stage is recorded. -/
theorem gives_coded {codec : Codec} {step : Codec → Topology → Topology.Recorded} {give : StageId → Handle} :
    Gives (settings.codec codec >>= fun codec => record (step codec) >>= fun id => pure (give id)) t handle u ↔
      settings.registry.refusal codec = none ∧ ∃ id, step codec t = .ok (id, u) ∧ give id = handle := by
  constructor
  · intro given
    obtain ⟨_, _, coded, given⟩ := gives_bind.mp given
    obtain ⟨accepted, rfl, rfl⟩ := gives_codec.mp coded
    exact ⟨accepted, gives_recorded.mp given⟩
  · rintro ⟨accepted, recorded⟩
    exact gives_bind.mpr ⟨codec, t, gives_codec.mpr ⟨accepted, rfl, rfl⟩, gives_recorded.mpr recorded⟩

theorem stops_coded {codec : Codec} {step : Codec → Topology → Topology.Recorded} {give : StageId → Handle}
    {e : CompileError}
    (stopped : Stops (settings.codec codec >>= fun codec => record (step codec) >>= fun id => pure (give id)) t e u) :
    u = t := by
  rcases stops_bind.mp stopped with stopped | ⟨_, _, coded, stopped⟩
  · exact stops_codec stopped
  · obtain ⟨_, _, rfl⟩ := gives_codec.mp coded
    exact stops_recorded stopped

theorem gives_compileJoin {id : NodeId} {spec : Join} {codec : Codec} {left right : Handle}
    (given : Gives (settings.compileJoin id spec codec left right) t handle u) :
    spec.kind = .left ∧ ∃ leftKey, left.schema.find spec.leftKey = some leftKey ∧
      ∃ reading m, Gives (rekey leftKey left) t reading m ∧
        ∃ key, spec.schema.find s!"{spec.leftAlias}.{leftKey.name}" = some key ∧
          ∃ stage, m.addLeftJoin reading.stage right.stage spec.schema key.name codec = .ok (stage, u) ∧
            (⟨.stream, spec.schema, key, stage⟩ : Handle) = handle := by
  unfold compileJoin at given
  obtain ⟨_, given⟩ := gives_guard.mp given
  obtain ⟨leftKey, _, leftColumn, given⟩ := gives_bind.mp given
  obtain ⟨found, rfl⟩ := gives_column.mp leftColumn
  obtain ⟨reading, m, rekeyed, given⟩ := gives_bind.mp given
  obtain ⟨_, _, rightColumn, given⟩ := gives_bind.mp given
  obtain ⟨_, rfl⟩ := gives_column.mp rightColumn
  cases kind : spec.kind with
  | left =>
    rw [kind] at given
    obtain ⟨key, _, keyColumn, given⟩ := gives_bind.mp given
    obtain ⟨keyFound, rfl⟩ := gives_column.mp keyColumn
    obtain ⟨_, recorded⟩ := gives_coded.mp given
    exact ⟨rfl, leftKey, found, reading, _, rekeyed, key, keyFound, recorded⟩
  | inner | outer =>
    rw [kind] at given
    exact (not_gives_throw given).elim

theorem stops_compileSource {origin : Source} {e : CompileError}
    (stopped : Stops (settings.compileSource origin) t e u) : u = t := by
  obtain ⟨topic, schema, key, mode, codec⟩ := origin
  unfold compileSource at stopped
  cases mode with
  | stream => exact stops_coded stopped
  | table => exact stops_coded stopped

theorem stops_rekey {key : Field} {e : CompileError} (stopped : Stops (rekey key below) t e u) : u = t := by
  unfold rekey at stopped
  split at stopped
  · exact (not_stops_pure stopped).elim
  · exact stops_recorded stopped

/-- A join that fails has recorded at most the stage that keys its left input anew. -/
theorem stops_compileJoin {id : NodeId} {spec : Join} {codec : Codec} {left right : Handle} {e : CompileError}
    (stopped : Stops (settings.compileJoin id spec codec left right) t e u) :
    u = t ∨ ∃ leftKey reading, left.schema.find spec.leftKey = some leftKey ∧ Gives (rekey leftKey left) t reading u := by
  unfold compileJoin at stopped
  rcases stops_guard stopped with same | ⟨_, stopped⟩
  · exact .inl same
  rcases stops_bind.mp stopped with stopped | ⟨leftKey, _, leftColumn, stopped⟩
  · exact .inl (stops_column stopped)
  obtain ⟨found, rfl⟩ := gives_column.mp leftColumn
  rcases stops_bind.mp stopped with stopped | ⟨reading, m, rekeyed, stopped⟩
  · exact .inl (stops_rekey stopped)
  -- nothing is recorded from here on
  suffices u = m from .inr ⟨leftKey, reading, found, this ▸ rekeyed⟩
  rcases stops_bind.mp stopped with stopped | ⟨_, _, rightColumn, stopped⟩
  · exact stops_column stopped
  obtain ⟨_, rfl⟩ := gives_column.mp rightColumn
  cases kind : spec.kind with
  | left =>
    rw [kind] at stopped
    rcases stops_bind.mp stopped with stopped | ⟨_, _, keyColumn, stopped⟩
    · exact stops_column stopped
    obtain ⟨_, rfl⟩ := gives_column.mp keyColumn
    exact stops_coded stopped
  | inner | outer =>
    rw [kind] at stopped
    exact (stops_throw.mp stopped).2.symm

theorem stops_compileOutput {id : NodeId} {target : Target} {codec : Codec} {e : CompileError}
    (stopped : Stops (settings.compileOutput id target codec below) t e u) : u = t := by
  unfold compileOutput at stopped
  cases target with
  | topic name =>
    rcases stops_guard stopped with same | ⟨_, stopped⟩
    · exact same
    · exact stops_coded stopped
  | console => exact stops_recorded stopped

end Settings

namespace Compiler
open Compiling

variable {compiler after : Compiler} {plan : Plan} {handle : Handle} {e : CompileError}

theorem gives_of_compile (compiled : compiler.compile plan = (.ok handle, after)) :
    Gives (compiler.settings.compileRoot plan) compiler.topology handle after.topology := by
  unfold compile at compiled
  split at compiled
  · rename_i ran
    cases compiled
    exact ran
  · cases compiled

theorem stops_of_compile (failed : compiler.compile plan = (.error e, after)) :
    Stops (compiler.settings.compileRoot plan) compiler.topology e after.topology := by
  unfold compile at failed
  split at failed
  · cases failed
  · rename_i ran
    cases failed
    exact ran

end Compiler
end StreamPlan
