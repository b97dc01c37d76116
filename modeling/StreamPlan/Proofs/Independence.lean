import StreamPlan.Proofs.Beside
import StreamPlan.Proofs.Calls

/-! Compiling onto stages that are there already. A step only names stages it was given or has recorded
itself, so a plan compiled after others comes to what it comes to alone, every id moved on past the
stages that were there. This is so of steps that fail as well, and of the stages they leave. -/
namespace StreamPlan

def StageError.shift (n : Nat) : StageError → StageError
  | .unknownStage id => .unknownStage (id.shift n)
  | .notATable id => .notATable (id.shift n)
  | .missingField stage field => .missingField (stage.shift n) field
  | .codec error => .codec error

def CompileError.shift (n : Nat) : CompileError → CompileError
  | .stage error => .stage (error.shift n)
  | complaint => complaint

def Handle.shift (n : Nat) (handle : Handle) : Handle := { handle with stage := handle.stage.shift n }

def Call.shift (n : Nat) : Call → Call
  | .filter input predicate => .filter (input.shift n) predicate
  | .project input expressions schema key => .project (input.shift n) expressions schema key
  | .selectKey input key => .selectKey (input.shift n) key
  | .leftJoin left right schema key codec => .leftJoin (left.shift n) (right.shift n) schema key codec
  | .toTopic input topic codec => .toTopic (input.shift n) topic codec
  | .print input => .print (input.shift n)
  | source => source

namespace Topology

/-- What was recorded from scratch, recorded after the stages of a topology. -/
def onto (t : Topology) : Recorded → Recorded :=
  relabel (StageError.shift t.size) fun (id, u) => (id.shift t.size, t.beside u)

theorem beside_empty (t : Topology) : t.beside .empty = t := by
  simp [beside, empty]

theorem nextId_beside (t u : Topology) : (t.beside u).nextId = u.nextId.shift t.size := by
  rw [nextId, size_beside]
  rfl

theorem stage_beside (t u : Topology) (id : StageId) :
    (t.beside u).stage (id.shift t.size) =
      relabel (StageError.shift t.size) (Stage.shift t.size) (u.stage id) := by
  have here : (t.beside u).stage? (id.shift t.size) = (u.stage? id).map (Stage.shift t.size) :=
    beside_right t u id.number
  unfold stage
  rw [here]
  cases u.stage? id <;> rfl

theorem push_beside (t u : Topology) (op : StageOp) (inputs : List StageId) (schema : Schema)
    (keyField : String) (kind : Mode) :
    .ok ((t.beside u).push op (inputs.map (StageId.shift t.size)) schema keyField kind) =
      t.onto (.ok (u.push op inputs schema keyField kind)) := by
  unfold push
  rw [nextId_beside]
  simp [onto, relabel, beside, Stage.shift]

theorem keyName_shift (n : Nat) (schema : Schema) (key : String) (blamed : StageId) :
    keyName schema key (blamed.shift n) = relabel (StageError.shift n) id (keyName schema key blamed) := by
  unfold keyName
  cases schema.find key <;> rfl

theorem addAfter_beside (t u : Topology) (input : StageId) (op : StageOp) :
    (t.beside u).addAfter (input.shift t.size) op = t.onto (u.addAfter input op) := by
  unfold addAfter
  rw [stage_beside]
  exact relabel_bind fun parent => push_beside t u op [input] parent.schema parent.keyField parent.kind

/-- One call after the stages of another topology: it names its stages and gives its own as before. -/
theorem record_onto (t u : Topology) (call : Call) :
    (call.shift t.size).record (t.beside u) = t.onto (call.record u) := by
  cases call with
  | stream topic codec schema key =>
    change (t.beside u).addStream topic codec schema key = t.onto (u.addStream topic codec schema key)
    unfold addStream
    rw [nextId_beside, keyName_shift]
    exact relabel_bind fun key => push_beside t u _ [] schema key .stream
  | table topic codec store schema key =>
    change (t.beside u).addTable topic codec store schema key = t.onto (u.addTable topic codec store schema key)
    unfold addTable
    rw [nextId_beside, keyName_shift]
    exact relabel_bind fun key => push_beside t u _ [] schema key .table
  | filter input predicate => exact addAfter_beside t u input (.filter predicate)
  | project input expressions schema key =>
    change (t.beside u).addProject (input.shift t.size) expressions schema key =
      t.onto (u.addProject input expressions schema key)
    unfold addProject
    rw [stage_beside]
    exact relabel_bind fun parent => push_beside t u _ [input] schema _ parent.kind
  | selectKey input key =>
    change (t.beside u).addSelectKey (input.shift t.size) key = t.onto (u.addSelectKey input key)
    unfold addSelectKey
    rw [stage_beside]
    apply relabel_bind
    intro parent
    rw [show (parent.shift t.size).schema = parent.schema from rfl, keyName_shift]
    exact relabel_bind fun key => push_beside t u _ [input] parent.schema key .stream
  | leftJoin left right schema key codec =>
    change (t.beside u).addLeftJoin (left.shift t.size) (right.shift t.size) schema key codec =
      t.onto (u.addLeftJoin left right schema key codec)
    unfold addLeftJoin
    rw [stage_beside, stage_beside, nextId_beside, keyName_shift]
    apply relabel_bind
    intro first
    apply relabel_bind
    intro second
    rw [show (second.shift t.size).kind = second.kind from rfl]
    split
    · rfl
    · exact relabel_bind fun key => push_beside t u _ [left, right] schema key .stream
  | toTopic input topic codec => exact addAfter_beside t u input (.toTopic topic codec)
  | print input => exact addAfter_beside t u input .print

end Topology

namespace Compiling

/-- Run after the stages of a topology, the second step does what the first does without them. -/
def Echoes (t : Topology) (f : α → β) (step : Compiling α) (later : Compiling β) : Prop :=
  ∀ u, later.run (t.beside u) =
    (relabel (CompileError.shift t.size) f (step.run u).1, t.beside (step.run u).2)

variable {α β γ δ : Type} {t : Topology} {f : α → β} {g : γ → δ}

theorem echoes_pure (a : α) : Echoes t f (pure a) (pure (f a)) := fun _ => rfl

theorem echoes_throw {e : CompileError} (same : e.shift t.size = e) :
    Echoes t f (throw e) (throw e) := by
  intro u
  change (Except.error e, t.beside u) = (Except.error (e.shift t.size), t.beside u)
  rw [same]

theorem Echoes.bind {step : Compiling α} {later : Compiling β} {next : α → Compiling γ}
    {after : β → Compiling δ} (first : Echoes t f step later) (rest : ∀ a, Echoes t g (next a) (after (f a))) :
    Echoes t g (step >>= next) (later >>= after) := by
  intro u
  rw [run_bind, run_bind, first u]
  rcases step.run u with ⟨e | a, m⟩
  · rfl
  · exact rest a m

theorem echoes_guard {c : Prop} [Decidable c] {e : CompileError} {next : Unit → Compiling γ}
    {after : Unit → Compiling δ} {rest : Compiling γ} {later : Compiling δ} (same : e.shift t.size = e)
    (echoes : Echoes t g rest later) :
    Echoes t g (if c then throw e >>= next else rest) (if c then throw e >>= after else later) := by
  split
  · intro u
    rw [run_bind, run_bind]
    exact echoes_throw (f := g) same u
  · exact echoes

theorem echoes_record (call : Call) :
    Echoes t (StageId.shift t.size) (record call.record) (record (call.shift t.size).record) := by
  intro u
  rw [run_record, run_record, Topology.record_onto]
  rcases call.record u with e | ⟨id, m⟩ <;> rfl

end Compiling

/-- Two topologies side by side are what one builder records that is asked for both in turn. -/
theorem Topology.recorded_append (calls more : List Call) :
    recorded (calls ++ more.map (Call.shift (recorded calls).size)) = (recorded calls).beside (recorded more) := by
  have onto (t u : Topology) :
      (more.map (Call.shift t.size)).foldl after (t.beside u) = t.beside (more.foldl after u) := by
    induction more generalizing u with
    | nil => rfl
    | cons call rest ih =>
      have first : (t.beside u).after (call.shift t.size) = t.beside (u.after call) := by
        rw [after_eq_record, after_eq_record]
        exact congrArg Prod.snd (Compiling.echoes_record call u)
      rw [List.map_cons, List.foldl_cons, List.foldl_cons, first]
      exact ih (u.after call)
  have whole := onto (recorded calls) .empty
  rw [beside_empty] at whole
  unfold recorded at whole ⊢
  rw [List.foldl_append]
  exact whole

namespace Settings
open Compiling

variable {settings : Settings} {t : Topology}

theorem echoes_codec (settings : Settings) (codec : Codec) :
    Echoes t id (settings.codec codec) (settings.codec codec) := by
  unfold Settings.codec
  split
  · exact echoes_pure codec
  · exact echoes_throw rfl

theorem echoes_column (node : NodeId) (schema : Schema) (name : String) :
    Echoes t id (column node schema name) (column node schema name) := by
  unfold column
  split
  · rename_i field _
    exact echoes_pure field
  · exact echoes_throw rfl

theorem echoes_checkDepth (settings : Settings) (node : NodeId) (depth : Nat) :
    Echoes t id (settings.checkDepth node depth) (settings.checkDepth node depth) := by
  unfold checkDepth
  split
  · exact echoes_throw rfl
  · exact echoes_pure ()

/-- A stage recorded as the last step of a node. -/
theorem echoes_recorded (call : Call) {give later : StageId → Handle}
    (same : ∀ id, later (id.shift t.size) = (give id).shift t.size) :
    Echoes t (Handle.shift t.size) (record call.record >>= fun id => pure (give id))
      (record (call.shift t.size).record >>= fun id => pure (later id)) := by
  apply (echoes_record call).bind
  intro id
  rw [same]
  exact echoes_pure (give id)

theorem echoes_compileSource (origin : Source) :
    Echoes t (Handle.shift t.size) (settings.compileSource origin) (settings.compileSource origin) := by
  obtain ⟨topic, schema, key, mode, codec⟩ := origin
  unfold compileSource
  apply (echoes_codec settings codec).bind
  intro codec
  cases mode with
  | stream => exact echoes_recorded (.stream topic codec schema key.name) fun _ => rfl
  | table => exact echoes_recorded (.table topic codec (settings.config.storeName topic) schema key.name) fun _ => rfl

theorem echoes_compileFilter (predicate : Expr) (input : Handle) :
    Echoes t (Handle.shift t.size) (compileFilter predicate input) (compileFilter predicate (input.shift t.size)) :=
  echoes_recorded (.filter input.stage predicate) fun _ => rfl

theorem echoes_compileProject (schema : Schema) (expressions : List Expr) (input : Handle) :
    Echoes t (Handle.shift t.size) (compileProject schema expressions input)
      (compileProject schema expressions (input.shift t.size)) :=
  echoes_recorded (.project input.stage expressions schema ((schema.find input.key.name).getD input.key).name)
    fun _ => rfl

theorem echoes_rekey (key : Field) (input : Handle) :
    Echoes t (Handle.shift t.size) (rekey key input) (rekey key (input.shift t.size)) := by
  unfold rekey
  rw [show (input.shift t.size).key = input.key from rfl]
  split
  · exact echoes_pure input
  · exact echoes_recorded (.selectKey input.stage key.name) fun _ => rfl

theorem echoes_compileJoin (node : NodeId) (spec : Join) (codec : Codec) (left right : Handle) :
    Echoes t (Handle.shift t.size) (settings.compileJoin node spec codec left right)
      (settings.compileJoin node spec codec (left.shift t.size) (right.shift t.size)) := by
  unfold compileJoin
  apply echoes_guard rfl
  apply (echoes_column node left.schema spec.leftKey).bind
  intro leftKey
  apply (echoes_rekey leftKey left).bind
  intro reading
  apply (echoes_column node right.schema spec.rightKey).bind
  intro _
  cases spec.kind with
  | left =>
    apply (echoes_column node spec.schema _).bind
    intro key
    apply (echoes_codec settings codec).bind
    intro codec
    exact echoes_recorded (.leftJoin reading.stage right.stage spec.schema key.name codec) fun _ => rfl
  | inner | outer => exact echoes_throw rfl

theorem echoes_compileOutput (node : NodeId) (target : Target) (codec : Codec) (input : Handle) :
    Echoes t (Handle.shift t.size) (settings.compileOutput node target codec input)
      (settings.compileOutput node target codec (input.shift t.size)) := by
  unfold compileOutput
  cases target with
  | topic name =>
    apply echoes_guard rfl
    apply (echoes_codec settings codec).bind
    intro codec
    exact echoes_recorded (.toTopic input.stage name codec) fun _ => rfl
  | console => exact echoes_recorded (.print input.stage) fun _ => rfl

/-- Over the tree: the handles of the inputs are moved on by as much as the stages are. -/
theorem echoes_compileNode (depth : Nat) (plan : Plan) :
    Echoes t (Handle.shift t.size) (settings.compileNode depth plan) (settings.compileNode depth plan) := by
  induction plan generalizing depth with
  | source node origin =>
    unfold compileNode
    apply (echoes_checkDepth settings node depth).bind
    intro _
    exact echoes_compileSource origin
  | filter node input predicate ih =>
    unfold compileNode
    apply (echoes_checkDepth settings node depth).bind
    intro _
    apply (ih (depth + 1)).bind
    intro handle
    exact echoes_compileFilter predicate handle
  | project node input schema expressions ih =>
    unfold compileNode
    apply (echoes_checkDepth settings node depth).bind
    intro _
    apply (ih (depth + 1)).bind
    intro handle
    exact echoes_compileProject schema expressions handle
  | join node left right spec leftIh rightIh =>
    unfold compileNode
    apply (echoes_checkDepth settings node depth).bind
    intro _
    apply (leftIh (depth + 1)).bind
    intro leftHandle
    apply (rightIh (depth + 1)).bind
    intro rightHandle
    exact echoes_compileJoin node spec left.codec leftHandle rightHandle
  | output node input target ih =>
    unfold compileNode
    apply (echoes_checkDepth settings node depth).bind
    intro _
    apply echoes_guard rfl
    apply (ih (depth + 1)).bind
    intro handle
    exact echoes_compileOutput node target input.codec handle

theorem echoes_compileRoot (settings : Settings) (t : Topology) (plan : Plan) :
    Echoes t (Handle.shift t.size) (settings.compileRoot plan) (settings.compileRoot plan) := by
  cases plan with
  | output node input target => exact echoes_compileNode 1 (.output node input target)
  | source | filter | project | join => exact echoes_throw rfl

end Settings

namespace Compiler
open Compiling

def compileAll (compiler : Compiler) (plans : List Plan) : Compiler :=
  plans.foldl (fun compiler plan => (compiler.compile plan).2) compiler

theorem settings_compile (compiler : Compiler) (plan : Plan) :
    (compiler.compile plan).2.settings = compiler.settings := by
  unfold compile
  split <;> rfl

theorem settings_compileAll (compiler : Compiler) (plans : List Plan) :
    (compiler.compileAll plans).settings = compiler.settings := by
  induction plans generalizing compiler with
  | nil => rfl
  | cons plan rest ih => exact (ih _).trans (settings_compile compiler plan)

theorem compile_onto (compiler : Compiler) (plan : Plan) :
    let n := compiler.topology.size
    let alone := (start compiler.settings.registry compiler.settings.config).compile plan
    let next := compiler.compile plan
    next.1 = relabel (CompileError.shift n) (Handle.shift n) alone.1 ∧
      next.2.topology.stages = compiler.topology.stages ++ alone.2.topology.stages.map (Stage.shift n) ∧
        next.2.sink = alone.2.sink ∧ next.2.root = alone.2.root.map (Handle.shift n) := by
  have echoed := compiler.settings.echoes_compileRoot compiler.topology plan .empty
  rw [Topology.beside_empty] at echoed
  simp only [compile, echoed, start]
  rcases (compiler.settings.compileRoot plan).run .empty with ⟨e | handle, u⟩
  · exact ⟨rfl, rfl, rfl, rfl⟩
  · exact ⟨rfl, rfl, rfl, rfl⟩

/-- A plan compiled after any others, whether those compiled or not, comes to what it comes to alone,
counted from the first free place. -/
theorem compile_independent (registry : Registry) (config : Config) (earlier : List Plan) (plan : Plan) :
    let before := (start registry config).compileAll earlier
    let n := before.topology.size
    let alone := (start registry config).compile plan
    let next := before.compile plan
    next.1 = relabel (CompileError.shift n) (Handle.shift n) alone.1 ∧
      next.2.topology.stages = before.topology.stages ++ alone.2.topology.stages.map (Stage.shift n) ∧
        next.2.sink = alone.2.sink ∧ next.2.root = alone.2.root.map (Handle.shift n) := by
  intro before n alone next
  have onto := before.compile_onto plan
  rw [show before.settings = ⟨registry, config⟩ from settings_compileAll (start registry config) earlier] at onto
  exact onto

end Compiler
end StreamPlan
