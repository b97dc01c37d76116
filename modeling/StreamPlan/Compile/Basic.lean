import StreamPlan.Compile.Handle
import StreamPlan.Config

/-! Plans compiled to stages: inputs before the node that reads them, left before right. A join reads
its left input by the declared key, so that input is keyed anew unless its key already has that
name. Stages recorded before a compilation fails stay recorded. -/
namespace StreamPlan

inductive CompileError where
  | nestedOutput (id : NodeId) (kind : String)
  | rightNotTable (id : NodeId) (left right : Mode)
  | joinKind (id : NodeId) (kind : JoinKind)
  | blankSink (id : NodeId)
  | rootNotOutput (id : NodeId) (kind : String)
  | missingField (id : NodeId) (field : String)
  | tooDeep (id : NodeId) (limit : Nat)
  | stage (error : StageError)
deriving DecidableEq, Repr

def CompileError.message : CompileError → String
  | .nestedOutput id kind => s!"unsupported plan node {kind} {id.display}"
  | .rightNotTable id left right =>
    s!"join {id.display}: right input must be a table (left is {left.display}, right is {right.display})"
  | .joinKind id kind => s!"join {id.display}: {kind.display} joins are not supported"
  | .blankSink id => s!"output {id.display}: sink destination name is blank"
  | .rootNotOutput id kind => s!"plan root {kind} {id.display} is not an output node"
  | .missingField id field => s!"node {id.display}: field '{field}' not found"
  | .tooDeep id limit => s!"plan is nested deeper than {Decimal.countText limit} at node {id.display}"
  | .stage error => error.message

/-- A step that may record stages; what it has recorded stays when it fails. -/
abbrev Compiling := ExceptT CompileError (StateM Topology)

namespace Compiling

def record (step : Topology → Topology.Recorded) : Compiling StageId := do
  match step (← get) with
  | .ok (id, topology) => set topology; pure id
  | .error e => throw (.stage e)

end Compiling

structure Settings where
  registry : Registry
  config : Config
deriving Repr

namespace Settings

def codec (settings : Settings) (codec : Codec) : Compiling Codec :=
  match settings.registry.refusal codec with
  | none => pure codec
  | some e => throw (.stage (.codec e))

def column (id : NodeId) (schema : Schema) (name : String) : Compiling Field :=
  match schema.find name with
  | some field => pure field
  | none => throw (.missingField id name)

def compileSource (settings : Settings) (origin : Source) : Compiling Handle := do
  let codec ← settings.codec origin.codec
  let stage ← match origin.mode with
    | .stream => Compiling.record (·.addStream origin.topic codec origin.schema origin.key.name)
    | .table =>
      let store := settings.config.storeName origin.topic
      Compiling.record (·.addTable origin.topic codec store origin.schema origin.key.name)
  pure ⟨origin.mode, origin.schema, origin.key, stage⟩

def compileFilter (predicate : Expr) (input : Handle) : Compiling Handle := do
  let stage ← Compiling.record (·.addFilter input.stage predicate)
  pure { input with stage := stage }

/-- The key column keeps its place under the name the new schema has for it. -/
def compileProject (schema : Schema) (expressions : List Expr) (input : Handle) : Compiling Handle := do
  let key := (schema.find input.key.name).getD input.key
  let stage ← Compiling.record (·.addProject input.stage expressions schema key.name)
  pure { input with schema := schema, key := key, stage := stage }

/-- The input keyed by the given column. -/
def rekey (key : Field) (input : Handle) : Compiling Handle := do
  if input.key.isNamed key.name then pure input
  else
    let stage ← Compiling.record (·.addSelectKey input.stage key.name)
    pure { input with kind := .stream, key := key, stage := stage }

def compileJoin (settings : Settings) (id : NodeId) (spec : Join) (codec : Codec) (left right : Handle) :
    Compiling Handle := do
  if !right.isTable then throw (.rightNotTable id left.kind right.kind)
  let leftKey ← column id left.schema spec.leftKey
  let left ← rekey leftKey left
  let _ ← column id right.schema spec.rightKey
  match spec.kind with
  | .left =>
    let key ← column id spec.schema s!"{spec.leftAlias}.{leftKey.name}"
    let codec ← settings.codec codec
    let stage ← Compiling.record (·.addLeftJoin left.stage right.stage spec.schema key.name codec)
    pure ⟨.stream, spec.schema, key, stage⟩
  | kind => throw (.joinKind id kind)

def compileOutput (settings : Settings) (id : NodeId) (target : Target) (codec : Codec) (input : Handle) :
    Compiling Handle := do
  let stage ← match target with
    | .topic name =>
      if Text.allBlank name then throw (.blankSink id)
      let codec ← settings.codec codec
      Compiling.record (·.addToTopic input.stage name codec)
    | .console => Compiling.record (·.addPrint input.stage)
  pure { input with stage := stage }

/-- The node stands at the given depth, the root at one. -/
def checkDepth (settings : Settings) (id : NodeId) (depth : Nat) : Compiling Unit :=
  if settings.config.maxDepth < depth then throw (.tooDeep id settings.config.maxDepth) else pure ()

def compileNode (settings : Settings) (depth : Nat) : Plan → Compiling Handle
  | .source id origin => do
    settings.checkDepth id depth
    settings.compileSource origin
  | .filter id input predicate => do
    settings.checkDepth id depth
    compileFilter predicate (← compileNode settings (depth + 1) input)
  | .project id input schema expressions => do
    settings.checkDepth id depth
    compileProject schema expressions (← compileNode settings (depth + 1) input)
  | .join id left right spec => do
    settings.checkDepth id depth
    let leftHandle ← compileNode settings (depth + 1) left
    let rightHandle ← compileNode settings (depth + 1) right
    settings.compileJoin id spec left.codec leftHandle rightHandle
  | .output id input target => do
    settings.checkDepth id depth
    if depth ≠ 1 then throw (.nestedOutput id (Plan.output id input target).kindName)
    settings.compileOutput id target input.codec (← compileNode settings (depth + 1) input)

/-- Compiles a whole plan, whose root must be an output. -/
def compileRoot (settings : Settings) (plan : Plan) : Compiling Handle :=
  match plan with
  | .output .. => settings.compileNode 1 plan
  | _ => throw (.rootNotOutput plan.id plan.kindName)

end Settings

/-- A compiler goes on recording into one topology, plan after plan; it remembers the output node and
the handle of the last plan, if that one compiled. -/
structure Compiler where
  settings : Settings
  topology : Topology
  sink : Option Plan
  root : Option Handle

namespace Compiler

def start (registry : Registry) (config : Config) : Compiler := ⟨⟨registry, config⟩, .empty, none, none⟩

def compile (compiler : Compiler) (plan : Plan) : Except CompileError Handle × Compiler :=
  match (compiler.settings.compileRoot plan).run compiler.topology with
  | (.ok handle, topology) =>
    (.ok handle, { compiler with topology := topology, sink := some plan, root := some handle })
  | (.error e, topology) => (.error e, { compiler with topology := topology, sink := none, root := none })

end Compiler

structure Compiled where
  handle : Handle
  sink : Plan
  topology : Topology
deriving Repr

/-- Compiles one plan by itself with the standard formats. -/
def Plan.compile (plan : Plan) (config : Config) : Except CompileError Compiled :=
  match (Compiler.start .standard config).compile plan with
  | (.ok handle, compiler) => .ok ⟨handle, plan, compiler.topology⟩
  | (.error e, _) => .error e

end StreamPlan
