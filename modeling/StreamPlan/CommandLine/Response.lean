import StreamPlan.CommandLine.Help
import StreamPlan.Compile.Basic
import StreamPlan.Json.Reader
import StreamPlan.Plan.Document
import StreamPlan.Plan.Explain
import StreamPlan.Run.Basic

/-! What the program answers to its arguments. Settings come from the environment, then from the plan
document, then from the arguments; nothing is shown of a command that fails. -/
namespace StreamPlan.CommandLine

inductive FileError where
  | missing
  | directory
  | notText
  | other (detail : String)
deriving DecidableEq, Repr

def FileError.message : FileError → String
  | .missing => "No such file or directory (os error 2)"
  | .directory => "Is a directory (os error 21)"
  | .notText => "stream did not contain valid UTF-8"
  | .other detail => detail

/-- What the program can see besides its arguments. -/
structure World where
  environment : String → Option String
  file : String → Except FileError String

inductive CommandError where
  | file (error : FileError)
  | document (error : Plan.DocumentError)
  | config (error : ConfigError)
  | compile (error : CompileError)
  | notJson
  | input (error : InputError)
  | run (error : RunError)
deriving Repr

def CommandError.message : CommandError → String
  | .file error => error.message
  | .document error => error.message
  | .config error => error.message
  | .compile error => error.message
  | .notJson => "input is not a JSON document"
  | .input error => s!"invalid input: {error.detail}"
  | .run error => error.message

/-- A line of output; the time a run took is known only once it is over. -/
inductive Line where
  | text (content : String)
  | duration
deriving DecidableEq, Repr

def Line.render (milliseconds : Nat) : Line → String
  | .text content => content
  | .duration => s!"  Duration: {Decimal.countText milliseconds}ms"

structure Response where
  code : Nat
  output : List Line
  complaint : Option String
deriving DecidableEq, Repr

abbrev Doing := Except CommandError

def liftBy (wrap : ε → CommandError) : Except ε α → Doing α
  | .ok a => .ok a
  | .error e => .error (wrap e)

namespace World

def load (world : World) (path : String) : Doing Plan.Loaded := do
  liftBy .document (Plan.load (← liftBy .file (world.file path)))

def config (world : World) (document arguments : Overrides) : Doing Config := do
  let config := ((Config.ofEnvironment world.environment).overridden document).overridden arguments
  liftBy .config config.check
  pure config

def compile (world : World) (path : String) (overrides : Overrides) : Doing (Plan × Config × Compiled) := do
  let loaded ← world.load path
  let config ← world.config loaded.overrides overrides
  pure (loaded.plan, config, ← liftBy .compile (loaded.plan.compile config))

def data (world : World) (path : String) (topology : Topology) : Doing SourceData := do
  match Json.read (← liftBy .file (world.file path)) with
  | some document => liftBy .input (SourceData.ofJson document topology)
  | none => throw .notJson

end World

def sinkLine (plan : Plan) : String :=
  match plan.sinkTopic with
  | some topic => s!"  Sink: topic '{topic}'"
  | none => "  Sink: console"

def explanation (plan : Plan) (compiled : Compiled) : List String :=
  ["Logical Plan", "============", plan.explain, "Topology", "========", compiled.topology.describe, "",
    "Result:", s!"  Kind: {compiled.handle.kind.display}", s!"  Key: {compiled.handle.key.name}",
    s!"  Schema: {compiled.handle.schema.display}", sinkLine compiled.sink,
    s!"  Topology hash: {compiled.topology.fingerprint.short}"]

def sinkLines (sinks : Run.Sinks) : List String :=
  sinks.flatMap fun (topic, records) => s!"[{topic}]" :: records.map fun record => s!"  {record.display}"

def report (topology : Topology) (outcome : Run.Outcome) : List Line :=
  (outcome.console ++ sinkLines outcome.sinks ++ ["✓ Plan executed successfully",
    s!"  Rows in: {Decimal.countText outcome.rowsIn}, rows out: {Decimal.countText outcome.rowsOut}"]).map .text ++
    [.duration, .text s!"  Topology hash: {topology.fingerprint.short}"]

namespace Command

def perform (world : World) : Command → Doing (List Line)
  | .validate path => do
    let _ ← world.load path
    pure [.text "✓ Plan is valid"]
  | .explain path overrides => do
    let (plan, _, compiled) ← world.compile path overrides
    pure ((explanation plan compiled).map .text)
  | .run path input overrides => do
    let (_, config, compiled) ← world.compile path overrides
    let data ← world.data input compiled.topology
    let outcome ← liftBy .run (compiled.topology.run data config.consoleLimit)
    pure (report compiled.topology outcome)

/-- What stands before a complaint. -/
def failure : Command → String
  | .validate _ => "Validation failed"
  | _ => "Error"

def respond (world : World) (command : Command) : Response :=
  match command.perform world with
  | .ok lines => ⟨0, lines, none⟩
  | .error e => ⟨1, [], some s!"{command.failure}: {e.message}"⟩

end Command

def usageHint : String := "For more information, try '--help'."

/-- The answer to the arguments of one call. -/
def respond (world : World) (arguments : List String) : Response :=
  match Command.ofArguments arguments with
  | .ok command => command.respond world
  | .error (.helpAsked verb) => ⟨0, verb.help.map .text, none⟩
  | .error .helpOnHelp => ⟨0, Verb.helpOnHelp.map .text, none⟩
  | .error .misuse => ⟨2, [], some usageHint⟩

end StreamPlan.CommandLine
