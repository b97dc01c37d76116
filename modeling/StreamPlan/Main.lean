import StreamPlan.CommandLine.Response

/-! The program: what it sees of files, environment and clock is gathered here. -/
namespace StreamPlan.CommandLine

def environmentNames : List String :=
  ["STREAMC_STATE_STORE_SUFFIX", "STREAMC_MAX_PLAN_DEPTH", "STREAMC_CONSOLE_ROW_LIMIT"]

def readEnvironment : IO (List (String × String)) := do
  let found ← environmentNames.mapM fun name => do pure ((← IO.getEnv name).map fun value => (name, value))
  pure (found.filterMap id)

def fileError : IO.Error → FileError
  | .noFileOrDirectory .. => .missing
  | .inappropriateType .. => .directory
  | error => .other (toString error)

def readFile (path : String) : IO (Except FileError String) := do
  try
    match String.fromUTF8? (← IO.FS.readBinFile path) with
    | some text => pure (.ok text)
    | none => pure (.error .notText)
  catch error => pure (.error (fileError error))

/-- The files that a command names. -/
def paths : Command → List String
  | .validate plan => [plan]
  | .explain plan _ => [plan]
  | .run plan input _ => [plan, input]

def readFiles (arguments : List String) : IO (List (String × Except FileError String)) :=
  match Command.ofArguments arguments with
  | .ok command => (paths command).mapM fun path => do pure (path, ← readFile path)
  | .error _ => pure []

/-- Answers one call and gives its exit code. -/
def call (arguments : List String) : IO UInt32 := do
  let started ← IO.monoMsNow
  let environment ← readEnvironment
  let files ← readFiles arguments
  let world : World :=
    ⟨fun name => environment.lookup name, fun path => (files.lookup path).getD (.error .missing)⟩
  let response := respond world arguments
  let finished ← IO.monoMsNow
  for line in response.output do
    IO.println (line.render (finished - started))
  match response.complaint with
  | some complaint => IO.eprintln complaint
  | none => pure ()
  return UInt32.ofNat response.code

end StreamPlan.CommandLine

def main (arguments : List String) : IO UInt32 := StreamPlan.CommandLine.call arguments
