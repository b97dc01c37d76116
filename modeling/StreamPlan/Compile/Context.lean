import StreamPlan.Compile.Basic

/-! Compiling with notes taken on the way. A compilation starts from a blank context; the output node at
the root is noted where it is compiled, the handle when the whole plan has been. The sink is written once:
that there is none yet is asserted, not checked for. -/
namespace StreamPlan

/-- What is known of the last compilation. -/
structure Context where
  sink : Option Plan
  root : Option Handle
deriving DecidableEq, Repr

def Context.blank : Context := ⟨none, none⟩

/-- Why a compilation ends without a handle. -/
inductive Stop where
  | refused (error : CompileError)
  | sinkTwice
deriving DecidableEq, Repr

/-- A step that may record stages and write the context; both stay as they are when it stops. -/
abbrev Noting := ExceptT Stop (StateM (Topology × Context))

namespace Noting

/-- A step that does not look at the context. -/
def step (work : Compiling α) : Noting α := ExceptT.mk fun (topology, context) =>
  match work.run topology with
  | (.ok a, topology) => (.ok a, topology, context)
  | (.error e, topology) => (.error (.refused e), topology, context)

def forget : Noting Unit := modify fun (topology, _) => (topology, .blank)

def noteSink (output : Plan) : Noting Unit := do
  let (topology, context) ← get
  if context.sink.isSome then throw .sinkTwice
  set (topology, { context with sink := some output })

def noteRoot (handle : Handle) : Noting Unit :=
  modify fun (topology, context) => (topology, { context with root := some handle })

end Noting

namespace Settings
open Noting

def noteNode (settings : Settings) (depth : Nat) : Plan → Noting Handle
  | .source id origin => do
    step (settings.checkDepth id depth)
    step (settings.compileSource origin)
  | .filter id input predicate => do
    step (settings.checkDepth id depth)
    let below ← noteNode settings (depth + 1) input
    step (compileFilter predicate below)
  | .project id input schema expressions => do
    step (settings.checkDepth id depth)
    let below ← noteNode settings (depth + 1) input
    step (compileProject schema expressions below)
  | .join id left right spec => do
    step (settings.checkDepth id depth)
    let leftHandle ← noteNode settings (depth + 1) left
    let rightHandle ← noteNode settings (depth + 1) right
    step (settings.compileJoin id spec left.codec leftHandle rightHandle)
  | .output id input target => do
    step (settings.checkDepth id depth)
    if depth ≠ 1 then throw (.refused (.nestedOutput id (Plan.output id input target).kindName))
    let below ← noteNode settings (depth + 1) input
    let handle ← step (settings.compileOutput id target input.codec below)
    noteSink (.output id input target)
    pure handle

def notePlan (settings : Settings) (plan : Plan) : Noting Handle := do
  forget
  match plan with
  | .output .. =>
    let handle ← settings.noteNode 1 plan
    noteRoot handle
    pure handle
  | _ => throw (.refused (.rootNotOutput plan.id plan.kindName))

end Settings

namespace Compiler

def context (compiler : Compiler) : Context := ⟨compiler.sink, compiler.root⟩

/-- One call, with the context written as the compilation goes. -/
def build (compiler : Compiler) (plan : Plan) : Except Stop Handle × Compiler :=
  let (result, topology, context) := (compiler.settings.notePlan plan).run (compiler.topology, compiler.context)
  (result, ⟨compiler.settings, topology, context.sink, context.root⟩)

def buildAll (compiler : Compiler) (plans : List Plan) : Compiler :=
  plans.foldl (fun compiler plan => (compiler.build plan).2) compiler

end Compiler
end StreamPlan
