import StreamPlan.Compile.Context
import StreamPlan.Proofs.Independence
import StreamPlan.Proofs.Leftovers

/-! What a compiler knows of its last compilation. Below the root nothing is noted, since an output there
is refused before it could be; at the root the context has just been forgotten. So the sink is written at
most once, and only when the whole plan has been compiled. -/
namespace StreamPlan

namespace Noting

variable {α β : Type}

theorem run_step (work : Compiling α) (t : Topology) (context : Context) :
    (step work).run (t, context) = match work.run t with
      | (.ok a, t) => (.ok a, t, context)
      | (.error e, t) => (.error (.refused e), t, context) := rfl

theorem step_bind (work : Compiling α) (next : α → Compiling β) :
    step (work >>= next) = step work >>= fun a => step (next a) := by
  funext ⟨t, context⟩
  have whole := run_step (work >>= next) t context
  have parts := run_bind (step work) (fun a => step (next a)) (t, context)
  rw [run_bind] at whole
  rw [run_step] at parts
  refine whole.trans (Eq.trans ?_ parts.symm)
  rcases work.run t with ⟨_ | _, _⟩ <;> rfl

theorem step_throw (e : CompileError) : step (throw e : Compiling α) = throw (.refused e) := rfl

theorem throw_bind (stop : Stop) (next : α → Noting β) : ((throw stop : Noting α) >>= next) = throw stop := rfl

end Noting

namespace Settings
open Noting

variable {settings : Settings} {depth : Nat}

/-- Below the root a node is compiled without a look at the context: an output is refused there. -/
theorem noteNode_below (plan : Plan) (below : 1 < depth) :
    settings.noteNode depth plan = step (settings.compileNode depth plan) := by
  induction plan generalizing depth with
  | source id origin => rw [noteNode, compileNode, step_bind]
  | filter id input predicate ih =>
    simp only [noteNode, compileNode, step_bind, ih (Nat.lt_succ_of_lt below)]
  | project id input schema expressions ih =>
    simp only [noteNode, compileNode, step_bind, ih (Nat.lt_succ_of_lt below)]
  | join id left right spec leftIh rightIh =>
    simp only [noteNode, compileNode, step_bind, leftIh (Nat.lt_succ_of_lt below),
      rightIh (Nat.lt_succ_of_lt below)]
  | output id input target _ =>
    have nested : depth ≠ 1 := Nat.ne_of_gt below
    simp only [noteNode, compileNode, step_bind, if_pos nested, step_throw, throw_bind]

/-- The output at the root is noted once all the rest of the plan has been compiled. -/
theorem noteNode_root (id : NodeId) (input : Plan) (target : Target) :
    settings.noteNode 1 (.output id input target) = (do
      let handle ← step (settings.compileNode 1 (.output id input target))
      noteSink (.output id input target)
      pure handle) := by
  have inner : settings.noteNode (1 + 1) input = step (settings.compileNode (1 + 1) input) :=
    noteNode_below input (by decide)
  simp only [noteNode, compileNode, step_bind, ne_eq, not_true_eq_false, if_false, inner, bind_assoc]

theorem run_notePlan (settings : Settings) (plan : Plan) (t : Topology) (context : Context) :
    (settings.notePlan plan).run (t, context) = match (settings.compileRoot plan).run t with
      | (.ok handle, t) => (.ok handle, t, ⟨some plan, some handle⟩)
      | (.error e, t) => (.error (.refused e), t, .blank) := by
  have forgotten : forget.run (t, context) = (.ok (), t, .blank) := rfl
  unfold notePlan
  rw [run_bind, forgotten]
  cases plan with
  | output id input target =>
    simp only [noteNode_root, compileRoot, run_bind, run_step]
    rcases (settings.compileNode 1 (.output id input target)).run t with ⟨_ | _, _⟩ <;> rfl
  | source | filter | project | join => rfl

end Settings

namespace Compiler

/-- Taking notes on the way comes to the same as putting down the outcome at the end. -/
theorem build_eq_compile (compiler : Compiler) (plan : Plan) :
    compiler.build plan = (relabel Stop.refused id (compiler.compile plan).1, (compiler.compile plan).2) := by
  unfold build compile
  rw [Settings.run_notePlan]
  rcases (compiler.settings.compileRoot plan).run compiler.topology with ⟨_ | _, _⟩ <;> rfl

theorem buildAll_eq_compileAll (compiler : Compiler) (plans : List Plan) :
    compiler.buildAll plans = compiler.compileAll plans := by
  induction plans generalizing compiler with
  | nil => rfl
  | cons plan rest ih =>
    have first : (compiler.build plan).2 = (compiler.compile plan).2 :=
      congrArg Prod.snd (compiler.build_eq_compile plan)
    change (compiler.build plan).2.buildAll rest = (compiler.compile plan).2.compileAll rest
    rw [first, ih]

theorem isOutput_of_gives {settings : Settings} {plan : Plan} {t u : Topology} {handle : Handle}
    (given : Compiling.Gives (settings.compileRoot plan) t handle u) : plan.isOutput = true := by
  cases plan with
  | output => rfl
  | source | filter | project | join => exact (Compiling.not_gives_throw given).elim

/-- One call, whatever the compiler knew before. -/
theorem build_cases (compiler : Compiler) (plan : Plan) :
    (∃ handle topology, plan.isOutput = true ∧
      compiler.build plan = (.ok handle, ⟨compiler.settings, topology, some plan, some handle⟩)) ∨
    ∃ e topology, compiler.build plan = (.error (.refused e), ⟨compiler.settings, topology, none, none⟩) := by
  have ran := Settings.run_notePlan compiler.settings plan compiler.topology compiler.context
  unfold build
  rw [ran]
  cases result : (compiler.settings.compileRoot plan).run compiler.topology with
  | mk outcome topology =>
    cases outcome with
    | ok handle => exact .inl ⟨handle, topology, isOutput_of_gives result, rfl⟩
    | error e => exact .inr ⟨e, topology, rfl⟩

/-- What the compiler knows after a call is the outcome of that call: the sink and the root handle are
both there exactly if it succeeded, and then they are the given output and the handle it gave. -/
structure Describes (plan : Plan) (result : Except Stop Handle) (after : Compiler) : Prop where
  together : after.sink.isSome = true ↔ after.root.isSome = true
  succeeded : after.root.isSome = true ↔ ∃ handle, result = .ok handle
  sink : ∀ output, after.sink = some output → output = plan ∧ plan.isOutput = true
  root : ∀ handle, after.root = some handle → result = .ok handle
  /-- The assertion that no sink has been noted yet holds. -/
  once : result ≠ .error .sinkTwice

theorem describes_ok {settings : Settings} {topology : Topology} {plan : Plan} {handle : Handle}
    (root : plan.isOutput = true) : Describes plan (.ok handle) ⟨settings, topology, some plan, some handle⟩ where
  together := iff_of_true rfl rfl
  succeeded := iff_of_true rfl ⟨handle, rfl⟩
  sink _ same := ⟨(Option.some.inj same).symm, root⟩
  root _ same := congrArg Except.ok (Option.some.inj same)
  once := nofun

theorem describes_refused {settings : Settings} {topology : Topology} {plan : Plan} {e : CompileError} :
    Describes plan (.error (.refused e)) ⟨settings, topology, none, none⟩ where
  together := Iff.rfl
  succeeded := iff_of_false Bool.false_ne_true nofun
  sink := nofun
  root := nofun
  once := nofun

/-- After every call in a row, whatever came of those before it, the compiler knows the outcome of that
call and of no other; and the calls come to what compiling the plans comes to. -/
theorem build_describes (compiler : Compiler) (earlier : List Plan) (plan : Plan) :
    let before := compiler.buildAll earlier
    Describes plan (before.build plan).1 (before.build plan).2 ∧
      before = compiler.compileAll earlier ∧
      before.build plan = (relabel Stop.refused id (before.compile plan).1, (before.compile plan).2) := by
  intro before
  refine ⟨?_, compiler.buildAll_eq_compileAll earlier, before.build_eq_compile plan⟩
  rcases before.build_cases plan with ⟨handle, topology, root, done⟩ | ⟨e, topology, done⟩
  · rw [done]
    exact describes_ok root
  · rw [done]
    exact describes_refused

/-- The shipments are known once they have been compiled, and forgotten when they are compiled again
without a name for their topic. -/
theorem shipments_described : ∃ handle, ((start .standard .standard).build .shipments).1 = .ok handle ∧
    ((start .standard .standard).build .shipments).2.sink = some .shipments ∧
    (((start .standard .standard).buildAll [.shipments]).build .unsent).2.sink = none ∧
    (((start .standard .standard).buildAll [.shipments]).build .unsent).2.root = none := by
  obtain ⟨handle, done⟩ : ∃ handle, ((start .standard .standard).build .shipments).1 = .ok handle := ⟨_, rfl⟩
  have failed : (((start .standard .standard).buildAll [.shipments]).build .unsent).1 =
      .error (.refused (.blankSink ⟨6⟩)) := rfl
  have sent := (build_describes (start .standard .standard) [] .shipments).1
  have unsent := (build_describes (start .standard .standard) [.shipments] .unsent).1
  obtain ⟨output, known⟩ := Option.isSome_iff_exists.mp (sent.together.mpr (sent.succeeded.mpr ⟨handle, done⟩))
  have noRoot : ¬ (((start .standard .standard).buildAll [.shipments]).build .unsent).2.root.isSome = true := by
    intro rooted
    obtain ⟨_, succeeded⟩ := unsent.succeeded.mp rooted
    cases failed.symm.trans succeeded
  refine ⟨handle, done, known.trans (congrArg some (sent.sink output known).1), ?_, ?_⟩
  · exact Option.not_isSome_iff_eq_none.mp fun sunk => noRoot (unsent.together.mp sunk)
  · exact Option.not_isSome_iff_eq_none.mp noRoot

end Compiler
end StreamPlan
