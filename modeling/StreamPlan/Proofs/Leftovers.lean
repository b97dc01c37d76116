import StreamPlan.Proofs.Continuation

/-! What a failed compilation leaves recorded. Inputs are compiled before the node that reads them is
looked at, and what they record is not taken back: left are the first of the stages below the root,
numbered on from those that were there. The first of all is that of the leftmost source, so that
nothing is left exactly where it is not reached. -/
namespace StreamPlan

namespace Settings
open Compiling

variable {settings : Settings} {t m u : Topology} {depth : Nat} {e : CompileError}

/-- The way down the left inputs comes to a source that is recorded, whatever is refused after it. -/
def Reaches (settings : Settings) : Nat → Plan → Prop
  | depth, .source _ origin => depth ≤ settings.config.maxDepth ∧
      settings.registry.refusal origin.codec = none ∧ ∃ field, origin.schema.find origin.key.name = some field
  | depth, .filter _ input _ => depth ≤ settings.config.maxDepth ∧ Reaches settings (depth + 1) input
  | depth, .project _ input _ _ => depth ≤ settings.config.maxDepth ∧ Reaches settings (depth + 1) input
  | depth, .join _ left _ _ => depth ≤ settings.config.maxDepth ∧ Reaches settings (depth + 1) left
  | depth, .output _ input _ =>
    depth ≤ settings.config.maxDepth ∧ depth = 1 ∧ Reaches settings (depth + 1) input

def Starts (settings : Settings) (plan : Plan) : Prop := plan.isOutput = true ∧ settings.Reaches 1 plan

/-- Of the stages due the first have been recorded, and none at all only if the source is not reached. -/
def Leaves (reached : Prop) (due : List Stage) (t u : Topology) : Prop :=
  ∃ ahead, ahead <+: due ∧ t.Continues u ahead ∧ (u = t ↔ ¬ reached)

variable {reached : Prop} {due stages ahead : List Stage}

theorem leaves_nothing (unreached : ¬ reached) (same : u = t) : Leaves reached due t u := by
  subst same
  exact ⟨[], List.nil_prefix, u.continues_refl, iff_of_true rfl unreached⟩

theorem Leaves.append (left : Leaves reached due t u) (more : List Stage) : Leaves reached (due ++ more) t u := by
  obtain ⟨ahead, first, continued, unchanged⟩ := left
  exact ⟨ahead, first.trans (List.prefix_append due more), continued, unchanged⟩

theorem leaves_after (here : reached) (continued : t.Continues u (stages ++ ahead)) (nonempty : 0 < stages.length)
    (first : ahead <+: due) : Leaves reached (stages ++ due) t u := by
  refine ⟨stages ++ ahead, (List.prefix_append_right_inj stages).mpr first, continued, ?_⟩
  have grown := continued.size
  rw [List.length_append] at grown
  constructor
  · rintro rfl
    omega
  · exact fun unreached => absurd here unreached

theorem Reaches.within {plan : Plan} (here : settings.Reaches depth plan) :
    depth ≤ settings.config.maxDepth := by
  cases plan <;> exact here.1

theorem gives_source_iff {origin : Source} :
    (∃ handle u, Gives (settings.compileSource origin) t handle u) ↔
      settings.registry.refusal origin.codec = none ∧
        ∃ field, origin.schema.find origin.key.name = some field := by
  obtain ⟨topic, schema, key, mode, codec⟩ := origin
  unfold compileSource
  cases mode with
  | stream =>
    constructor
    · rintro ⟨_, _, given⟩
      obtain ⟨accepted, _, recorded, _⟩ := gives_coded.mp given
      obtain ⟨field, found, _⟩ := Topology.addStream_eq_ok.mp recorded
      exact ⟨accepted, field, found⟩
    · rintro ⟨accepted, field, found⟩
      exact ⟨_, _, gives_coded.mpr ⟨accepted, _, Topology.addStream_eq_ok.mpr ⟨field, found, rfl⟩, rfl⟩⟩
  | table =>
    constructor
    · rintro ⟨_, _, given⟩
      obtain ⟨accepted, _, recorded, _⟩ := gives_coded.mp given
      obtain ⟨field, found, _⟩ := Topology.addTable_eq_ok.mp recorded
      exact ⟨accepted, field, found⟩
    · rintro ⟨accepted, field, found⟩
      exact ⟨_, _, gives_coded.mpr ⟨accepted, _, Topology.addTable_eq_ok.mpr ⟨field, found, rfl⟩, rfl⟩⟩

theorem reaches_of_gives {plan : Plan} {handle : Handle}
    (given : Gives (settings.compileNode depth plan) t handle u) : settings.Reaches depth plan := by
  induction plan generalizing depth t u handle with
  | source id origin =>
    obtain ⟨within, given⟩ := gives_within.mp given
    exact ⟨within, gives_source_iff.mp ⟨handle, u, given⟩⟩
  | filter id input predicate ih =>
    obtain ⟨within, given⟩ := gives_within.mp given
    obtain ⟨_, _, inner, _⟩ := gives_bind.mp given
    exact ⟨within, ih inner⟩
  | project id input schema expressions ih =>
    obtain ⟨within, given⟩ := gives_within.mp given
    obtain ⟨_, _, inner, _⟩ := gives_bind.mp given
    exact ⟨within, ih inner⟩
  | join id left right spec leftIh _ =>
    obtain ⟨within, given⟩ := gives_within.mp given
    obtain ⟨_, _, inner, _⟩ := gives_bind.mp given
    exact ⟨within, leftIh inner⟩
  | output id input target ih =>
    obtain ⟨within, given⟩ := gives_within.mp given
    obtain ⟨root, given⟩ := gives_guard.mp given
    obtain ⟨_, _, inner, _⟩ := gives_bind.mp given
    exact ⟨within, not_not.mp root, ih inner⟩

/-- A node with one input that fails after it has left the stages of the input, and no others. -/
theorem stops_input {input : Plan} {next : Handle → Compiling Handle}
    (ih : Stops (settings.compileNode depth input) t e u →
      Leaves (settings.Reaches depth input) (input.innerStages settings.config t.size) t u)
    (own : ∀ below m, Stops (next below) m e u → u = m)
    (stopped : Stops (settings.compileNode depth input >>= next) t e u) :
    Leaves (settings.Reaches depth input) (input.stages settings.config t.size) t u := by
  rcases stops_bind.mp stopped with stopped | ⟨below, m, given, stopped⟩
  · exact (ih stopped).append _
  · cases own below m stopped
    rw [← List.append_nil (input.stages settings.config t.size)]
    refine leaves_after (reaches_of_gives given) ?_ ?_ List.nil_prefix
    · rw [List.append_nil]
      exact (compiles_node input given).stages
    · simp [Plan.length_stages]

theorem leaves_deep {plan : Plan} (deep : settings.config.maxDepth < depth) (same : u = t) :
    Leaves (settings.Reaches depth plan) due t u :=
  leaves_nothing (fun here => Nat.not_lt_of_le here.within deep) same

/-- A join that fails by itself has left the stages of both inputs, and the one that keys the left
input anew if it came to that. -/
theorem stops_joined {id : NodeId} {left right : Plan} {spec : Join} {leftHandle rightHandle : Handle}
    {mid : Topology} (leftDone : settings.Compiles left t leftHandle mid)
    (rightDone : settings.Compiles right mid rightHandle m)
    (stopped : Stops (settings.compileJoin id spec left.codec leftHandle rightHandle) m e u) :
    ∃ ahead, ahead <+: right.stages settings.config mid.size ++ Plan.rekeyStages t.size left right spec ∧
      mid.Continues u ahead := by
  rcases stops_compileJoin stopped with rfl | ⟨leftKey, reading, found, rekeyed⟩
  · exact ⟨_, List.prefix_append _ _, rightDone.stages⟩
  · rw [leftDone.handle.schema] at found
    cases Plan.joinColumn_eq found
    have size := rightDone.stages.next
    rw [leftDone.stages.next] at size
    have shown := leftDone.stages.shows.kept rightDone.stages
    obtain ⟨_, rekeying⟩ := compiles_rekey leftDone.handle found shown size rekeyed
    exact ⟨_, List.prefix_rfl, rightDone.stages.trans rekeying⟩

/-- Whatever fails has recorded the first of the stages below it. -/
theorem stops_node (plan : Plan) (stopped : Stops (settings.compileNode depth plan) t e u) :
    Leaves (settings.Reaches depth plan) (plan.innerStages settings.config t.size) t u := by
  induction plan generalizing depth t u with
  | source id origin =>
    rcases stops_within stopped with ⟨deep, same⟩ | ⟨_, stopped⟩
    · exact leaves_deep deep same
    · refine leaves_nothing ?_ (stops_compileSource stopped)
      rintro ⟨_, here⟩
      obtain ⟨handle, m, given⟩ := gives_source_iff.mpr here
      cases Eq.trans (Eq.symm given) stopped
  | filter id input predicate ih =>
    rcases stops_within stopped with ⟨deep, same⟩ | ⟨within, stopped⟩
    · exact leaves_deep deep same
    · simp only [Reaches, within, true_and]
      exact stops_input ih (fun _ _ => stops_recorded) stopped
  | project id input schema expressions ih =>
    rcases stops_within stopped with ⟨deep, same⟩ | ⟨within, stopped⟩
    · exact leaves_deep deep same
    · simp only [Reaches, within, true_and]
      exact stops_input ih (fun _ _ => stops_recorded) stopped
  | join id left right spec leftIh rightIh =>
    rcases stops_within stopped with ⟨deep, same⟩ | ⟨within, stopped⟩
    · exact leaves_deep deep same
    simp only [Reaches, within, true_and]
    rw [Plan.innerStages_join]
    rcases stops_bind.mp stopped with stopped | ⟨leftHandle, mid, leftGiven, stopped⟩
    · exact ((leftIh stopped).append _).append _
    have leftDone := compiles_node left leftGiven
    have nonempty : 0 < (left.stages settings.config t.size).length := by simp [Plan.length_stages]
    suffices ∃ ahead, ahead <+: right.stages settings.config (left.nextFrom t.size) ++
        Plan.rekeyStages t.size left right spec ∧ mid.Continues u ahead by
      obtain ⟨ahead, first, continued⟩ := this
      exact leaves_after (reaches_of_gives leftGiven) (leftDone.stages.trans continued) nonempty first
    rw [← leftDone.stages.next]
    rcases stops_bind.mp stopped with stopped | ⟨rightHandle, _, rightGiven, stopped⟩
    · obtain ⟨ahead, first, continued, _⟩ := ((rightIh stopped).append _).append _
      exact ⟨ahead, first, continued⟩
    · exact stops_joined leftDone (compiles_node right rightGiven) stopped
  | output id input target ih =>
    rcases stops_within stopped with ⟨deep, same⟩ | ⟨within, stopped⟩
    · exact leaves_deep deep same
    by_cases root : depth = 1
    · subst root
      simp only [Reaches, within, true_and]
      exact stops_input ih (fun _ _ => stops_compileOutput) stopped
    · rcases stops_guard stopped with same | ⟨here, _⟩
      · exact leaves_nothing (fun here => root here.2.1) same
      · exact absurd root here

end Settings

/-- The shipments once more, to a topic without a name. -/
def Plan.unsent : Plan := .output ⟨6⟩ shippedOrders (.topic " ")

theorem Plan.unsent_built : unsent.Built := .output shippedOrders_built

namespace Compiler

variable {compiler after : Compiler} {plan : Plan} {e : CompileError}

theorem compile_leaves (failed : compiler.compile plan = (.error e, after)) :
    Settings.Leaves (compiler.settings.Starts plan)
      (plan.innerStages compiler.settings.config compiler.topology.size) compiler.topology after.topology := by
  have stopped := stops_of_compile failed
  cases plan with
  | output id input target =>
    simp only [Settings.Starts, Plan.isOutput, true_and]
    exact Settings.stops_node _ stopped
  | source | filter | project | join =>
    exact Settings.leaves_nothing (fun starts => Bool.noConfusion starts.1) (Compiling.stops_throw.mp stopped).2.symm

theorem compile_unsent : ∃ after,
    (start .standard .standard).compile Plan.unsent = (.error (.blankSink ⟨6⟩), after) ∧
      after.topology.size = 6 := ⟨_, rfl, rfl⟩

theorem unsent_leaves : ∃ e after, (start .standard .standard).compile Plan.unsent = (.error e, after) ∧
    Settings.Leaves (Settings.Starts ⟨.standard, .standard⟩ Plan.unsent) (Plan.unsent.innerStages .standard 0)
      .empty after.topology ∧ after.topology.size = 6 := by
  obtain ⟨after, failed, size⟩ := compile_unsent
  exact ⟨_, after, failed, compile_leaves failed, size⟩

/-- A compiler does not take back what it has recorded for a plan that fails. -/
theorem not_rolledBack : ¬ ∀ (compiler after : Compiler) (plan : Plan) (e : CompileError), plan.Built →
    compiler.compile plan = (.error e, after) → after.topology.stages = compiler.topology.stages := by
  intro rolledBack
  obtain ⟨after, failed, size⟩ := compile_unsent
  have same := rolledBack _ after Plan.unsent _ Plan.unsent_built failed
  rw [Topology.size, same] at size
  cases size

end Compiler
end StreamPlan
