import StreamPlan.Proofs.Deliveries
import StreamPlan.Proofs.Trace

/-! Two topologies recorded one after the other, the ids of the second moved on past the stages of the
first. The stages of each find the inputs they had, so a run of both is a run of the first and then
one of the second. Nothing is asked of either: stages may name inputs that are not there. -/
namespace StreamPlan

def StageId.shift (n : Nat) (id : StageId) : StageId := ⟨n + id.number⟩

def Stage.shift (n : Nat) (stage : Stage) : Stage :=
  { stage with id := stage.id.shift n, inputs := stage.inputs.map (StageId.shift n) }

def RunError.shift (n : Nat) : RunError → RunError
  | .stage id fault => .stage (id.shift n) fault
  | .notEvaluated id input => .notEvaluated (id.shift n) (input.shift n)
  | .outOfRange id input => .outOfRange (id.shift n) (input.shift n)

namespace Topology

def beside (t u : Topology) : Topology := ⟨t.stages ++ u.stages.map (Stage.shift t.size)⟩

theorem size_beside (t u : Topology) : (t.beside u).size = t.size + u.size := by
  simp [beside, size]

theorem beside_left (t u : Topology) {k : Nat} (within : k < t.size) :
    (t.beside u).stages[k]? = t.stages[k]? :=
  List.getElem?_append_left within

theorem beside_right (t u : Topology) (k : Nat) :
    (t.beside u).stages[t.size + k]? = u.stages[k]?.map (Stage.shift t.size) := by
  unfold beside size
  rw [List.getElem?_append_right (Nat.le_add_right _ k), Nat.add_sub_cancel_left, List.getElem?_map]

end Topology

namespace Run

variable {n : Nat} {t u : Topology} {data : SourceData} {results more : List (List Record)}

theorem inputAt_left (length : results.length ≤ t.size) (stage : Stage) (position : Nat) :
    inputAt (t.beside u) results stage position = inputAt t results stage position := by
  unfold inputAt Topology.stage?
  cases stage.inputs[position]? with
  | none => rfl
  | some id =>
    by_cases within : id.number < t.size
    · simp only [Topology.beside_left t u within]
    · -- the second topology may have a stage of this number, but it has not been evaluated
      have absent : t.stages[id.number]? = none := List.getElem?_eq_none_iff.mpr (Nat.le_of_not_lt within)
      have late : ¬ id.number < results.length := by omega
      simp only [absent]
      split
      · rfl
      · rw [if_neg late]

theorem inputAt_right (length : results.length = t.size) (stage : Stage) (position : Nat) :
    inputAt (t.beside u) (results ++ more) (stage.shift t.size) position =
      relabel (RunError.shift t.size) (Stage.shift t.size) (inputAt u more stage position) := by
  unfold inputAt Topology.stage?
  have inputs : (stage.shift t.size).inputs[position]? = stage.inputs[position]?.map (StageId.shift t.size) :=
    List.getElem?_map
  rw [inputs]
  cases stage.inputs[position]? with
  | none => rfl
  | some id =>
    have here := Topology.beside_right t u id.number
    simp only [Option.map_some, StageId.shift, here]
    cases u.stages[id.number]? with
    | none => rfl
    | some input =>
      have same : t.size + id.number < (results ++ more).length ↔ id.number < more.length := by
        rw [List.length_append]
        omega
      by_cases evaluated : id.number < more.length
      · simp only [Option.map_some, if_pos (same.mpr evaluated), if_pos evaluated, relabel]
      · simp only [Option.map_some, if_neg (mt same.mp evaluated), if_neg evaluated]
        rfl

theorem recordsOf_right (length : results.length = n) (stage input : Stage) :
    recordsOf (results ++ more) (stage.shift n) (input.shift n) =
      relabel (RunError.shift n) id (recordsOf more stage input) := by
  have place : (results ++ more)[(input.shift n).id.number]? = more[input.id.number]? := by
    change (results ++ more)[n + input.id.number]? = _
    rw [List.getElem?_append_right (by omega), length, Nat.add_sub_cancel_left]
  unfold recordsOf
  rw [place]
  cases more[input.id.number]? <;> rfl

theorem blame_right (stage : Stage) (step : Except RunFault α) :
    blame (stage.shift n) step = relabel (RunError.shift n) id (blame stage step) := by
  cases step <;> rfl

theorem sourceRecords_right (stage : Stage) (topic : String) :
    sourceRecords data (stage.shift n) topic = relabel (RunError.shift n) id (sourceRecords data stage topic) := by
  unfold sourceRecords
  rw [blame_right]
  exact relabel_bind fun _ => rfl

theorem stageRecords_left (length : results.length ≤ t.size) (stage : Stage) :
    stageRecords (t.beside u) data results stage = stageRecords t data results stage := by
  simp only [stageRecords, inputAt_left length]

/-- The step lemma: a stage of the second topology makes of its inputs what it made of them alone. -/
theorem stageRecords_right (length : results.length = t.size) (stage : Stage) :
    stageRecords (t.beside u) data (results ++ more) (stage.shift t.size) =
      relabel (RunError.shift t.size) id (stageRecords u data more stage) := by
  have reads {β : Type} (position : Nat) {next later : Stage → Except RunError β}
      (each : ∀ input, later (input.shift t.size) = relabel (RunError.shift t.size) id (next input)) :
      (inputAt (t.beside u) (results ++ more) (stage.shift t.size) position >>= later) =
        relabel (RunError.shift t.size) id (inputAt u more stage position >>= next) := by
    rw [inputAt_right length]
    exact relabel_bind each
  have takes {β : Type} (input : Stage) {next later : List Record → Except RunError β}
      (each : ∀ records, later records = relabel (RunError.shift t.size) id (next records)) :
      (recordsOf (results ++ more) (stage.shift t.size) (input.shift t.size) >>= later) =
        relabel (RunError.shift t.size) id (recordsOf more stage input >>= next) := by
    rw [recordsOf_right length]
    exact relabel_bind each
  unfold stageRecords
  rw [show (stage.shift t.size).op = stage.op from rfl]
  cases stage.op with
  | streamSource topic | tableSource topic => exact sourceRecords_right stage topic
  | filter | project | selectKey => exact reads 0 fun input => takes input fun _ => blame_right stage _
  | leftJoin =>
    apply reads 0
    intro left
    apply reads 1
    intro right
    exact takes left fun _ => takes right fun _ => blame_right stage _
  | toTopic | print => exact reads 0 fun input => recordsOf_right length stage input

theorem resume_left {stages : List Stage} (within : results.length + stages.length ≤ t.size) :
    resume (t.beside u) data results stages = resume t data results stages := by
  induction stages generalizing results with
  | nil => rfl
  | cons stage rest ih =>
    rw [List.length_cons] at within
    rw [resume_cons, resume_cons, stageRecords_left (by omega)]
    congr 1
    funext records
    apply ih
    rw [List.length_append, List.length_singleton]
    omega

theorem resume_right (length : results.length = t.size) (stages : List Stage) :
    resume (t.beside u) data (results ++ more) (stages.map (Stage.shift t.size)) =
      relabel (RunError.shift t.size) (results ++ ·) (resume u data more stages) := by
  induction stages generalizing more with
  | nil => rfl
  | cons stage rest ih =>
    rw [List.map_cons, resume_cons, resume_cons, stageRecords_right length]
    apply relabel_bind
    intro records
    rw [List.append_assoc]
    exact ih

theorem trace_beside (t u : Topology) (data : SourceData) :
    trace (t.beside u) data = trace t data >>= fun results =>
      relabel (RunError.shift t.size) (results ++ ·) (trace u data) := by
  have first : resume (t.beside u) data [] t.stages = trace t data := resume_left (by simp [Topology.size])
  change resume (t.beside u) data [] (t.stages ++ u.stages.map (Stage.shift t.size)) = _
  rw [resume_append, first]
  cases ran : trace t data with
  | error e => rfl
  | ok results =>
    have second : resume (t.beside u) data (results ++ []) (u.stages.map (Stage.shift t.size)) =
        relabel (RunError.shift t.size) (results ++ ·) (trace u data) := resume_right (length_trace ran) u.stages
    rw [List.append_nil] at second
    exact second

/-- The outcome of doing what gave the first and then what gave the second. -/
structure Outcome.Joins (first second both : Outcome) : Prop where
  sinks : ∀ topic, both.sinks.lookup topic =
    Option.merge (· ++ ·) (first.sinks.lookup topic) (second.sinks.lookup topic)
  console : both.console = first.console ++ second.console
  rowsIn : both.rowsIn = first.rowsIn + second.rowsIn
  rowsOut : both.rowsOut = first.rowsOut + second.rowsOut

variable {limit : Option Nat} {first second both : Outcome} {stage : Stage} {records : List Record}

theorem ordered_add (ordered : first.sinks.Ordered) : (first.add data limit stage records).sinks.Ordered := by
  unfold Outcome.add
  cases stage.op with
  | toTopic topic codec => exact ordered_deliver ordered topic records
  | streamSource | tableSource | filter | project | selectKey | leftJoin | print => exact ordered

theorem joins_empty (first : Outcome) : first.Joins .empty first := by
  refine ⟨fun topic => ?_, ?_, rfl, rfl⟩
  · change _ = Option.merge _ _ none
    cases first.sinks.lookup topic <;> rfl
  · exact (List.append_nil _).symm

theorem Outcome.Joins.add (joins : first.Joins second both) (later : second.sinks.Ordered)
    (ordered : both.sinks.Ordered) :
    first.Joins (second.add data limit stage records) (both.add data limit stage records) := by
  obtain ⟨sinks, console, rowsIn, rowsOut⟩ := joins
  unfold Outcome.add
  cases stage.op with
  | streamSource topic codec | tableSource topic codec store =>
    refine ⟨sinks, console, ?_, rowsOut⟩
    simp only [rowsIn, Nat.add_assoc]
  | filter | project | selectKey | leftJoin => exact ⟨sinks, console, rowsIn, rowsOut⟩
  | toTopic topic codec =>
    refine ⟨fun other => ?_, console, rowsIn, ?_⟩
    · simp only [lookup_deliver ordered, lookup_deliver later, sinks]
      by_cases same : other = topic
      · subst same
        cases first.sinks.lookup other <;> cases second.sinks.lookup other <;> simp
      · simp [same]
    · simp only [rowsOut, Nat.add_assoc]
  | print =>
    refine ⟨sinks, ?_, rowsIn, ?_⟩
    · simp only [console, List.append_assoc]
    · simp only [rowsOut, Nat.add_assoc]

theorem Outcome.Joins.foldl (joins : first.Joins second both) (later : second.sinks.Ordered)
    (ordered : both.sinks.Ordered) (steps : List (Stage × List Record)) :
    first.Joins (steps.foldl (fun outcome (stage, records) => outcome.add data limit stage records) second)
      (steps.foldl (fun outcome (stage, records) => outcome.add data limit stage records) both) := by
  induction steps generalizing second both with
  | nil => exact joins
  | cons step rest ih => exact ih (joins.add later ordered) (ordered_add later) (ordered_add ordered)

theorem ordered_foldl (ordered : first.sinks.Ordered) (steps : List (Stage × List Record)) :
    Sinks.Ordered
      (steps.foldl (fun outcome (stage, records) => outcome.add data limit stage records) first).sinks := by
  induction steps generalizing first with
  | nil => exact ordered
  | cons step rest ih => exact ih (ordered_add ordered)

theorem joins_beside (length : results.length = t.stages.length) :
    (outcomeOf data limit t.stages results).Joins (outcomeOf data limit u.stages more)
      (outcomeOf data limit (t.beside u).stages (results ++ more)) := by
  have shifted : outcomeOf data limit (t.beside u).stages (results ++ more) =
      (u.stages.zip more).foldl (fun outcome (stage, records) => outcome.add data limit stage records)
        (outcomeOf data limit t.stages results) := by
    unfold outcomeOf Topology.beside
    rw [List.zip_append length.symm, List.foldl_append, List.zip_map_left, List.foldl_map]
    rfl
  have none : Outcome.empty.sinks.Ordered := List.Pairwise.nil
  rw [shifted]
  exact (joins_empty _).foldl none (ordered_foldl none _) _

end Run

namespace Topology
open Run

theorem run_eq_trace (t : Topology) (data : SourceData) (limit : Option Nat) :
    t.run data limit = trace t data >>= fun results => .ok (outcomeOf data limit t.stages results) := rfl

/-- What a run of two topologies at once can come to: the first fails, or the second does after it, or
both outcomes are joined. -/
theorem beside_cases (t u : Topology) (data : SourceData) (limit : Option Nat) :
    (∃ e, t.run data limit = .error e ∧ (t.beside u).run data limit = .error e) ∨
    (∃ first e, t.run data limit = .ok first ∧ u.run data limit = .error e ∧
      (t.beside u).run data limit = .error (e.shift t.size)) ∨
    ∃ first second both, t.run data limit = .ok first ∧ u.run data limit = .ok second ∧
      (t.beside u).run data limit = .ok both ∧ first.Joins second both := by
  simp only [run_eq_trace, trace_beside]
  cases ran : trace t data with
  | error e => exact .inl ⟨e, rfl, rfl⟩
  | ok results =>
    cases trace u data with
    | error e => exact .inr (.inl ⟨_, e, rfl, rfl, rfl⟩)
    | ok more => exact .inr (.inr ⟨_, _, _, rfl, rfl, rfl, joins_beside (length_trace ran)⟩)

/-- Running two topologies at once is running the first and then the second. -/
theorem run_beside (t u : Topology) (data : SourceData) (limit : Option Nat) :
    ((∃ both, (t.beside u).run data limit = .ok both) ↔
      (∃ first, t.run data limit = .ok first) ∧ ∃ second, u.run data limit = .ok second) ∧
    (∀ first second both, t.run data limit = .ok first → u.run data limit = .ok second →
      (t.beside u).run data limit = .ok both → first.Joins second both) ∧
    ∀ e, (t.beside u).run data limit = .error e ↔ t.run data limit = .error e ∨
      (∃ first, t.run data limit = .ok first) ∧
        ∃ raised, u.run data limit = .error raised ∧ raised.shift t.size = e := by
  rcases beside_cases t u data limit with ⟨e, first, both⟩ | ⟨_, e, first, second, both⟩ |
    ⟨_, _, _, first, second, both, joins⟩
  · simp [first, both]
  · simp [first, second, both]
  · simp only [first, second, both, Except.ok.injEq]
    refine ⟨by simp, ?_, by simp⟩
    rintro _ _ _ rfl rfl rfl
    exact joins

def copying : Topology :=
  let schema : Schema := ⟨[⟨"id", .int32, false⟩]⟩
  ⟨[⟨⟨0⟩, .streamSource "orders" .json, [], schema, "id", .stream⟩,
    ⟨⟨1⟩, .toTopic "copies" .json, [⟨0⟩], schema, "id", .stream⟩]⟩

theorem copying_twice : ∃ first both, copying.run ⟨[("orders", [⟨[.int32 7]⟩])]⟩ none = .ok first ∧
    (copying.beside copying).run ⟨[("orders", [⟨[.int32 7]⟩])]⟩ none = .ok both ∧ first.Joins first both ∧
      both.sinks.lookup "copies" = some [⟨"7", ⟨[.int32 7]⟩⟩, ⟨"7", ⟨[.int32 7]⟩⟩] := by
  have ran : ∃ first, copying.run ⟨[("orders", [⟨[.int32 7]⟩])]⟩ none = .ok first ∧
      first.sinks.lookup "copies" = some [⟨"7", ⟨[.int32 7]⟩⟩] := ⟨_, rfl, by rfl⟩
  obtain ⟨first, ran, copied⟩ := ran
  obtain ⟨succeeds, joins, _⟩ := run_beside copying copying ⟨[("orders", [⟨[.int32 7]⟩])]⟩ none
  obtain ⟨both, together⟩ := succeeds.mpr ⟨⟨_, ran⟩, _, ran⟩
  have joined := joins _ _ _ ran ran together
  refine ⟨first, both, ran, together, joined, ?_⟩
  rw [joined.sinks, copied]
  rfl

end Topology
end StreamPlan
