import StreamPlan.Proofs.Trace

/-! Where a run stops: at its first stage that fails, over the records of the stages before it. A
stage looks for an input by its place and for the records of that input under the id the input itself
carries, so it asks for records that nobody numbered exactly where the two part. -/
namespace StreamPlan

/-- How many inputs a stage reads. -/
def StageOp.arity : StageOp → Nat
  | .streamSource .. | .tableSource .. => 0
  | .leftJoin _ => 2
  | .filter _ | .project _ | .selectKey _ | .toTopic .. | .print => 1

namespace Topology

/-- The stage an input names, if it is one of the first k. -/
def earlier? (t : Topology) (k : Nat) (stage : Stage) (position : Nat) : Option Stage := do
  let id ← stage.inputs[position]?
  if id.number < k then t.stages[id.number]? else none

theorem earlier?_eq_some {t : Topology} {k position : Nat} {stage input : Stage} :
    t.earlier? k stage position = some input ↔
      ∃ id, stage.inputs[position]? = some id ∧ id.number < k ∧ t.stages[id.number]? = some input := by
  simp [earlier?, Option.bind_eq_some_iff]

/-- The stages that the inputs name, if all that are read are among the first k. -/
def inputs? (t : Topology) (k : Nat) (stage : Stage) : Option (List Stage) :=
  (List.range stage.op.arity).mapM (t.earlier? k stage)

/-- The first id carried by an input that is not the place of one of the first k stages. -/
def strayId? (t : Topology) (k : Nat) (stage : Stage) : Option StageId := do
  ((← t.inputs? k stage).map (·.id)).find? fun id => k ≤ id.number

end Topology

namespace Run

variable {t : Topology} {data : SourceData} {results : List (List Record)} {stage input : Stage}

theorem resume_eq_error {before : List (List Record)} {stages : List Stage} {e : RunError} :
    resume t data before stages = .error e ↔
      ∃ (k : Nat) (stage : Stage) (results : List (List Record)), stages[k]? = some stage ∧
        resume t data before (stages.take k) = .ok results ∧
          stageRecords t data results stage = .error e := by
  induction stages generalizing before with
  | nil => simp [resume]
  | cons first rest ih =>
    rw [resume_cons, bind_eq_error]
    constructor
    · rintro (failed | ⟨made, done, failed⟩)
      · exact ⟨0, first, before, rfl, rfl, failed⟩
      · obtain ⟨k, stage, results, here, ran, failed⟩ := ih.mp failed
        refine ⟨k + 1, stage, results, here, ?_, failed⟩
        rw [List.take_succ_cons, resume_cons, done]
        exact ran
    · rintro ⟨k, stage, results, here, ran, failed⟩
      cases k with
      | zero =>
        cases here
        cases ran
        exact .inl failed
      | succ k =>
        rw [List.take_succ_cons, resume_cons, bind_eq_ok] at ran
        obtain ⟨made, done, ran⟩ := ran
        exact .inr ⟨made, done, ih.mpr ⟨k, stage, results, here, ran, failed⟩⟩

/-- A run fails where the first of its stages does. -/
theorem trace_eq_error {e : RunError} :
    trace t data = .error e ↔
      ∃ (k : Nat) (stage : Stage) (results : List (List Record)), t.stages[k]? = some stage ∧
        resume t data [] (t.stages.take k) = .ok results ∧ stageRecords t data results stage = .error e :=
  resume_eq_error

theorem run_eq_error {limit : Option Nat} {e : RunError} :
    t.run data limit = .error e ↔ trace t data = .error e := by
  unfold Topology.run
  simp [bind_eq_error]

theorem length_resume {k : Nat} (here : t.stages[k]? = some stage)
    (ran : resume t data [] (t.stages.take k) = .ok results) : results.length = k := by
  obtain ⟨after, rfl, length, _⟩ := resume_eq_ok ran
  have bound := (List.getElem?_eq_some_iff.mp here).1
  simpa [Nat.le_of_lt bound] using length

theorem inputAt_eq_ok_iff {position : Nat} :
    inputAt t results stage position = .ok input ↔
      t.earlier? results.length stage position = some input := by
  rw [inputAt_eq_ok]
  simp only [Topology.earlier?, Option.bind_eq_bind, Option.bind_eq_some_iff]
  refine exists_congr fun id => and_congr_right fun _ => ?_
  by_cases evaluated : id.number < results.length <;> simp [evaluated]

/-- An input among the stages so far is read, with records it has there. -/
theorem reads_of_earlier {position : Nat} (numbered : t.Numbered)
    (found : t.earlier? results.length stage position = some input) :
    ∃ records, Reads t results stage position input records ∧
      ∃ j : Nat, t.stages[j]? = some input ∧ results[j]? = some records := by
  obtain ⟨id, named, before, here⟩ := Topology.earlier?_eq_some.mp found
  have given := List.getElem?_eq_getElem before
  exact ⟨_, (reads_iff numbered).mpr ⟨id, named, here, given⟩, id.number, here, given⟩

theorem inputAt_ne_outOfRange (position : Nat) (s i : StageId) :
    inputAt t results stage position ≠ .error (.outOfRange s i) := by
  unfold inputAt
  repeat' split
  all_goals simp

theorem recordsOf_eq_error {e : RunError} :
    recordsOf results stage input = .error e ↔
      results.length ≤ input.id.number ∧ .outOfRange stage.id input.id = e := by
  unfold recordsOf
  cases given : results[input.id.number]? with
  | none =>
    have beyond := List.getElem?_eq_none_iff.mp given
    simp [beyond]
  | some records =>
    have within := (List.getElem?_eq_some_iff.mp given).1
    simp [Nat.not_le.mpr within]

theorem exists_recordsOf {P : Prop} :
    (∃ records, recordsOf results stage input = .ok records ∧ P) ↔ input.id.number < results.length ∧ P := by
  simp [recordsOf_eq_ok, List.getElem?_eq_some_iff]

theorem blame_ne_outOfRange (step : Except RunFault α) (s i : StageId) :
    blame stage step ≠ .error (.outOfRange s i) := by
  cases step <;> simp [blame]

/-- A step over the records of one input asks for records that are not there where that input strays. -/
theorem read_outOfRange {position : Nat} {s i : StageId} {next : Stage → List Record → Except RunError α}
    (quiet : ∀ input records, next input records ≠ .error (.outOfRange s i)) :
    (inputAt t results stage position >>= fun input =>
        recordsOf results stage input >>= fun records => next input records) = .error (.outOfRange s i) ↔
      ∃ input, t.earlier? results.length stage position = some input ∧
        results.length ≤ input.id.number ∧ stage.id = s ∧ input.id = i := by
  simp only [bind_eq_error, recordsOf_eq_error, inputAt_eq_ok_iff, inputAt_ne_outOfRange, quiet, false_or,
    and_false, exists_false, or_false, RunError.outOfRange.injEq]

theorem strayId?_single {k : Nat} {i : StageId} (arity : stage.op.arity = 1) :
    t.strayId? k stage = some i ↔
      ∃ input, t.earlier? k stage 0 = some input ∧ k ≤ input.id.number ∧ input.id = i := by
  simp [Topology.strayId?, Topology.inputs?, arity, Option.bind_eq_some_iff]

theorem strayId?_pair {k : Nat} {i : StageId} (arity : stage.op.arity = 2) :
    t.strayId? k stage = some i ↔
      ∃ left, t.earlier? k stage 0 = some left ∧ ∃ right, t.earlier? k stage 1 = some right ∧
        (k ≤ left.id.number ∧ left.id = i ∨
          left.id.number < k ∧ k ≤ right.id.number ∧ right.id = i) := by
  simp only [Topology.strayId?, Topology.inputs?, arity, List.range_succ, List.range_zero, List.nil_append,
    List.cons_append, List.mapM_cons, List.mapM_nil, Option.bind_eq_bind, Option.bind_eq_some_iff, Option.pure_def]
  refine ⟨?_, ?_⟩
  · rintro ⟨_, ⟨left, found, _, ⟨right, also, _, ⟨⟩, ⟨⟩⟩, ⟨⟩⟩, stray⟩
    refine ⟨left, found, right, also, ?_⟩
    simpa [List.find?_cons_eq_some] using stray
  · rintro ⟨left, found, right, also, stray⟩
    refine ⟨_, ⟨left, found, _, ⟨right, also, _, rfl, rfl⟩, rfl⟩, ?_⟩
    simpa [List.find?_cons_eq_some] using stray

theorem strayId?_source {k : Nat} (arity : stage.op.arity = 0) : t.strayId? k stage = none := by
  simp [Topology.strayId?, Topology.inputs?, arity]

theorem read_pair_outOfRange {s i : StageId} {next : Stage → List Record → List Record → Except RunError α}
    (quiet : ∀ right streamed stored, next right streamed stored ≠ .error (.outOfRange s i)) :
    (do
      let left ← inputAt t results stage 0
      let right ← inputAt t results stage 1
      let streamed ← recordsOf results stage left
      let stored ← recordsOf results stage right
      next right streamed stored) = .error (.outOfRange s i) ↔
      ∃ left, t.earlier? results.length stage 0 = some left ∧
        ∃ right, t.earlier? results.length stage 1 = some right ∧
          stage.id = s ∧ (results.length ≤ left.id.number ∧ left.id = i ∨
            left.id.number < results.length ∧ results.length ≤ right.id.number ∧ right.id = i) := by
  simp only [bind_eq_error, recordsOf_eq_error, inputAt_eq_ok_iff, inputAt_ne_outOfRange, quiet, false_or,
    and_false, exists_false, or_false, RunError.outOfRange.injEq, exists_recordsOf]
  grind

/-- The step lemma: whether a stage strays depends on the topology and on how many stages came
before it, not on their records. -/
theorem stageRecords_outOfRange {s i : StageId} :
    stageRecords t data results stage = .error (.outOfRange s i) ↔
      stage.id = s ∧ t.strayId? results.length stage = some i := by
  have single {next : Stage → List Record → Except RunError (List Record)} (arity : stage.op.arity = 1)
      (quiet : ∀ input records, next input records ≠ .error (.outOfRange s i)) :
      (inputAt t results stage 0 >>= fun input =>
          recordsOf results stage input >>= fun records => next input records) = .error (.outOfRange s i) ↔
        stage.id = s ∧ t.strayId? results.length stage = some i := by
    rw [read_outOfRange quiet, strayId?_single arity]
    grind
  unfold stageRecords
  cases op : stage.op with
  | streamSource topic codec | tableSource topic codec store =>
    have source : t.strayId? results.length stage = none := strayId?_source (by rw [op]; rfl)
    simp [sourceRecords, bind_eq_error, blame_ne_outOfRange, source]
  | filter predicate => exact single (by rw [op]; rfl) fun _ _ => blame_ne_outOfRange _ s i
  | project expressions => exact single (by rw [op]; rfl) fun _ _ => blame_ne_outOfRange _ s i
  | selectKey field => exact single (by rw [op]; rfl) fun _ _ => blame_ne_outOfRange _ s i
  | leftJoin codec =>
    refine (read_pair_outOfRange fun _ _ _ => blame_ne_outOfRange _ s i).trans ?_
    rw [strayId?_pair (by rw [op]; rfl)]
    grind
  | toTopic topic codec | print =>
    have copied := @single (fun _ records => .ok records) (by rw [op]; rfl) (by simp)
    simpa only [bind_ok] using copied

/-- Where no stage carries an id beyond its place, no input strays. -/
theorem strayId?_eq_none (placed : ∀ (k : Nat) (stage : Stage), t.stages[k]? = some stage → stage.id.number ≤ k)
    (k : Nat) (stage : Stage) : t.strayId? k stage = none := by
  have near {position : Nat} {input : Stage} (found : t.earlier? k stage position = some input) :
      input.id.number < k := by
    simp only [Topology.earlier?, Option.bind_eq_bind, Option.bind_eq_some_iff] at found
    obtain ⟨id, _, found⟩ := found
    split at found
    · have := placed id.number input found
      omega
    · cases found
  cases stray : t.strayId? k stage with
  | none => rfl
  | some i =>
    have arity : stage.op.arity = 0 ∨ stage.op.arity = 1 ∨ stage.op.arity = 2 := by
      cases stage.op <;> simp [StageOp.arity]
    rcases arity with none | one | two
    · exact nomatch stray.symm.trans (strayId?_source none)
    · obtain ⟨input, found, beyond, _⟩ := (strayId?_single one).mp stray
      exact absurd (near found) (Nat.not_lt.mpr beyond)
    · obtain ⟨left, found, right, also, ⟨beyond, _⟩ | ⟨_, beyond, _⟩⟩ := (strayId?_pair two).mp stray
      · exact absurd (near found) (Nat.not_lt.mpr beyond)
      · exact absurd (near also) (Nat.not_lt.mpr beyond)

/-- A run asks for records out of range exactly at a stage that it reaches and that has a stray input,
so it never does where no stage carries an id beyond its place. -/
theorem run_outOfRange_iff (t : Topology) (data : SourceData) (limit : Option Nat) :
    (∀ s i, t.run data limit = .error (.outOfRange s i) ↔
      ∃ (k : Nat) (stage : Stage) (results : List (List Record)), t.stages[k]? = some stage ∧
        resume t data [] (t.stages.take k) = .ok results ∧ stage.id = s ∧ t.strayId? k stage = some i) ∧
    ((∀ (k : Nat) (stage : Stage), t.stages[k]? = some stage → stage.id.number ≤ k) →
      ∀ s i, t.run data limit ≠ .error (.outOfRange s i)) := by
  have stops (s i) : t.run data limit = .error (.outOfRange s i) ↔
      ∃ (k : Nat) (stage : Stage) (results : List (List Record)), t.stages[k]? = some stage ∧
        resume t data [] (t.stages.take k) = .ok results ∧ stage.id = s ∧ t.strayId? k stage = some i := by
    rw [run_eq_error, trace_eq_error]
    refine exists_congr fun k => exists_congr fun stage => exists_congr fun results =>
      and_congr_right fun here => and_congr_right fun ran => ?_
    rw [stageRecords_outOfRange, length_resume here ran]
  refine ⟨stops, fun placed s i failed => ?_⟩
  obtain ⟨k, stage, results, _, _, _, stray⟩ := (stops s i).mp failed
  rw [strayId?_eq_none placed] at stray
  cases stray

/-- A source shown on the console, its two stages carrying the given ids. -/
def shownAs (source shown : Nat) : Topology :=
  let schema : Schema := ⟨[⟨"id", .int64, false⟩]⟩
  ⟨[⟨⟨source⟩, .streamSource "events" .json, [], schema, "id", .stream⟩,
    ⟨⟨shown⟩, .print, [⟨0⟩], schema, "id", .stream⟩]⟩

theorem shownAs_strays : (shownAs 5 1).run .empty none = .error (.outOfRange ⟨1⟩ ⟨5⟩) ∧
    (∀ (k : Nat) (stage : Stage), (shownAs 0 0).stages[k]? = some stage → stage.id.number ≤ k) ∧
      ∀ s i, (shownAs 0 0).run .empty none ≠ .error (.outOfRange s i) := by
  have placed (k : Nat) (stage : Stage) (here : (shownAs 0 0).stages[k]? = some stage) : stage.id.number ≤ k := by
    have first : stage.id.number = 0 := by
      rcases List.mem_pair.mp (List.mem_of_getElem? here) with rfl | rfl <;> rfl
    omega
  have stray : ∃ (k : Nat) (stage : Stage) (results : List (List Record)),
      (shownAs 5 1).stages[k]? = some stage ∧
        resume (shownAs 5 1) .empty [] ((shownAs 5 1).stages.take k) = .ok results ∧ stage.id = ⟨1⟩ ∧
          (shownAs 5 1).strayId? k stage = some ⟨5⟩ :=
    ⟨1, _, [[]], rfl, by rfl, rfl, by rfl⟩
  exact ⟨((run_outOfRange_iff (shownAs 5 1) .empty none).1 ⟨1⟩ ⟨5⟩).mpr stray, placed,
    (run_outOfRange_iff (shownAs 0 0) .empty none).2 placed⟩

theorem not_inRange : ¬ ∀ (t : Topology) (data : SourceData) (limit : Option Nat) (s i : StageId),
    t.run data limit ≠ .error (.outOfRange s i) :=
  fun claim => claim (shownAs 5 1) .empty none ⟨1⟩ ⟨5⟩ (by rfl)

end Run
end StreamPlan
