import StreamPlan.Proofs.Meaning
import StreamPlan.Proofs.Places

/-! A compiled plan run over the rows of its topics. Wherever the stages of a plan stand in a
topology, running over them ends with the records the plan means, or with its fault. -/
namespace StreamPlan

namespace Run

/-- Going on over the stages ends with the records of the last of them, or with a fault in one. -/
def Ends (t : Topology) (data : SourceData) (results : List (List Record)) (stages : List Stage)
    (outcome : Except RunFault (List Record)) : Prop :=
  match outcome with
  | .ok records => ∃ inner, inner.length + 1 = stages.length ∧
      resume t data results stages = .ok (results ++ inner ++ [records])
  | .error fault => ∃ id, resume t data results stages = .error (.stage id fault)

variable {t : Topology} {data : SourceData} {results : List (List Record)} {stages : List Stage}

theorem ends_single {stage : Stage} {outcome : Except RunFault (List Record)}
    (own : stageRecords t data results stage = blame stage outcome) : Ends t data results [stage] outcome := by
  unfold Ends
  cases outcome with
  | ok records => exact ⟨[], rfl, by rw [resume_single, own]; simp [blame]⟩
  | error fault => exact ⟨stage.id, by rw [resume_single, own]; rfl⟩

/-- More stages after some that end: what they make of the records so far comes out in the end. -/
theorem Ends.then {more : List Stage} {first : Except RunFault (List Record)}
    {next : List Record → Except RunFault (List Record)} (before : Ends t data results stages first)
    (after : ∀ inner records, inner.length + 1 = stages.length → first = .ok records →
      Ends t data (results ++ inner ++ [records]) more (next records)) :
    Ends t data results (stages ++ more) (first >>= next) := by
  cases first with
  | error fault =>
    obtain ⟨id, failed⟩ := before
    exact ⟨id, by rw [resume_append, failed]; rfl⟩
  | ok records =>
    obtain ⟨inner, length, ran⟩ := before
    have rest := after inner records length rfl
    rw [ok_bind]
    unfold Ends at rest ⊢
    cases outcome : next records with
    | error fault =>
      rw [outcome] at rest
      obtain ⟨id, failed⟩ := rest
      exact ⟨id, by rw [resume_append, ran]; exact failed⟩
    | ok made =>
      rw [outcome] at rest
      obtain ⟨others, lengths, done⟩ := rest
      refine ⟨inner ++ [records] ++ others, by simp; omega, ?_⟩
      rw [resume_append, ran]
      simpa [List.append_assoc] using done

theorem getElem?_placed {k : Nat} {records : List Record} (size : results.length = k)
    (more : List (List Record)) : (results ++ [records] ++ more)[k]? = some records := by
  rw [List.getElem?_append_left (by simp [size]), ← size]
  exact List.getElem?_concat_length

theorem reads_last (numbered : t.Numbered) {stage input : Stage} {id : StageId} {records : List Record}
    (named : stage.inputs[0]? = some id) (recorded : t.stages[id.number]? = some input)
    (length : results.length = id.number) : Reads t (results ++ [records]) stage 0 input records := by
  refine (reads_iff numbered).mpr ⟨id, named, recorded, ?_⟩
  rw [← length]
  exact List.getElem?_concat_length

end Run

namespace Plan

open Run

variable {t : Topology} {data : SourceData} {config : Config} {n : Nat} {results : List (List Record)}

theorem ends_source (id : NodeId) {origin : Source} (checked : (Plan.source id origin).Checked) :
    Ends t data results ((Plan.source id origin).stages config n) ((Plan.source id origin).records data) := by
  have found : origin.schema.find origin.key.name = some origin.key := checked
  apply ends_single
  have topic : ((Plan.source id origin).stage config n).op.sourceTopic = some origin.topic := by
    cases mode : origin.mode <;> simp [stage, op, mode, StageOp.sourceTopic]
  rw [stageRecords_source topic, sourceRecords]
  change (blame _ (keyed origin.key.name origin.schema _) >>= fun records => pure
    (if origin.mode = .table then latestPerKey records else records)) = _
  rw [keyed_eq_arrive found, records]
  cases (data.rows origin.topic).mapM (Row.arrive origin.schema origin.key.name) with
  | error fault => rfl
  | ok arrived => cases mode : origin.mode <;> simp [blame, latestPerKey_eq_lastPerKey]

theorem ends_after {input : Plan} {stage : Stage} {step : List Record → Except RunFault (List Record)}
    (numbered : t.Numbered) (size : results.length = n) (inputs : stage.inputs = [input.stageId n])
    (has : t.HasAt n (input.stages config n))
    (below : Ends t data results (input.stages config n) (input.records data))
    (own : ∀ records results, Reads t results stage 0 (input.stage config n) records →
      stageRecords t data results stage = blame stage (step records)) :
    Ends t data results (input.stages config n ++ [stage]) (input.records data >>= step) := by
  refine below.then fun inner records length _ => ends_single (own records _ ?_)
  refine reads_last numbered (by rw [inputs]; rfl) (hasAt_own has) ?_
  rw [length_stages] at length
  simp only [List.length_append, size, stageId]
  omega

/-- The records so far when a join is next: those of both inputs are in their places. -/
structure JoinReady (t : Topology) (config : Config) (n : Nat) (results : List (List Record))
    (left right : Plan) (streamed stored : List Record) : Prop where
  leftStage : t.stages[(left.stageId n).number]? = some (left.stage config n)
  rightStage : t.stages[(right.stageId (left.nextFrom n)).number]? =
    some (right.stage config (left.nextFrom n))
  leftGiven : results[(left.stageId n).number]? = some streamed
  rightGiven : results[(right.stageId (left.nextFrom n)).number]? = some stored
  size : results.length = right.nextFrom (left.nextFrom n)

theorem JoinReady.later {left right : Plan} {streamed stored more : List Record}
    (ready : JoinReady t config n results left right streamed stored) :
    (results ++ [more])[(right.stageId (left.nextFrom n)).number]? = some stored := by
  rw [List.getElem?_append_left (List.getElem?_eq_some_iff.mp ready.rightGiven).1]
  exact ready.rightGiven

theorem ends_joinStage {left right : Plan} {spec : Join} {streamed stored : List Record} {input : Stage}
    (id : NodeId) (numbered : t.Numbered) (checked : JoinChecked left right spec)
    (joinable : Joinable left right streamed stored)
    (rightStage : t.stages[(right.stageId (left.nextFrom n)).number]? =
      some (right.stage config (left.nextFrom n)))
    (rightGiven : results[(right.stageId (left.nextFrom n)).number]? = some stored)
    (reads : Reads t results ((Plan.join id left right spec).stage config n) 0 input
      (joinInput left spec streamed)) :
    Ends t data results [(Plan.join id left right spec).stage config n]
      (.ok (joined left right spec streamed stored)) := by
  have also : Reads t results ((Plan.join id left right spec).stage config n) 1
      (right.stage config (left.nextFrom n)) stored :=
    (reads_iff numbered).mpr ⟨_, rfl, rightStage, rightGiven⟩
  apply ends_single
  rw [stageRecords_leftJoin rfl reads also, ← keyed_joinedRows checked joinable]
  rfl

theorem ends_join {left right : Plan} {spec : Join} {streamed stored : List Record} (id : NodeId)
    (numbered : t.Numbered) (checked : JoinChecked left right spec)
    (joinable : Joinable left right streamed stored)
    (ready : JoinReady t config n results left right streamed stored)
    (has : t.HasAt (right.nextFrom (left.nextFrom n))
      (rekeyStages n left right spec ++ [(Plan.join id left right spec).stage config n])) :
    Ends t data results (rekeyStages n left right spec ++ [(Plan.join id left right spec).stage config n])
      (.ok (joined left right spec streamed stored)) := by
  cases needed : left.rekeyed spec with
  | false =>
    have none : rekeyStages n left right spec = [] := by simp [rekeyStages, needed]
    have same : joinInput left spec streamed = streamed := by simp [joinInput, needed]
    have named : ((Plan.join id left right spec).stage config n).inputs[0]? = some (left.stageId n) := by
      simp [stage, inputIds, leftInput, needed, handle]
    have reads : Reads t results ((Plan.join id left right spec).stage config n) 0
        (left.stage config n) (joinInput left spec streamed) := by
      rw [same]
      exact (reads_iff numbered).mpr ⟨_, named, ready.leftStage, ready.leftGiven⟩
    rw [none]
    exact ends_joinStage id numbered checked joinable ready.rightStage ready.rightGiven reads
  | true =>
    -- the rekeyed records come last, and those of the right input stay where they were
    have one : rekeyStages n left right spec = [rekeyStage n left right spec] := by
      simp [rekeyStages, needed]
    have named : ((Plan.join id left right spec).stage config n).inputs[0]? =
        some ⟨right.nextFrom (left.nextFrom n)⟩ := by
      simp [stage, inputIds, leftInput, needed]
    have rekeyed : Ends t data results [rekeyStage n left right spec] (.ok (joinInput left spec streamed)) := by
      have reads : Reads t results (rekeyStage n left right spec) 0 (left.stage config n) streamed :=
        (reads_iff numbered).mpr ⟨_, rfl, ready.leftStage, ready.leftGiven⟩
      apply ends_single
      rw [stageRecords_selectKey rfl reads, ← keyed_joinInput checked needed joinable.left]
      rfl
    rw [one] at has ⊢
    refine show Ends t data results _ (.ok (joinInput left spec streamed) >>= fun _ =>
      .ok (joined left right spec streamed stored)) from rekeyed.then ?_
    intro inner records length same
    cases same
    have empty : inner = [] := List.length_eq_zero_iff.mp (by simpa using length)
    rw [empty, List.append_nil]
    exact ends_joinStage id numbered checked joinable ready.rightStage ready.later
      (reads_last numbered named (has.append.1 0 _ rfl) ready.size)

/-- The stages of a plan, wherever they stand, end with what the plan means. -/
theorem ends_stages (numbered : t.Numbered) (plan : Plan) (checked : plan.Checked)
    (tables : ∀ id left right spec, Plan.join id left right spec ∈ plan.nodes → right.Tabular)
    (has : t.HasAt n (plan.stages config n)) (size : results.length = n) :
    Ends t data results (plan.stages config n) (plan.records data) := by
  induction plan generalizing n results with
  | source id origin => exact ends_source id checked
  | filter id input predicate ih =>
    have below := fun id left right spec member => tables id left right spec (List.mem_cons_of_mem _ member)
    refine ends_after numbered size rfl has.append.1 (ih checked.1 below has.append.1 size) ?_
    intro records results reads
    rw [stageRecords_filter rfl reads, filter_eq_kept]
    rfl
  | project id input schema expressions ih =>
    have below := fun id left right spec member => tables id left right spec (List.mem_cons_of_mem _ member)
    refine ends_after numbered size rfl has.append.1 (ih checked.1 below has.append.1 size) ?_
    intro records results reads
    rw [stageRecords_project rfl reads, project_eq_mapped]
    rfl
  | join id left right spec leftIh rightIh =>
    obtain ⟨leftChecked, rightChecked, joinChecked⟩ := checked
    have leftTables := fun id l r s member =>
      tables id l r s (List.mem_cons_of_mem _ (List.mem_append_left _ member))
    have rightTables := fun id l r s member =>
      tables id l r s (List.mem_cons_of_mem _ (List.mem_append_right _ member))
    -- left before right, each over the records so far; a fault on the left hides one on the right
    obtain ⟨leftHas, rightHas, own⟩ := hasAt_join has
    rw [stages_join]
    refine (leftIh leftChecked leftTables leftHas size).then fun inner streamed length leftDone => ?_
    rw [length_stages] at length
    have middle : (results ++ inner ++ [streamed]).length = left.nextFrom n := by
      simp [size, nextFrom]
      omega
    refine (rightIh rightChecked rightTables rightHas middle).then fun others stored more rightDone => ?_
    rw [length_stages] at more
    have joinable : Joinable left right streamed stored :=
      ⟨width_records leftChecked leftDone, width_records rightChecked rightDone,
        nodup_records (tables id left right spec List.mem_cons_self) rightDone⟩
    refine ends_join id numbered joinChecked joinable ⟨hasAt_own leftHas, hasAt_own rightHas, ?_, ?_, ?_⟩ own
    · rw [List.append_assoc (results ++ inner ++ [streamed])]
      exact getElem?_placed (by simp [size, stageId]; omega) _
    · rw [← List.append_nil (_ ++ [stored])]
      exact getElem?_placed (by simp [size, stageId, nextFrom]; omega) _
    · simp only [List.length_append, List.length_singleton, size, nextFrom]
      omega
  | output id input target ih =>
    have below := fun id left right spec member => tables id left right spec (List.mem_cons_of_mem _ member)
    have same : (Plan.output id input target).records data = input.records data >>= .ok :=
      (bind_ok _).symm
    rw [same]
    refine ends_after numbered size rfl has.append.1 (ih checked below has.append.1 size) ?_
    intro records results reads
    refine stageRecords_terminal ?_ reads
    cases target <;> rfl

end Plan
namespace Run

variable {data : SourceData} {limit : Option Nat}

theorem add_inner {stage : Stage} (inner : stage.op.isTerminal = false) (outcome : Outcome)
    (records : List Record) :
    (outcome.add data limit stage records).sinks = outcome.sinks ∧
      (outcome.add data limit stage records).console = outcome.console := by
  unfold Outcome.add
  cases op : stage.op with
  | toTopic | print => simp [op, StageOp.isTerminal] at inner
  | streamSource | tableSource | filter | project | selectKey | leftJoin => exact ⟨rfl, rfl⟩

theorem foldl_inner (pairs : List (Stage × List Record))
    (inner : ∀ pair ∈ pairs, pair.1.op.isTerminal = false) (outcome : Outcome) :
    let after := pairs.foldl (fun outcome (stage, records) => outcome.add data limit stage records) outcome
    after.sinks = outcome.sinks ∧ after.console = outcome.console := by
  induction pairs generalizing outcome with
  | nil => exact ⟨rfl, rfl⟩
  | cons pair rest ih =>
    obtain ⟨sinks, console⟩ := add_inner (inner pair List.mem_cons_self) outcome pair.2
    obtain ⟨laterSinks, laterConsole⟩ :=
      ih (fun other member => inner other (List.mem_cons_of_mem _ member))
        (outcome.add data limit pair.1 pair.2)
    exact ⟨laterSinks.trans sinks, laterConsole.trans console⟩

theorem outcomeOf_inner (data : SourceData) (limit : Option Nat) {stages : List Stage}
    (inner : ∀ stage ∈ stages, stage.op.isTerminal = false) (results : List (List Record)) :
    (outcomeOf data limit stages results).sinks = [] ∧
      (outcomeOf data limit stages results).console = [] :=
  foldl_inner (stages.zip results) (fun _ member => inner _ (List.of_mem_zip member).1) .empty

theorem outcomeOf_concat {stages : List Stage} {last : Stage} {inner : List (List Record)}
    (records : List Record) (length : stages.length = inner.length) :
    outcomeOf data limit (stages ++ [last]) (inner ++ [records]) =
      (outcomeOf data limit stages inner).add data limit last records := by
  unfold outcomeOf
  rw [List.zip_append length, List.foldl_append]
  rfl

end Run

namespace Plan
open Run

/-- What is seen of an output's records: those written to its topic, or the lines shown. -/
def delivered (limit : Option Nat) (records : List Record) : Plan → Sinks × List String
  | .output _ _ (.topic name) => ([(name, records)], [])
  | .output _ _ .console => ([], (limited limit records).map Record.display)
  | _ => ([], [])

theorem outcomeOf_stages (data : SourceData) (limit : Option Nat) {plan : Plan} {config : Config}
    {inner : List (List Record)} (records : List Record) (root : plan.isOutput = true)
    (nested : ∀ node ∈ plan.nodes.tail, node.isOutput = false)
    (length : inner.length + 1 = (plan.stages config 0).length) :
    let outcome := outcomeOf data limit (plan.stages config 0) (inner ++ [records])
    (outcome.sinks, outcome.console) = plan.delivered limit records := by
  cases plan with
  | output id input target =>
    rw [length_stages] at length
    have lengths : (input.stages config 0).length = inner.length := by
      rw [length_stages]
      simp only [stagesBelow] at length
      omega
    obtain ⟨sinks, console⟩ := outcomeOf_inner data limit (inner_stages nested config 0) inner
    have split : outcomeOf data limit ((Plan.output id input target).stages config 0) (inner ++ [records]) =
        (outcomeOf data limit (input.stages config 0) inner).add data limit
          ((Plan.output id input target).stage config 0) records :=
      outcomeOf_concat records lengths
    rw [split]
    cases target with
    | topic name => simp [Outcome.add, Plan.stage, op, sinks, console, deliver, delivered]
    | console => simp [Outcome.add, Plan.stage, op, sinks, console, delivered]
  | source | filter | project | join => cases root

/-- A compiled plan runs to its end exactly when the plan means records, and shows these. -/
theorem run_compiled {plan : Plan} {config : Config} {compiled : Compiled} (built : plan.Built)
    (accepted : plan.compile config = .ok compiled) (data : SourceData) (limit : Option Nat) :
    ((∃ outcome, compiled.topology.run data limit = .ok outcome) ↔
        ∃ records, plan.records data = .ok records) ∧
      (∀ outcome records, compiled.topology.run data limit = .ok outcome →
        plan.records data = .ok records → (outcome.sinks, outcome.console) = plan.delivered limit records) ∧
      ∀ fault, plan.records data = .error fault →
        ∃ id, compiled.topology.run data limit = .error (.stage id fault) := by
  obtain ⟨supported, topology⟩ := compile_eq_ok built.checked accepted
  have tables := fun id left right spec member => (supported.joins id left right spec member).2
  have ends : Ends compiled.topology data [] (plan.stages config 0) (plan.records data) := by
    rw [topology]
    exact ends_stages (numbered_stages config plan) plan built.checked tables (Topology.hasAt_self _) rfl
  have run : compiled.topology.run data limit = resume compiled.topology data [] (plan.stages config 0) >>=
      fun results => .ok (outcomeOf data limit (plan.stages config 0) results) := by
    rw [topology]
    rfl
  unfold Ends at ends
  cases meaning : plan.records data with
  | error fault =>
    rw [meaning] at ends
    obtain ⟨id, failed⟩ := ends
    rw [run, failed]
    exact ⟨by simp, by simp, fun _ same => by cases same; exact ⟨id, rfl⟩⟩
  | ok records =>
    rw [meaning] at ends
    obtain ⟨inner, length, ran⟩ := ends
    have shown := outcomeOf_stages data limit records supported.root supported.nested length
    rw [run, ran]
    simp only [List.nil_append, ok_bind]
    refine ⟨by simp, ?_, by simp⟩
    rintro _ _ ⟨⟩ ⟨⟩
    exact shown

/-- Two orders paid for, one of them by a customer who is known. -/
def shipmentRows : SourceData :=
  ⟨[("orders", [⟨[.int32 1, .text "ada", .bool true]⟩, ⟨[.int32 2, .text "bob", .bool true]⟩,
      ⟨[.int32 3, .text "ada", .bool false]⟩]),
    ("customers", [⟨[.text "ada", .text "york"]⟩, ⟨[.text "ada", .text "bath"]⟩])]⟩

def shipped : List Record :=
  [⟨"ada", ⟨[.int32 1, .text "ada", .text "bath"]⟩⟩, ⟨"bob", ⟨[.int32 2, .text "bob", .null]⟩⟩]

theorem run_shipments : shipments.Built ∧ ∃ compiled, shipments.compile .standard = .ok compiled ∧
    ∃ outcome, compiled.topology.run shipmentRows none = .ok outcome ∧
      outcome.sinks = [("shipments", shipped)] := by
  have accepted : ∃ compiled, shipments.compile .standard = .ok compiled := ⟨_, by rfl⟩
  obtain ⟨compiled, accepted⟩ := accepted
  have meaning : shipments.records shipmentRows = .ok shipped := by rfl
  obtain ⟨runs, shown, _⟩ := run_compiled shipments_built accepted shipmentRows none
  obtain ⟨outcome, ran⟩ := runs.mpr ⟨_, meaning⟩
  exact ⟨shipments_built, compiled, accepted, outcome, ran,
    congrArg Prod.fst (shown outcome _ ran meaning)⟩

end Plan
end StreamPlan
