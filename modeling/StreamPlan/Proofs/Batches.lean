import StreamPlan.Proofs.Beside
import StreamPlan.Proofs.Simulation

/-! Streams taken in batches. Down the left inputs of a plan every node works record by record, and what
it reads on the right stays the same, so the records made of a stream are those made of its first rows
and then those made of the others. A stream that is read a second time, or as a table, is left out. -/
namespace StreamPlan

variable {ε α β : Type}

/-- The whole is there exactly when both parts are, and it is one after the other. -/
def Appends (whole first second : Except ε (List α)) : Prop :=
  ∀ made, whole = .ok made ↔ ∃ before after, first = .ok before ∧ second = .ok after ∧ made = before ++ after

def Batchwise (step : List α → Except ε (List β)) : Prop :=
  ∀ xs ys, Appends (step (xs ++ ys)) (step xs) (step ys)

theorem Appends.bind {whole first second : Except ε (List α)} {step : List α → Except ε (List β)}
    (appends : Appends whole first second) (batchwise : Batchwise step) :
    Appends (whole >>= step) (first >>= step) (second >>= step) := by
  intro made
  constructor
  · intro done
    obtain ⟨given, ready, done⟩ := bind_eq_ok.mp done
    obtain ⟨xs, ys, left, right, rfl⟩ := (appends given).mp ready
    obtain ⟨before, after, one, two, rfl⟩ := (batchwise xs ys made).mp done
    exact ⟨before, after, bind_eq_ok.mpr ⟨xs, left, one⟩, bind_eq_ok.mpr ⟨ys, right, two⟩, rfl⟩
  · rintro ⟨before, after, one, two, rfl⟩
    obtain ⟨xs, left, one⟩ := bind_eq_ok.mp one
    obtain ⟨ys, right, two⟩ := bind_eq_ok.mp two
    have ready := (appends (xs ++ ys)).mpr ⟨xs, ys, left, right, rfl⟩
    exact bind_eq_ok.mpr ⟨xs ++ ys, ready, (batchwise xs ys _).mpr ⟨before, after, one, two, rfl⟩⟩

theorem Appends.exists_iff {whole first second : Except ε (List α)} (appends : Appends whole first second) :
    (∃ made, whole = .ok made) ↔ (∃ before, first = .ok before) ∧ ∃ after, second = .ok after := by
  constructor
  · rintro ⟨made, done⟩
    obtain ⟨before, after, one, two, _⟩ := (appends made).mp done
    exact ⟨⟨before, one⟩, after, two⟩
  · rintro ⟨⟨before, one⟩, after, two⟩
    exact ⟨before ++ after, (appends _).mpr ⟨before, after, one, two, rfl⟩⟩

theorem Appends.cons {whole first second : Except ε (List α)} (appends : Appends whole first second) (x : α) :
    Appends (whole >>= fun rest => .ok (x :: rest)) (first >>= fun rest => .ok (x :: rest)) second := by
  intro made
  constructor
  · intro done
    obtain ⟨rest, ready, ⟨⟩⟩ := bind_eq_ok.mp done
    obtain ⟨before, after, one, two, rfl⟩ := (appends rest).mp ready
    exact ⟨x :: before, after, bind_eq_ok.mpr ⟨before, one, rfl⟩, two, rfl⟩
  · rintro ⟨_, after, one, two, rfl⟩
    obtain ⟨before, ready, ⟨⟩⟩ := bind_eq_ok.mp one
    exact bind_eq_ok.mpr ⟨before ++ after, (appends _).mpr ⟨before, after, ready, two, rfl⟩, rfl⟩

theorem appends_ok (before after : List α) : Appends (ε := ε) (.ok (before ++ after)) (.ok before) (.ok after) := by
  intro made
  constructor
  · rintro ⟨⟩
    exact ⟨before, after, rfl, rfl, rfl⟩
  · rintro ⟨_, _, ⟨⟩, ⟨⟩, rfl⟩
    rfl

theorem batchwise_mapM (f : α → Except ε β) : Batchwise (List.mapM f) := by
  intro xs ys made
  simp only [List.mapM_append, bind_eq_ok, pure_eq_ok, Except.ok.injEq]
  constructor
  · rintro ⟨before, one, after, two, rfl⟩
    exact ⟨before, after, one, two, rfl⟩
  · rintro ⟨before, after, one, two, rfl⟩
    exact ⟨before, one, after, two, rfl⟩

theorem batchwise_filterMapM (f : α → Except ε (Option β)) : Batchwise (List.filterMapM f) := by
  intro xs ys
  induction xs with
  | nil => simp [Appends]
  | cons x xs ih =>
    rw [List.cons_append, List.filterMapM_cons, List.filterMapM_cons]
    cases f x with
    | error e => simp [Appends]
    | ok chosen =>
      cases chosen with
      | none => exact ih
      | some y => exact ih.cons y

namespace Plan

theorem batchwise_evaluated {step : List α → Except EvalError (List β)} (batchwise : Batchwise step) :
    Batchwise fun xs => Run.evaluated (step xs) := by
  intro xs ys made
  simp only [Run.evaluated_eq_ok]
  exact batchwise xs ys made

theorem batchwise_kept (schema : Schema) (predicate : Expr) : Batchwise (kept schema predicate) :=
  batchwise_evaluated (batchwise_filterMapM _)

theorem batchwise_mapped (schema : Schema) (expressions : List Expr) : Batchwise (mapped schema expressions) :=
  batchwise_evaluated (batchwise_mapM _)

theorem joined_append (left right : Plan) (spec : Join) (stored xs ys : List Record) :
    joined left right spec (xs ++ ys) stored =
      joined left right spec xs stored ++ joined left right spec ys stored := by
  unfold joined joinInput
  split
  · simp only [List.map_append]
  · exact List.map_append

/-- The sources of a plan from left to right. -/
def origins : Plan → List Source
  | .source _ origin => [origin]
  | .filter _ input _ => input.origins
  | .project _ input _ _ => input.origins
  | .join _ left right _ => left.origins ++ right.origins
  | .output _ input _ => input.origins

theorem exists_origin (plan : Plan) : ∃ origin others, plan.origins = origin :: others := by
  induction plan with
  | source id origin => exact ⟨origin, [], rfl⟩
  | filter id input predicate ih => exact ih
  | project id input schema expressions ih => exact ih
  | join id left right spec leftIh rightIh =>
    obtain ⟨origin, others, same⟩ := leftIh
    exact ⟨origin, others ++ right.origins, by rw [origins, same, List.cons_append]⟩
  | output id input target ih => exact ih

/-- A plan means the same for any data that agree on the topics of its sources. -/
theorem records_congr {plan : Plan} {data other : SourceData}
    (same : ∀ origin ∈ plan.origins, data.rows origin.topic = other.rows origin.topic) :
    plan.records data = plan.records other := by
  induction plan with
  | source id origin =>
    unfold records
    rw [same origin List.mem_cons_self]
  | filter id input predicate ih =>
    unfold records
    rw [ih same]
  | project id input schema expressions ih =>
    unfold records
    rw [ih same]
  | join id left right spec leftIh rightIh =>
    have leftSame := leftIh fun origin member => same origin (List.mem_append_left _ member)
    have rightSame := rightIh fun origin member => same origin (List.mem_append_right _ member)
    unfold records
    rw [leftSame, rightSame]
  | output id input target ih => exact ih same

end Plan

/-- The rows of a topic come in two batches, and all others are the same throughout. -/
structure SourceData.Splits (topic : String) (whole first second : SourceData) : Prop where
  rows : whole.rows topic = first.rows topic ++ second.rows topic
  first : ∀ other, other ≠ topic → first.rows other = whole.rows other
  second : ∀ other, other ≠ topic → second.rows other = whole.rows other

namespace Plan

variable {plan : Plan} {origin : Source} {others : List Source} {whole first second : SourceData}

theorem records_split (leading : plan.origins = origin :: others) (stream : origin.mode = .stream)
    (alone : ∀ other ∈ others, other.topic ≠ origin.topic) (splits : whole.Splits origin.topic first second) :
    Appends (plan.records whole) (plan.records first) (plan.records second) := by
  -- down the left inputs, the sources on the right being among the others
  induction plan generalizing others with
  | source id origin =>
    cases leading
    simp only [records, stream, splits.rows, bind_ok, pure_eq_ok]
    exact batchwise_mapM _ _ _
  | filter id input predicate ih => exact (ih leading alone).bind (batchwise_kept input.schema predicate)
  | project id input schema expressions ih =>
    exact (ih leading alone).bind (batchwise_mapped input.schema expressions)
  | join id left right spec leftIh rightIh =>
    obtain ⟨head, rest, same⟩ := left.exists_origin
    rw [origins, same, List.cons_append, List.cons.injEq] at leading
    obtain ⟨rfl, rfl⟩ := leading
    have apart {data : SourceData} (kept : ∀ other, other ≠ head.topic → data.rows other = whole.rows other) :
        right.records data = right.records whole :=
      records_congr fun origin member => kept _ (alone origin (List.mem_append_right rest member))
    have streamed := leftIh same fun other member => alone other (List.mem_append_left _ member)
    unfold records
    rw [apart splits.first, apart splits.second]
    apply streamed.bind
    intro xs ys
    cases right.records whole with
    | error fault => simp [Appends]
    | ok stored =>
      simp only [ok_bind, pure_eq_ok, joined_append]
      exact appends_ok _ _
  | output id input target ih => exact ih leading alone

section
open Run

variable {config : Config} {compiled : Compiled} {data : SourceData} {limit : Option Nat}

theorem ends_compiled (built : plan.Built) (accepted : plan.compile config = .ok compiled) (data : SourceData) :
    Ends compiled.topology data [] (plan.stages config 0) (plan.records data) := by
  obtain ⟨supported, topology⟩ := compile_eq_ok built.checked accepted
  rw [topology]
  exact ends_stages (numbered_stages config plan) plan built.checked
    (fun id left right spec member => (supported.joins id left right spec member).2) (Topology.hasAt_self _) rfl

theorem run_of_records {records : List Record} (built : plan.Built)
    (accepted : plan.compile config = .ok compiled) (limit : Option Nat) (done : plan.records data = .ok records) :
    ∃ outcome, compiled.topology.run data limit = .ok outcome ∧
      (outcome.sinks, outcome.console) = plan.delivered limit records := by
  have ends := ends_compiled built accepted data
  rw [done] at ends
  obtain ⟨inner, length, ran⟩ := ends
  obtain ⟨supported, topology⟩ := compile_eq_ok built.checked accepted
  rw [topology] at ran ⊢
  refine ⟨_, ?_, outcomeOf_stages data limit records supported.root supported.nested length⟩
  rw [Topology.run_eq_trace, trace_eq_resume, ran]
  rfl

theorem run_iff_records (built : plan.Built) (accepted : plan.compile config = .ok compiled) (data : SourceData)
    (limit : Option Nat) :
    (∃ outcome, compiled.topology.run data limit = .ok outcome) ↔ ∃ records, plan.records data = .ok records := by
  cases meaning : plan.records data with
  | ok records =>
    obtain ⟨outcome, ran, _⟩ := run_of_records built accepted limit meaning
    exact iff_of_true ⟨outcome, ran⟩ ⟨records, rfl⟩
  | error fault =>
    have ends := ends_compiled built accepted data
    rw [meaning] at ends
    obtain ⟨id, failed⟩ := ends
    obtain ⟨_, topology⟩ := compile_eq_ok built.checked accepted
    rw [topology] at failed ⊢
    rw [Topology.run_eq_trace, trace_eq_resume, failed]
    exact iff_of_false (fun ⟨_, ran⟩ => by cases ran) (fun ⟨_, done⟩ => by cases done)

theorem delivered_of_run {outcome : Outcome} {records : List Record} (built : plan.Built)
    (accepted : plan.compile config = .ok compiled) (ran : compiled.topology.run data limit = .ok outcome)
    (done : plan.records data = .ok records) :
    outcome.sinks = (plan.delivered limit records).1 ∧ outcome.console = (plan.delivered limit records).2 := by
  obtain ⟨other, alsoRan, shown⟩ := run_of_records built accepted limit done
  cases ran.symm.trans alsoRan
  exact ⟨congrArg Prod.fst shown, congrArg Prod.snd shown⟩

theorem sinks_delivered_append (plan : Plan) (before after : List Record) (topic : String) :
    (plan.delivered limit (before ++ after)).1.lookup topic =
      Option.merge (· ++ ·) ((plan.delivered limit before).1.lookup topic)
        ((plan.delivered limit after).1.lookup topic) := by
  cases plan with
  | source | filter | project | join => rfl
  | output id input target =>
    cases target with
    | console => rfl
    | topic name =>
      change List.lookup topic [(name, before ++ after)] =
        Option.merge _ (List.lookup topic [(name, before)]) (List.lookup topic [(name, after)])
      simp only [lookup_cons_eq_ite]
      by_cases here : topic = name
      · rw [if_pos here, if_pos here, if_pos here]
        rfl
      · rw [if_neg here, if_neg here, if_neg here]
        rfl

/-- Only without a limit: the limit is on what each run shows. -/
theorem console_delivered_append (plan : Plan) (before after : List Record) :
    (plan.delivered none (before ++ after)).2 =
      (plan.delivered none before).2 ++ (plan.delivered none after).2 := by
  cases plan with
  | source | filter | project | join => rfl
  | output id input target =>
    cases target with
    | console => exact List.map_append
    | topic name => rfl

/-- A stream may be run in batches: what comes out of the whole is what comes out of the first rows and
then what comes out of the others. -/
theorem run_batches (built : plan.Built) (accepted : plan.compile config = .ok compiled)
    (leading : plan.origins = origin :: others) (stream : origin.mode = .stream)
    (alone : ∀ other ∈ others, other.topic ≠ origin.topic) (splits : whole.Splits origin.topic first second)
    (limit : Option Nat) :
    ((∃ outcome, compiled.topology.run whole limit = .ok outcome) ↔
      (∃ outcome, compiled.topology.run first limit = .ok outcome) ∧
        ∃ outcome, compiled.topology.run second limit = .ok outcome) ∧
    ∀ all one two, compiled.topology.run whole limit = .ok all → compiled.topology.run first limit = .ok one →
      compiled.topology.run second limit = .ok two →
      (∀ topic, all.sinks.lookup topic =
        Option.merge (· ++ ·) (one.sinks.lookup topic) (two.sinks.lookup topic)) ∧
      (limit = none → all.console = one.console ++ two.console) := by
  have split := records_split leading stream alone splits
  constructor
  · simp only [run_iff_records built accepted]
    exact split.exists_iff
  · intro all one two allRan oneRan twoRan
    obtain ⟨before, oneDone⟩ := (run_iff_records built accepted first limit).mp ⟨one, oneRan⟩
    obtain ⟨after, twoDone⟩ := (run_iff_records built accepted second limit).mp ⟨two, twoRan⟩
    have allDone := (split _).mpr ⟨before, after, oneDone, twoDone, rfl⟩
    obtain ⟨oneSinks, oneConsole⟩ := delivered_of_run built accepted oneRan oneDone
    obtain ⟨twoSinks, twoConsole⟩ := delivered_of_run built accepted twoRan twoDone
    obtain ⟨allSinks, allConsole⟩ := delivered_of_run built accepted allRan allDone
    constructor
    · intro topic
      rw [allSinks, oneSinks, twoSinks]
      exact sinks_delivered_append plan before after topic
    · rintro rfl
      rw [allConsole, oneConsole, twoConsole]
      exact console_delivered_append plan before after

/-- The orders of the shipments, the first of them apart from the others. -/
def firstOrder : SourceData :=
  ⟨[("orders", [⟨[.int32 1, .text "ada", .bool true]⟩]),
    ("customers", [⟨[.text "ada", .text "york"]⟩, ⟨[.text "ada", .text "bath"]⟩])]⟩

def otherOrders : SourceData :=
  ⟨[("orders", [⟨[.int32 2, .text "bob", .bool true]⟩, ⟨[.int32 3, .text "ada", .bool false]⟩]),
    ("customers", [⟨[.text "ada", .text "york"]⟩, ⟨[.text "ada", .text "bath"]⟩])]⟩

theorem shipments_batched : shipments.Built ∧ ∃ compiled, shipments.compile .standard = .ok compiled ∧
    shipmentRows.Splits "orders" firstOrder otherOrders ∧ ∃ all one two,
      compiled.topology.run shipmentRows none = .ok all ∧ compiled.topology.run firstOrder none = .ok one ∧
        compiled.topology.run otherOrders none = .ok two ∧
      all.sinks = [("shipments", shipped)] ∧
      one.sinks = [("shipments", [⟨"ada", ⟨[.int32 1, .text "ada", .text "bath"]⟩⟩])] ∧
      two.sinks = [("shipments", [⟨"bob", ⟨[.int32 2, .text "bob", .null]⟩⟩])] ∧
      ∀ topic, all.sinks.lookup topic =
        Option.merge (· ++ ·) (one.sinks.lookup topic) (two.sinks.lookup topic) := by
  have accepted : ∃ compiled, shipments.compile .standard = .ok compiled := ⟨_, by rfl⟩
  obtain ⟨compiled, accepted⟩ := accepted
  have splits : shipmentRows.Splits "orders" firstOrder otherOrders := by
    refine ⟨rfl, ?_, ?_⟩
    all_goals
      intro other differs
      simp only [SourceData.rows, SourceData.find, firstOrder, otherOrders, shipmentRows, lookup_cons_eq_ite,
        if_neg differs]
  have alone : ∀ other ∈ [(⟨"customers", customers.schema, ⟨"name", .utf8, false⟩, .table, .json⟩ : Source)],
      other.topic ≠ "orders" := by simp
  obtain ⟨runs, shown⟩ := run_batches shipments_built accepted rfl rfl alone splits none
  have oneDone : shipments.records firstOrder = .ok [⟨"ada", ⟨[.int32 1, .text "ada", .text "bath"]⟩⟩] := by rfl
  have twoDone : shipments.records otherOrders = .ok [⟨"bob", ⟨[.int32 2, .text "bob", .null]⟩⟩] := by rfl
  have allDone : shipments.records shipmentRows = .ok shipped := by rfl
  obtain ⟨one, oneRan, oneShown⟩ := run_of_records shipments_built accepted none oneDone
  obtain ⟨two, twoRan, twoShown⟩ := run_of_records shipments_built accepted none twoDone
  obtain ⟨all, allRan⟩ := runs.mpr ⟨⟨one, oneRan⟩, two, twoRan⟩
  exact ⟨shipments_built, compiled, accepted, splits, all, one, two, allRan, oneRan, twoRan,
    (delivered_of_run shipments_built accepted allRan allDone).1, congrArg Prod.fst oneShown,
    congrArg Prod.fst twoShown, (shown all one two allRan oneRan twoRan).1⟩

end

end Plan
end StreamPlan
