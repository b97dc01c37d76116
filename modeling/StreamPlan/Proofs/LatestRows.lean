import Mathlib.Data.List.Perm.Basic
import StreamPlan.Proofs.Batches

/-! What is joined against a table. Of the rows of a table a plan that leads with a stream depends only
on the last one of each key: neither the rows they replace nor the order in which the keys came make a
difference. The table itself does depend on that order, and so would a plan that leads with it. -/
namespace StreamPlan

variable {ε δ α β γ κ : Type}

/-- Both are done, with related results, or neither is. -/
inductive Alike (R : α → β → Prop) : Except ε α → Except δ β → Prop where
  | done {a : α} {b : β} (related : R a b) : Alike R (.ok a) (.ok b)
  | failed {e : ε} {f : δ} : Alike R (.error e) (.error f)

theorem Alike.bind {R : α → β → Prop} {S : γ → κ → Prop} {x : Except ε α} {y : Except δ β}
    {step : α → Except ε γ} {next : β → Except δ κ} (alike : Alike R x y)
    (each : ∀ a b, x = .ok a → R a b → Alike S (step a) (next b)) : Alike S (x >>= step) (y >>= next) := by
  cases alike with
  | done related => exact each _ _ rfl related
  | failed => exact .failed

theorem alike_refl {R : α → α → Prop} (refl : ∀ a, R a a) (x : Except ε α) : Alike R x x := by
  cases x with
  | ok a => exact .done (refl a)
  | error e => exact .failed

theorem Alike.trans {R : α → α → Prop} {x y z : Except ε α} (trans : ∀ a b c, R a b → R b c → R a c)
    (first : Alike R x y) (second : Alike R y z) : Alike R x z := by
  cases first with
  | done related =>
    cases second with
    | done also => exact .done (trans _ _ _ related also)
  | failed =>
    cases second with
    | failed => exact .failed

theorem Alike.exists_iff {R : α → β → Prop} {x : Except ε α} {y : Except δ β} (alike : Alike R x y) :
    (∃ a, x = .ok a) ↔ ∃ b, y = .ok b := by
  cases alike <;> simp

theorem Alike.of_ok {R : α → β → Prop} {a : α} {b : β}
    (alike : Alike R (.ok a : Except ε α) (.ok b : Except δ β)) : R a b := by
  cases alike with
  | done related => exact related

/-- What the step makes of its inputs in another order is the same in another order. -/
def Orderless (step : List α → Except ε (List β)) : Prop :=
  ∀ xs ys : List α, xs.Perm ys → Alike List.Perm (step xs) (step ys)

theorem orderless_filterMapM (f : α → Except ε (Option β)) : Orderless (List.filterMapM f) := by
  intro xs ys same
  induction same with
  | nil => exact alike_refl (fun _ => .refl _) _
  | cons x _ ih =>
    simp only [List.filterMapM_cons]
    cases f x with
    | error e => exact .failed
    | ok chosen =>
      cases chosen with
      | none => exact ih
      | some y => exact ih.bind fun _ _ _ perm => .done (perm.cons y)
  | swap x y rest =>
    simp only [List.filterMapM_cons]
    cases f x with
    | error e =>
      cases f y with
      | error => exact .failed
      | ok chosen => cases chosen <;> exact .failed
    | ok first =>
      cases f y with
      | error e => cases first <;> exact .failed
      | ok second =>
        -- the rest is asked after either of them
        cases rest.filterMapM f with
        | error e => cases first <;> cases second <;> exact .failed
        | ok others =>
          cases first with
          | none => cases second <;> exact alike_refl (fun _ => .refl _) _
          | some a =>
            cases second with
            | none => exact alike_refl (fun _ => .refl _) _
            | some b => exact .done (.swap a b others)
  | trans _ _ first second => exact first.trans (fun _ _ _ => .trans) second

theorem mapM_eq_filterMapM (f : α → Except ε β) (xs : List α) :
    xs.mapM f = xs.filterMapM fun x => f x >>= fun y => .ok (some y) := by
  induction xs with
  | nil => rfl
  | cons x xs ih =>
    rw [List.mapM_cons, List.filterMapM_cons, ih]
    cases f x <;> rfl

theorem orderless_mapM (f : α → Except ε β) : Orderless (List.mapM f) := by
  intro xs ys same
  rw [mapM_eq_filterMapM, mapM_eq_filterMapM]
  exact orderless_filterMapM _ xs ys same

/-! Tables with the same last record of every key differ at most in order, and a join finds the same in
them. -/

theorem perm_lastPerKey {records others : List Record} (same : ∀ key, lastOf records key = lastOf others key) :
    (lastPerKey records).Perm (lastPerKey others) := by
  apply (List.perm_ext_iff_of_nodup (.of_map _ (nodup_lastPerKey _)) (.of_map _ (nodup_lastPerKey _))).mpr
  intro record
  rw [mem_lastPerKey_iff, mem_lastPerKey_iff, same]

theorem find_key_perm {table other : List Record} (unique : (table.map (·.key)).Nodup)
    (same : table.Perm other) (key : String) :
    table.find? (fun record => record.key = key) = other.find? fun record => record.key = key := by
  have alsoUnique : (other.map (·.key)).Nodup := (same.map _).nodup_iff.mp unique
  apply Option.ext
  intro record
  rw [find_key_eq_some_iff unique, find_key_eq_some_iff alsoUnique, same.mem_iff]

/-- The last of the rows whose value in the key column has the text; none where no row has it. -/
def Row.lastOf (schema : Schema) (key : String) (rows : List Row) (text : String) : Option Row :=
  rows.reverse.find? fun row => row.textOf schema key = text

theorem lastOf_keyedBy (schema : Schema) (key : String) (rows : List Row) (text : String) :
    StreamPlan.lastOf (rows.map (Row.keyedBy schema key)) text =
      (Row.lastOf schema key rows text).map (Row.keyedBy schema key) := by
  unfold StreamPlan.lastOf Row.lastOf
  rw [← List.map_reverse, List.find?_map]
  rfl

/-- The rows of a source's topic have the same last row of every key in both, so also the same keys, and
each row has a value for every column; all other topics are the same. -/
structure SourceData.SameTable (origin : Source) (one two : SourceData) : Prop where
  fits : ∀ row ∈ one.rows origin.topic, row.width = origin.schema.size
  alsoFits : ∀ row ∈ two.rows origin.topic, row.width = origin.schema.size
  latest : ∀ text, Row.lastOf origin.schema origin.key.name (one.rows origin.topic) text =
    Row.lastOf origin.schema origin.key.name (two.rows origin.topic) text
  others : ∀ topic, topic ≠ origin.topic → one.rows topic = two.rows topic

namespace Plan
open Run

theorem alike_evaluated {R : α → β → Prop} {x : Except EvalError α} {y : Except EvalError β}
    (alike : Alike R x y) : Alike R (evaluated x) (evaluated y) := by
  cases alike with
  | done related => exact .done related
  | failed => exact .failed

theorem orderless_kept (schema : Schema) (predicate : Expr) : Orderless (kept schema predicate) :=
  fun xs ys same => alike_evaluated (orderless_filterMapM _ xs ys same)

theorem orderless_mapped (schema : Schema) (expressions : List Expr) : Orderless (mapped schema expressions) :=
  fun xs ys same => alike_evaluated (orderless_mapM _ xs ys same)

theorem arrive_of_widths {schema : Schema} {name : String} {rows : List Row}
    (fits : ∀ row ∈ rows, row.width = schema.size) :
    rows.mapM (Row.arrive schema name) = .ok (rows.map (Row.keyedBy schema name)) := by
  rw [mapM_eq_ok, List.forall₂_map_right_iff, List.forall₂_same]
  intro row member
  exact arrive_eq_ok.mpr ⟨fits row member, rfl⟩

theorem joined_perm (left : Plan) {right : Plan} {spec : Join} (streamed : List Record)
    {stored others : List Record} (unique : (stored.map (·.key)).Nodup) (same : stored.Perm others) :
    joined left right spec streamed stored = joined left right spec streamed others := by
  unfold joined paired
  simp only [find_key_perm unique same]

variable {plan : Plan} {origin leading : Source} {rest : List Source} {one two : SourceData}

/-- Under filters and projections a table has the same records, perhaps in another order. -/
theorem tabular_alike (tabular : plan.Tabular)
    (alone : ∀ other ∈ plan.origins, other.topic = origin.topic → other = origin)
    (same : SourceData.SameTable origin one two) :
    Alike List.Perm (plan.records one) (plan.records two) := by
  induction tabular with
  | @source id source table =>
    unfold records
    by_cases here : source.topic = origin.topic
    · obtain rfl := alone source List.mem_cons_self here
      simp only [table, arrive_of_widths same.fits, arrive_of_widths same.alsoFits, ok_bind, pure_eq_ok]
      refine .done (perm_lastPerKey fun key => ?_)
      rw [lastOf_keyedBy, lastOf_keyedBy, same.latest]
    · rw [same.others source.topic here]
      exact alike_refl (fun _ => .refl _) _
  | filter _ ih => exact (ih alone).bind fun _ _ _ => orderless_kept _ _ _ _
  | project _ ih => exact (ih alone).bind fun _ _ _ => orderless_mapped _ _ _ _

/-- Down the left inputs the records are the same and in the same order: the table is never among them. -/
theorem records_alike (joins : ∀ id left right spec, Plan.join id left right spec ∈ plan.nodes → right.Tabular)
    (leads : plan.origins = leading :: rest) (stream : leading.mode = .stream) (table : origin.mode = .table)
    (alone : ∀ other ∈ plan.origins, other.topic = origin.topic → other = origin)
    (same : SourceData.SameTable origin one two) :
    Alike Eq (plan.records one) (plan.records two) := by
  induction plan generalizing rest with
  | source id source =>
    cases leads
    have apart : leading.topic ≠ origin.topic := by
      intro here
      rw [alone leading List.mem_cons_self here, table] at stream
      cases stream
    unfold records
    rw [same.others leading.topic apart]
    exact alike_refl (fun _ => rfl) _
  | filter id input predicate ih =>
    have below := ih (fun id left right spec member => joins id left right spec (List.mem_cons_of_mem _ member))
      leads alone
    exact below.bind fun _ _ _ equal => equal ▸ alike_refl (fun _ => rfl) _
  | project id input schema expressions ih =>
    have below := ih (fun id left right spec member => joins id left right spec (List.mem_cons_of_mem _ member))
      leads alone
    exact below.bind fun _ _ _ equal => equal ▸ alike_refl (fun _ => rfl) _
  | join id left right spec leftIh rightIh =>
    obtain ⟨head, others, origins⟩ := left.exists_origin
    rw [Plan.origins, origins, List.cons_append, List.cons.injEq] at leads
    obtain ⟨rfl, _⟩ := leads
    have tabular := joins id left right spec List.mem_cons_self
    have streamed := leftIh
      (fun id l r s member => joins id l r s (List.mem_cons_of_mem _ (List.mem_append_left _ member)))
      origins fun other member => alone other (List.mem_append_left _ member)
    have stored := tabular_alike tabular
      (fun other member => alone other (List.mem_append_right _ member)) same
    unfold records
    refine streamed.bind fun before _ _ equal => ?_
    subst equal
    refine stored.bind fun table other done perm => ?_
    exact .done (joined_perm left before (nodup_records tabular done) perm)
  | output id input target ih =>
    exact ih (fun id left right spec member => joins id left right spec (List.mem_cons_of_mem _ member))
      leads alone

variable {config : Config} {compiled : Compiled}

/-- A plan that leads with a stream makes the same of tables with the same last row of each key, if only the
table's source reads their topic: either both runs fail, or both end with the same records in the sinks and
the same lines on the console. -/
theorem run_latestRows (built : plan.Built) (accepted : plan.compile config = .ok compiled)
    (leads : plan.origins = leading :: rest) (stream : leading.mode = .stream) (table : origin.mode = .table)
    (alone : ∀ other ∈ plan.origins, other.topic = origin.topic → other = origin)
    (same : SourceData.SameTable origin one two) (limit : Option Nat) :
    ((∃ outcome, compiled.topology.run one limit = .ok outcome) ↔
      ∃ outcome, compiled.topology.run two limit = .ok outcome) ∧
    ∀ first second, compiled.topology.run one limit = .ok first →
      compiled.topology.run two limit = .ok second →
        first.sinks = second.sinks ∧ first.console = second.console := by
  obtain ⟨supported, _⟩ := compile_eq_ok built.checked accepted
  have alike := records_alike (fun id left right spec member => (supported.joins id left right spec member).2)
    leads stream table alone same
  constructor
  · simp only [run_iff_records built accepted]
    exact alike.exists_iff
  · intro first second ran alsoRan
    obtain ⟨records, done⟩ := (run_iff_records built accepted one limit).mp ⟨first, ran⟩
    obtain ⟨others, alsoDone⟩ := (run_iff_records built accepted two limit).mp ⟨second, alsoRan⟩
    rw [done, alsoDone] at alike
    obtain rfl := alike.of_ok
    obtain ⟨sinks, console⟩ := delivered_of_run built accepted ran done
    obtain ⟨alsoSinks, alsoConsole⟩ := delivered_of_run built accepted alsoRan alsoDone
    exact ⟨sinks.trans alsoSinks.symm, console.trans alsoConsole.symm⟩

/-- Ada moves from York to Bath after Bob has come to Rome. -/
def movingRows : SourceData :=
  ⟨[("orders", [⟨[.int32 1, .text "ada", .bool true]⟩, ⟨[.int32 2, .text "bob", .bool true]⟩]),
    ("customers", [⟨[.text "ada", .text "york"]⟩, ⟨[.text "bob", .text "rome"]⟩,
      ⟨[.text "ada", .text "bath"]⟩])]⟩

/-- Where they live in the end, Bob first. -/
def settledRows : SourceData :=
  ⟨[("orders", [⟨[.int32 1, .text "ada", .bool true]⟩, ⟨[.int32 2, .text "bob", .bool true]⟩]),
    ("customers", [⟨[.text "bob", .text "rome"]⟩, ⟨[.text "ada", .text "bath"]⟩])]⟩

/-- What is shipped of either. -/
def settled : List Record :=
  [⟨"ada", ⟨[.int32 1, .text "ada", .text "bath"]⟩⟩, ⟨"bob", ⟨[.int32 2, .text "bob", .text "rome"]⟩⟩]

theorem shipments_latest : shipments.Built ∧ ∃ compiled, shipments.compile .standard = .ok compiled ∧
    SourceData.SameTable ⟨"customers", customers.schema, ⟨"name", .utf8, false⟩, .table, .json⟩
      movingRows settledRows ∧
    ∃ first second, compiled.topology.run movingRows none = .ok first ∧
      compiled.topology.run settledRows none = .ok second ∧ first.sinks = [("shipments", settled)] ∧
      first.sinks = second.sinks := by
  have accepted : ∃ compiled, shipments.compile .standard = .ok compiled := ⟨_, by rfl⟩
  obtain ⟨compiled, accepted⟩ := accepted
  have same : SourceData.SameTable ⟨"customers", customers.schema, ⟨"name", .utf8, false⟩, .table, .json⟩
      movingRows settledRows := by
    refine ⟨by decide, by decide, ?_, ?_⟩
    · intro text
      have named (name city : String) :
          Row.textOf customers.schema "name" ⟨[.text name, .text city]⟩ = name := rfl
      have before : movingRows.rows "customers" = [⟨[.text "ada", .text "york"]⟩,
        ⟨[.text "bob", .text "rome"]⟩, ⟨[.text "ada", .text "bath"]⟩] := rfl
      have after : settledRows.rows "customers" = [⟨[.text "bob", .text "rome"]⟩,
        ⟨[.text "ada", .text "bath"]⟩] := rfl
      by_cases ada : "ada" = text <;> by_cases bob : "bob" = text <;>
        simp [Row.lastOf, before, after, named, ada, bob]
    · intro topic differs
      simp only [SourceData.rows, SourceData.find, movingRows, settledRows, lookup_cons_eq_ite, if_neg differs]
  have alone : ∀ other ∈ shipments.origins, other.topic = "customers" →
      other = ⟨"customers", customers.schema, ⟨"name", .utf8, false⟩, .table, .json⟩ := by decide
  obtain ⟨runs, shown⟩ := run_latestRows shipments_built accepted rfl rfl rfl alone same none
  have done : shipments.records movingRows = .ok settled := by rfl
  obtain ⟨first, ran, delivered⟩ := run_of_records shipments_built accepted none done
  obtain ⟨second, alsoRan⟩ := runs.mp ⟨first, ran⟩
  exact ⟨shipments_built, compiled, accepted, same, first, second, ran, alsoRan, congrArg Prod.fst delivered,
    (shown first second ran alsoRan).1⟩

end Plan
end StreamPlan
