import StreamPlan.Proofs.Calls
import StreamPlan.Proofs.RecordKeys

/-! Stages that are tables have one record a key, whoever recorded them. A table source keeps the last
row of each key, and the stages that go on being tables neither make a key nor bring one in twice. So a
join finds every record of the table it looks things up in. -/
namespace StreamPlan

namespace Run

variable {t : Topology} {data : SourceData} {results : List (List Record)} {stage : Stage}
  {made : List Record}

theorem nodup_source {topic : String} (table : stage.kind = .table)
    (done : sourceRecords data stage topic = .ok made) : (made.map (·.key)).Nodup := by
  obtain ⟨arrived, _, kept⟩ := bind_eq_ok.mp done
  rw [if_pos table] at kept
  cases kept
  exact nodup_latestPerKey arrived

/-- A table stage has no key twice if the table stages it may read have none twice. -/
theorem nodup_stage (numbered : t.Numbered) (stands : t.Stands results.length stage)
    (before : ∀ (j : Nat) (input : Stage) (given : List Record), t.stages[j]? = some input →
      results[j]? = some given → input.kind = .table → (given.map (·.key)).Nodup)
    (table : stage.kind = .table) (done : stageRecords t data results stage = .ok made) :
    (made.map (·.key)).Nodup := by
  have inherits := stands.inherits
  unfold Topology.Inherits at inherits
  cases op : stage.op with
  | streamSource | selectKey | leftJoin =>
    -- these are streams, whatever they read
    rw [op] at inherits
    simp [table] at inherits
  | tableSource topic codec store =>
    rw [stageRecords_source (by rw [op]; rfl)] at done
    exact nodup_source table done
  | filter predicate =>
    rw [op] at inherits
    obtain ⟨input, found, _, _, kind⟩ := inherits
    obtain ⟨given, reads, j, here, there⟩ := reads_of_earlier numbered found
    have unique := before j input given here there (kind ▸ table)
    rw [stageRecords_filter op reads, filter_eq_kept, blame_eq_ok] at done
    exact unique.sublist ((Plan.sublist_of_kept done).map _)
  | project expressions =>
    rw [op] at inherits
    obtain ⟨input, found, kind⟩ := inherits
    obtain ⟨given, reads, j, here, there⟩ := reads_of_earlier numbered found
    have unique := before j input given here there (kind ▸ table)
    rw [keys_of_project op reads done]
    exact unique
  | toTopic | print =>
    rw [op] at inherits
    obtain ⟨input, found, _, _, kind⟩ := inherits
    obtain ⟨given, reads, j, here, there⟩ := reads_of_earlier numbered found
    have unique := before j input given here there (kind ▸ table)
    rw [stageRecords_terminal (by rw [op]; rfl) reads] at done
    cases done
    exact unique

theorem nodup_of_trace (standing : ∀ k stage, t.stages[k]? = some stage → t.Stands k stage)
    (ran : trace t data = .ok results) {k : Nat} (here : t.stages[k]? = some stage)
    (given : results[k]? = some made) (table : stage.kind = .table) : (made.map (·.key)).Nodup := by
  have whole : resume t data [] (t.stages.take t.stages.length) = .ok results := by
    rw [List.take_length]
    exact ran
  refine records_induction (P := fun stage made => stage.kind = .table → (made.map (·.key)).Nodup) whole
    ?_ here given table
  intro k stage made here given done before table
  have bound := (List.getElem?_eq_some_iff.mp given).1
  have length : (results.take k).length = k := by
    rw [List.length_take]
    omega
  exact nodup_stage (Topology.numbered_of_stands standing) (length.symm ▸ standing k stage here) before table done

end Run

namespace Topology
open Run

/-- Whatever is called: in a finished run a stage that is a table has no key twice, and the table a join
looks its keys up in gives back each of its records under the record's key. -/
theorem table_nodup_keys (calls : List Call) {data : SourceData} {limit : Option Nat} {outcome : Outcome}
    (ran : (recorded calls).run data limit = .ok outcome) :
    ∃ results, trace (recorded calls) data = .ok results ∧
      (∀ (k : Nat) (stage : Stage) (records : List Record), (recorded calls).stages[k]? = some stage →
        results[k]? = some records → stage.kind = .table → (records.map (·.key)).Nodup) ∧
      ∀ (k : Nat) (stage : Stage) (codec : Codec), (recorded calls).stages[k]? = some stage →
        stage.op = .leftJoin codec → ∃ right stored,
          Reads (recorded calls) (results.take k) stage 1 right stored ∧
            (stored.map (·.key)).Nodup ∧ ∀ record ∈ stored, rowOfKey stored record.key = some record.row := by
  obtain ⟨results, traced, _⟩ := bind_eq_ok.mp ran
  have standing := stands_foldl (t := .empty) calls (fun k stage here => by cases here)
  refine ⟨results, traced, fun k stage records here given => nodup_of_trace standing traced here given, ?_⟩
  intro k stage codec here op
  have bound : k < results.length := by
    rw [length_trace traced]
    exact (List.getElem?_eq_some_iff.mp here).1
  have length : (results.take k).length = k := by
    rw [List.length_take]
    omega
  have inherits := (standing k stage here).inherits
  rw [Inherits, op] at inherits
  obtain ⟨_, _, left, right, _, found, table⟩ := inherits
  rw [← length] at found
  obtain ⟨stored, reads, j, there, given⟩ := reads_of_earlier (numbered_of_stands standing) found
  have once := nodup_of_trace standing traced there (getElem?_of_take given) table
  exact ⟨right, stored, reads, once, fun record member => rowOfKey_of_mem once member⟩

/-- Customers by name, of whom only the city is kept, looked up by orders. -/
def lookups : List Call :=
  let cities : Schema := ⟨[⟨"city", .utf8, true⟩]⟩
  [.table "customers" .json "customers-store" Plan.customers.schema "name",
    .project ⟨0⟩ [.column "city"] cities "name",
    .stream "orders" .json Plan.orders.schema "customer",
    .leftJoin ⟨2⟩ ⟨1⟩ (Plan.orders.schema.qualified "o" ++ cities.qualified "c") "o.customer" .json]

/-- Of two rows for one customer the later city is the one that orders find, the name being gone from
the row it is filed under. -/
theorem lookups_unique : ∃ outcome results, (recorded lookups).run Plan.shipmentRows none = .ok outcome ∧
    trace (recorded lookups) Plan.shipmentRows = .ok results ∧
      results[1]? = some [⟨"ada", ⟨[.text "bath"]⟩⟩] ∧
      (∀ (k : Nat) (stage : Stage) (records : List Record), (recorded lookups).stages[k]? = some stage →
        results[k]? = some records → stage.kind = .table → (records.map (·.key)).Nodup) ∧
      ∃ stage right stored, (recorded lookups).stages[3]? = some stage ∧
        Reads (recorded lookups) (results.take 3) stage 1 right stored ∧
          ∀ record ∈ stored, rowOfKey stored record.key = some record.row := by
  have traced : ∃ results, trace (recorded lookups) Plan.shipmentRows = .ok results ∧
      results[1]? = some [⟨"ada", ⟨[.text "bath"]⟩⟩] := ⟨_, by rfl, by rfl⟩
  obtain ⟨results, traced, cities⟩ := traced
  have ran : ∃ outcome, (recorded lookups).run Plan.shipmentRows none = .ok outcome :=
    ⟨_, bind_eq_ok.mpr ⟨results, traced, rfl⟩⟩
  obtain ⟨outcome, ran⟩ := ran
  have join : ∃ stage, (recorded lookups).stages[3]? = some stage ∧ stage.op = .leftJoin .json :=
    ⟨_, by rfl, by rfl⟩
  obtain ⟨stage, here, op⟩ := join
  obtain ⟨others, again, unique, found⟩ := table_nodup_keys lookups ran
  obtain rfl : results = others := Except.ok.inj (traced.symm.trans again)
  obtain ⟨right, stored, reads, _, each⟩ := found 3 stage .json here op
  exact ⟨outcome, results, ran, traced, cities, unique, stage, right, stored, here, reads, each⟩

end Topology
end StreamPlan
