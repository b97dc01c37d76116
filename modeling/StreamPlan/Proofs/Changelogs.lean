import Mathlib.Data.List.Sort
import Std.Data.HashMap.Lemmas
import StreamPlan.Proofs.Tables

/-! Changelogs and the tables they come to. A table is told by its changelog alone: which keys it has, in
which order and with which records. A table may be taken for the changelog that led to it, so more of the
changelog can be applied to it later, and places may be looked up in an index instead of searched for. -/
namespace StreamPlan

/-- One record for each key of the changelog, the last of the key, where the key came first. -/
structure Materializes (records table : List Record) : Prop where
  keys : ∀ record ∈ records, ∃ kept ∈ table, kept.key = record.key
  ordered : table.Pairwise fun a b =>
    (records.map (·.key)).idxOf a.key < (records.map (·.key)).idxOf b.key
  last : ∀ kept ∈ table, ∃ before after, records = before ++ kept :: after ∧
    ∀ later ∈ after, later.key ≠ kept.key

theorem lastOf_eq_some_iff {records : List Record} {key : String} {record : Record} :
    lastOf records key = some record ↔ record.key = key ∧
      ∃ before after, records = before ++ record :: after ∧ ∀ later ∈ after, later.key ≠ key := by
  unfold lastOf
  rw [List.find?_eq_some_iff_append]
  simp only [decide_eq_true_eq, Bool.not_eq_true', decide_eq_false_iff_not]
  refine and_congr_right fun _ => ⟨?_, ?_⟩
  · rintro ⟨after, before, reversed, later⟩
    refine ⟨before.reverse, after.reverse, ?_, fun record member => later record (List.mem_reverse.mp member)⟩
    rw [← List.reverse_reverse records, reversed]
    simp
  · rintro ⟨before, after, rfl, later⟩
    exact ⟨after.reverse, before.reverse, by simp, fun record member => later record (List.mem_reverse.mp member)⟩

theorem Materializes.mem_iff {records table : List Record} (materializes : Materializes records table)
    {record : Record} : record ∈ table ↔ lastOf records record.key = some record := by
  have taken : ∀ kept ∈ table, lastOf records kept.key = some kept :=
    fun kept member => lastOf_eq_some_iff.mpr ⟨rfl, materializes.last kept member⟩
  refine ⟨taken record, fun last => ?_⟩
  obtain ⟨_, before, after, split, _⟩ := lastOf_eq_some_iff.mp last
  obtain ⟨kept, member, same⟩ := materializes.keys record (split ▸ by simp)
  have also := taken kept member
  rw [same, last] at also
  cases also
  exact member

/-- There is one such table at most. -/
theorem Materializes.unique {records table other : List Record} (materializes : Materializes records table)
    (also : Materializes records other) : table = other := by
  have apart : ∀ {table : List Record}, Materializes records table → table.Nodup := fun given =>
    given.ordered.imp fun before same => by simp [same] at before
  have same : table.Perm other := by
    refine (List.perm_ext_iff_of_nodup (apart materializes) (apart also)).mpr fun record => ?_
    rw [materializes.mem_iff, also.mem_iff]
  exact same.eq_of_pairwise (fun a b _ _ before after => absurd before after.not_gt) materializes.ordered also.ordered

theorem ordered_eraseDups (keys : List String) :
    keys.eraseDups.Pairwise fun a b => keys.idxOf a < keys.idxOf b := by
  induction keys using List.reverseRecOn with
  | nil => simp
  | append_singleton keys key ih =>
    have kept : keys.eraseDups.Pairwise fun a b => (keys ++ [key]).idxOf a < (keys ++ [key]).idxOf b := by
      refine ih.imp_of_mem fun {a b} first second before => ?_
      rw [List.idxOf_append_of_mem (List.mem_eraseDups.mp first),
        List.idxOf_append_of_mem (List.mem_eraseDups.mp second)]
      exact before
    rw [eraseDups_concat]
    split
    · exact kept
    · rename_i fresh
      refine List.pairwise_append.mpr ⟨kept, List.pairwise_singleton _ _, fun a member b single => ?_⟩
      obtain rfl := List.mem_singleton.mp single
      have seen := List.mem_eraseDups.mp member
      rw [List.idxOf_append_of_mem seen, List.idxOf_append_of_notMem fresh]
      exact (List.idxOf_lt_length_of_mem seen).trans_le (Nat.le_add_right _ _)

theorem materializes_latestPerKey (records : List Record) : Materializes records (latestPerKey records) := by
  refine ⟨fun record member => ?_, ?_, fun kept member => ?_⟩
  · have key : record.key ∈ (latestPerKey records).map (·.key) := by
      rw [keys_latestPerKey, List.mem_eraseDups]
      exact List.mem_map_of_mem member
    exact List.mem_map.mp key
  · have keys := ordered_eraseDups (records.map (·.key))
    rw [← keys_latestPerKey, List.pairwise_map] at keys
    exact keys
  · rw [latestPerKey_eq_lastPerKey, mem_lastPerKey_iff] at member
    exact (lastOf_eq_some_iff.mp member).2

theorem idxOf?_concat {keys : List String} {new : String} (fresh : new ∉ keys) (key : String) :
    (keys ++ [new]).idxOf? key = if new == key then some keys.length else keys.idxOf? key := by
  rw [List.idxOf?, List.findIdx?_append]
  by_cases same : new = key
  · subst same
    have none : keys.findIdx? (· == new) = none := List.idxOf?_eq_none_iff.mpr fresh
    simp [none]
  · simp [same]

theorem upsert_eq_set (table : List Record) (record : Record) :
    upsert table record = match (table.map (·.key)).idxOf? record.key with
      | some place => table.set place record
      | none => table ++ [record] := by
  induction table with
  | nil => rfl
  | cons first rest ih =>
    rw [upsert, List.map_cons, List.idxOf?_cons]
    by_cases same : first.key = record.key
    · simp [same]
    · have other : ¬ (first.key == record.key) = true := by simpa using same
      rw [if_neg same, if_neg other, ih]
      cases (rest.map (·.key)).idxOf? record.key <;> rfl

/-- A table is its own changelog. -/
theorem latestPerKey_table {table : List Record} (unique : (table.map (·.key)).Nodup) :
    latestPerKey table = table := by
  induction table using List.reverseRecOn with
  | nil => rfl
  | append_singleton table record ih =>
    rw [List.map_append, List.map_singleton, List.nodup_append] at unique
    obtain ⟨unique, _, apart⟩ := unique
    have fresh : record.key ∉ table.map (·.key) := fun member => apart _ member _ (List.mem_singleton_self _) rfl
    rw [latestPerKey_concat, ih unique, upsert_eq_set, List.idxOf?_eq_none_iff.mpr fresh]

/-- What is applied to a table gives what it gives after the whole changelog of the table. -/
theorem latestPerKey_append (records more : List Record) :
    latestPerKey (records ++ more) = latestPerKey (latestPerKey records ++ more) := by
  have resumed : ∀ start, latestPerKey (start ++ more) = more.foldl upsert (latestPerKey start) :=
    fun _ => List.foldl_append
  rw [resumed, resumed, latestPerKey_table (nodup_latestPerKey records)]

/-- A table whose places are looked up by key. -/
structure Indexed where
  places : Std.HashMap String Nat
  table : List Record

namespace Indexed

def empty : Indexed := ⟨∅, []⟩

/-- Puts a record in the place its key is indexed under, or at the end under a new entry. -/
def file (indexed : Indexed) (record : Record) : Indexed :=
  match indexed.places[record.key]? with
  | some place => { indexed with table := indexed.table.set place record }
  | none => ⟨indexed.places.insert record.key indexed.table.length, indexed.table ++ [record]⟩

/-- Every key of the table is indexed under its place, and no other key is indexed. -/
def InStep (indexed : Indexed) : Prop :=
  ∀ key, indexed.places[key]? = (indexed.table.map (·.key)).idxOf? key

variable {indexed : Indexed}

theorem table_file (inStep : indexed.InStep) (record : Record) :
    (indexed.file record).table = upsert indexed.table record := by
  rw [upsert_eq_set, ← inStep record.key, file]
  cases indexed.places[record.key]? <;> rfl

theorem inStep_file (inStep : indexed.InStep) (record : Record) : (indexed.file record).InStep := by
  intro key
  rw [table_file inStep, keys_upsert, file, inStep record.key]
  cases place : (indexed.table.map (·.key)).idxOf? record.key with
  | some place =>
    have seen : record.key ∈ indexed.table.map (·.key) := by
      by_contra fresh
      rw [List.idxOf?_eq_none_iff.mpr fresh] at place
      cases place
    rw [if_pos seen]
    exact inStep key
  | none =>
    have fresh := List.idxOf?_eq_none_iff.mp place
    rw [if_neg fresh, idxOf?_concat fresh, List.length_map, Std.HashMap.getElem?_insert, inStep key]

theorem inStep_files (records : List Record) (inStep : indexed.InStep) :
    (records.foldl file indexed).InStep ∧
      (records.foldl file indexed).table = records.foldl upsert indexed.table := by
  induction records generalizing indexed with
  | nil => exact ⟨inStep, rfl⟩
  | cons record rest ih =>
    obtain ⟨kept, same⟩ := ih (inStep_file inStep record)
    exact ⟨kept, by rw [List.foldl_cons, same, table_file inStep, List.foldl_cons]⟩

end Indexed

/-- The table of a changelog is the one that `Materializes` tells. More records may be applied to it as
to the changelog itself, and it may be kept in step with an index of its places. -/
theorem changelog_materialized (records : List Record) :
    (∀ table, latestPerKey records = table ↔ Materializes records table) ∧
    (∀ more, latestPerKey (records ++ more) = latestPerKey (latestPerKey records ++ more)) ∧
    (records.foldl Indexed.file .empty).InStep ∧
    (records.foldl Indexed.file .empty).table = latestPerKey records := by
  have inStep : Indexed.empty.InStep := fun key => Std.HashMap.getElem?_empty
  refine ⟨fun table => ?_, latestPerKey_append records, Indexed.inStep_files records inStep⟩
  constructor
  · rintro rfl
    exact materializes_latestPerKey records
  · exact (materializes_latestPerKey records).unique

end StreamPlan
