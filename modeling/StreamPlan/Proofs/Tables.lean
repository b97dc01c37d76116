import Mathlib.Data.List.Induction
import Mathlib.Data.List.Nodup
import StreamPlan.Run.Record

/-! A table keeps the last record of each key, in the order in which the keys first came, and has no
key twice. -/
namespace StreamPlan

def lastOf (records : List Record) (key : String) : Option Record :=
  records.reverse.find? fun record => record.key = key

def lastPerKey (records : List Record) : List Record :=
  (records.map (·.key)).eraseDups.filterMap (lastOf records)

theorem keys_upsert (table : List Record) (record : Record) :
    (upsert table record).map (·.key) =
      if record.key ∈ table.map (·.key) then table.map (·.key)
      else table.map (·.key) ++ [record.key] := by
  induction table with
  | nil => simp [upsert]
  | cons first rest ih =>
    unfold upsert
    by_cases same : first.key = record.key
    · simp [same]
    · have other : ¬ record.key = first.key := fun h => same h.symm
      simp only [same, other, if_false, List.map_cons, List.mem_cons, false_or, ih]
      split <;> simp

theorem find_upsert (table : List Record) (record : Record) (key : String) :
    (upsert table record).find? (fun other => other.key = key) =
      if record.key = key then some record else table.find? fun other => other.key = key := by
  induction table with
  | nil => by_cases asked : record.key = key <;> simp [upsert, asked]
  | cons first rest ih =>
    unfold upsert
    by_cases same : first.key = record.key
    · by_cases asked : record.key = key <;> simp [same, asked]
    · -- the record in front is not the one replaced, so it is still found first
      rw [if_neg same, List.find?_cons, List.find?_cons, ih]
      by_cases asked : first.key = key
      · have other : ¬ record.key = key := fun h => same (asked.trans h.symm)
        simp [asked, other]
      · simp [asked]

theorem latestPerKey_concat (records : List Record) (record : Record) :
    latestPerKey (records ++ [record]) = upsert (latestPerKey records) record := by
  simp [latestPerKey]

theorem eraseDups_concat (keys : List String) (key : String) :
    (keys ++ [key]).eraseDups = if key ∈ keys then keys.eraseDups else keys.eraseDups ++ [key] := by
  rw [List.eraseDups_append]
  by_cases seen : key ∈ keys <;> simp [seen, List.cons_removeAll, List.eraseDups_cons]

theorem nodup_eraseDups (keys : List String) : keys.eraseDups.Nodup := by
  induction keys using List.reverseRecOn with
  | nil => simp
  | append_singleton keys key ih =>
    rw [eraseDups_concat]
    split
    · exact ih
    · rename_i fresh
      rw [List.nodup_append]
      refine ⟨ih, List.nodup_singleton key, ?_⟩
      rintro a member b single rfl
      cases List.mem_singleton.mp single
      exact fresh (List.mem_eraseDups.mp member)

theorem keys_latestPerKey (records : List Record) :
    (latestPerKey records).map (·.key) = (records.map (·.key)).eraseDups := by
  induction records using List.reverseRecOn with
  | nil => rfl
  | append_singleton records record ih =>
    rw [latestPerKey_concat, keys_upsert, ih, List.map_append, List.map_singleton, eraseDups_concat]
    simp only [List.mem_eraseDups]

theorem find_latestPerKey (records : List Record) (key : String) :
    (latestPerKey records).find? (fun record => record.key = key) = lastOf records key := by
  induction records using List.reverseRecOn with
  | nil => rfl
  | append_singleton records record ih =>
    rw [latestPerKey_concat, find_upsert, ih]
    by_cases asked : record.key = key <;> simp [lastOf, asked]

/-- Where no key comes twice, looking up every key gives the records back. -/
theorem filterMap_find_keys {table : List Record} (unique : (table.map (·.key)).Nodup) :
    (table.map (·.key)).filterMap (fun key => table.find? fun record => record.key = key) = table := by
  induction table with
  | nil => rfl
  | cons first rest ih =>
    obtain ⟨fresh, unique⟩ := List.nodup_cons.mp unique
    have passed : (rest.map (·.key)).filterMap
        (fun key => (first :: rest).find? fun record => record.key = key) =
        (rest.map (·.key)).filterMap (fun key => rest.find? fun record => record.key = key) := by
      apply List.filterMap_congr
      intro key member
      have other : ¬ first.key = key := by
        rintro rfl
        exact fresh member
      simp [other]
    simp [passed, ih unique]

theorem nodup_latestPerKey (records : List Record) : ((latestPerKey records).map (·.key)).Nodup := by
  rw [keys_latestPerKey]
  exact nodup_eraseDups _

theorem latestPerKey_eq_lastPerKey (records : List Record) :
    latestPerKey records = lastPerKey records := by
  have given := filterMap_find_keys (nodup_latestPerKey records)
  rw [keys_latestPerKey] at given
  rw [← given, lastPerKey]
  congr 1
  funext key
  exact find_latestPerKey records key

/-- In a table the only record of a key is the last one. -/
theorem lastOf_eq_find {table : List Record} (unique : (table.map (·.key)).Nodup) (key : String) :
    lastOf table key = table.find? fun record => record.key = key := by
  induction table with
  | nil => rfl
  | cons first rest ih =>
    obtain ⟨fresh, unique⟩ := List.nodup_cons.mp unique
    have later := ih unique
    unfold lastOf at later ⊢
    rw [List.reverse_cons, List.find?_append, later]
    by_cases asked : first.key = key
    · have absent : rest.find? (fun record => record.key = key) = none := by
        apply List.find?_eq_none.mpr
        intro record member same
        exact fresh (List.mem_map.mpr ⟨record, member, (of_decide_eq_true same).trans asked.symm⟩)
      simp [absent, asked]
    · simp [asked]

theorem rowOfKey_eq_find {table : List Record} (unique : (table.map (·.key)).Nodup) (key : String) :
    rowOfKey table key = (table.find? fun record => record.key = key).map (·.row) := by
  rw [← lastOf_eq_find unique key]
  rfl

/-- In a table a record is found by its key, and nothing else is. -/
theorem find_key_eq_some_iff {table : List Record} (unique : (table.map (·.key)).Nodup) {key : String}
    {record : Record} :
    table.find? (fun record => record.key = key) = some record ↔ record ∈ table ∧ record.key = key := by
  constructor
  · intro found
    exact ⟨List.mem_of_find?_eq_some found, by simpa using List.find?_some found⟩
  · rintro ⟨member, rfl⟩
    cases found : table.find? fun other => other.key = record.key with
    | none => simpa using List.find?_eq_none.mp found record member
    | some other =>
      have same : other.key = record.key := by simpa using List.find?_some found
      rw [List.inj_on_of_nodup_map unique (List.mem_of_find?_eq_some found) member same]

theorem rowOfKey_of_mem {table : List Record} (unique : (table.map (·.key)).Nodup) {record : Record}
    (member : record ∈ table) : rowOfKey table record.key = some record.row := by
  rw [rowOfKey_eq_find unique, (find_key_eq_some_iff unique).mpr ⟨member, rfl⟩]
  rfl

theorem mem_lastPerKey_iff {records : List Record} {record : Record} :
    record ∈ lastPerKey records ↔ lastOf records record.key = some record := by
  have found : (latestPerKey records).find? (fun other => other.key = record.key) = some record ↔ _ :=
    find_key_eq_some_iff (nodup_latestPerKey records)
  rw [find_latestPerKey, latestPerKey_eq_lastPerKey] at found
  rw [found]
  exact (and_iff_left rfl).symm

theorem nodup_lastPerKey (records : List Record) : ((lastPerKey records).map (·.key)).Nodup := by
  rw [← latestPerKey_eq_lastPerKey]
  exact nodup_latestPerKey records

theorem mem_of_mem_lastPerKey {records : List Record} {record : Record}
    (member : record ∈ lastPerKey records) : record ∈ records := by
  obtain ⟨_, _, found⟩ := List.mem_filterMap.mp member
  exact List.mem_reverse.mp (List.mem_of_find?_eq_some found)

end StreamPlan
