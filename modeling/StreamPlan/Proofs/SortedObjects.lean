import Mathlib.Data.List.Nodup
import Mathlib.Data.String.Basic
import StreamPlan.Json.Value

/-! Objects sorted by name. A sorted object has each of its names once and in ascending order, and of what
was written it has every member whose name is given once. -/
namespace StreamPlan.Json

variable {name : String} {value : Json} {member : String × Json} {fields done members : List (String × Json)}

/-- Members in ascending order of their names, each name once. -/
def Ascending (members : List (String × Json)) : Prop := members.Pairwise fun a b => a.1 < b.1

theorem mem_putField (inside : member ∈ putField name value members) :
    member = (name, value) ∨ member ∈ members := by
  induction members with
  | nil => exact .inl (List.mem_singleton.mp inside)
  | cons first rest ih =>
    unfold putField at inside
    split_ifs at inside
    · exact (List.mem_cons.mp inside).imp_right (List.mem_cons_of_mem _)
    · exact List.mem_cons.mp inside
    · rcases List.mem_cons.mp inside with rfl | later
      · exact .inr List.mem_cons_self
      · exact (ih later).imp_right (List.mem_cons_of_mem _)

theorem putField_self (name : String) (value : Json) (members : List (String × Json)) :
    (name, value) ∈ putField name value members := by
  induction members with
  | nil => exact List.mem_singleton_self _
  | cons first rest ih =>
    unfold putField
    split_ifs
    · exact List.mem_cons_self
    · exact List.mem_cons_self
    · exact List.mem_cons_of_mem _ ih

/-- A field that is put in takes the place of none of another name. -/
theorem putField_kept (inside : member ∈ members) (apart : member.1 ≠ name) :
    member ∈ putField name value members := by
  induction members with
  | nil => cases inside
  | cons first rest ih =>
    unfold putField
    split_ifs with same before
    · rcases List.mem_cons.mp inside with rfl | later
      · exact absurd same.symm apart
      · exact List.mem_cons_of_mem _ later
    · exact List.mem_cons_of_mem _ inside
    · rcases List.mem_cons.mp inside with rfl | later
      · exact List.mem_cons_self
      · exact List.mem_cons_of_mem _ (ih later)

theorem ascending_putField (ascending : Ascending members) (name : String) (value : Json) :
    Ascending (putField name value members) := by
  induction members with
  | nil => exact List.pairwise_singleton _ _
  | cons first rest ih =>
    obtain ⟨before, later⟩ := List.pairwise_cons.mp ascending
    unfold putField
    split_ifs with same earlier
    · exact List.pairwise_cons.mpr ⟨fun member inside => same ▸ before member inside, later⟩
    · refine List.pairwise_cons.mpr ⟨fun member inside => ?_, ascending⟩
      rcases List.mem_cons.mp inside with rfl | inside
      · exact earlier
      · exact earlier.trans (before member inside)
    · refine List.pairwise_cons.mpr ⟨fun member inside => ?_, ih later⟩
      rcases mem_putField inside with rfl | inside
      · exact lt_of_le_of_ne (not_lt.mp earlier) (Ne.symm same)
      · exact before member inside

/-- One field after another put into an object. -/
def putFields (fields done : List (String × Json)) : List (String × Json) :=
  fields.foldl (fun done field => putField field.1 field.2 done) done

theorem ascending_putFields (ascending : Ascending done) (fields : List (String × Json)) :
    Ascending (putFields fields done) := by
  induction fields generalizing done with
  | nil => exact ascending
  | cons field fields ih => exact ih (ascending_putField ascending _ _)

theorem mem_putFields (inside : member ∈ putFields fields done) : member ∈ fields ∨ member ∈ done := by
  induction fields generalizing done with
  | nil => exact .inr inside
  | cons field fields ih =>
    rcases ih inside with later | put
    · exact .inl (List.mem_cons_of_mem _ later)
    · rcases mem_putField put with rfl | before
      · exact .inl List.mem_cons_self
      · exact .inr before

theorem putFields_kept (inside : member ∈ fields ∨ member ∈ done)
    (only : ∀ other ∈ fields, other.1 = member.1 → other = member) : member ∈ putFields fields done := by
  induction fields generalizing done with
  | nil => exact inside.resolve_left List.not_mem_nil
  | cons field fields ih =>
    refine ih ?_ fun other later => only other (List.mem_cons_of_mem _ later)
    by_cases same : field.1 = member.1
    · rw [← only field List.mem_cons_self same]
      exact .inr (putField_self _ _ _)
    · rcases inside with inside | before
      · rcases List.mem_cons.mp inside with rfl | later
        · exact absurd rfl same
        · exact .inl later
      · exact .inr (putField_kept before (Ne.symm same))

theorem sortedItems_eq_map (items : List Json) : sortedItems items = items.map sorted := by
  induction items with
  | nil => rfl
  | cons item items ih => rw [sortedItems, ih, List.map_cons]

theorem sortedFields_eq_map (fields : List (String × Json)) :
    sortedFields fields = fields.map fun field => (field.1, field.2.sorted) := by
  induction fields with
  | nil => rfl
  | cons field fields ih => rw [sortedFields, ih, List.map_cons]

/-- The members that an object has once it is sorted. -/
def sortedMembers (fields : List (String × Json)) : List (String × Json) :=
  putFields (fields.map fun field => (field.1, field.2.sorted)) []

theorem sorted_object (fields : List (String × Json)) :
    (object fields).sorted = .object (sortedMembers fields) := by
  rw [sorted, sortedFields_eq_map]
  rfl

theorem sorted_list (items : List Json) : (list items).sorted = .list (items.map sorted) := by
  rw [sorted, sortedItems_eq_map]

theorem ascending_sortedMembers (fields : List (String × Json)) : Ascending (sortedMembers fields) :=
  ascending_putFields .nil _

theorem exists_of_mem_sortedMembers (inside : member ∈ sortedMembers fields) :
    ∃ field ∈ fields, (field.1, field.2.sorted) = member :=
  List.mem_map.mp ((mem_putFields inside).resolve_right List.not_mem_nil)

theorem mem_sortedMembers (inside : member ∈ fields)
    (only : ∀ other ∈ fields, other.1 = member.1 → other = member) :
    (member.1, member.2.sorted) ∈ sortedMembers fields := by
  refine putFields_kept (.inl (List.mem_map.mpr ⟨member, inside, rfl⟩)) fun other also same => ?_
  obtain ⟨field, given, rfl⟩ := List.mem_map.mp also
  rw [only field given same]

/-- Every object in it is in order. -/
def InOrder (j : Json) : Prop := ∃ written : Json, j = written.sorted

theorem InOrder.object (inOrder : InOrder (.object members)) :
    Ascending members ∧ ∀ member ∈ members, InOrder member.2 := by
  obtain ⟨written, same⟩ := inOrder
  cases written with
  | object fields =>
    rw [sorted_object, Json.object.injEq] at same
    subst same
    refine ⟨ascending_sortedMembers fields, fun member inside => ?_⟩
    obtain ⟨field, _, rfl⟩ := exists_of_mem_sortedMembers inside
    exact ⟨field.2, rfl⟩
  | null | bool | whole | real | single | text | list => cases same

theorem InOrder.list {items : List Json} (inOrder : InOrder (.list items)) : ∀ item ∈ items, InOrder item := by
  obtain ⟨written, same⟩ := inOrder
  cases written with
  | list others =>
    rw [sorted_list, Json.list.injEq] at same
    subst same
    intro item member
    obtain ⟨other, _, rfl⟩ := List.mem_map.mp member
    exact ⟨other, rfl⟩
  | null | bool | whole | real | single | text | object => cases same

theorem Ascending.unique (ascending : Ascending members) {i j : Json} (member : (name, i) ∈ members)
    (also : (name, j) ∈ members) : i = j := by
  have names : (members.map (·.1)).Nodup := List.pairwise_map.mpr (ascending.imp ne_of_lt)
  cases List.inj_on_of_nodup_map names member also rfl
  rfl

theorem Ascending.lookup_eq_some (ascending : Ascending members) (inside : (name, value) ∈ members) :
    members.lookup name = some value := by
  obtain ⟨before, after, rfl⟩ := List.append_of_mem inside
  refine List.lookup_eq_some_iff.mpr ⟨before, after, rfl, fun other early => ?_⟩
  have least := (List.pairwise_append.mp ascending).2.2 other early (name, value) List.mem_cons_self
  simpa using ne_of_gt least

end StreamPlan.Json
