import Mathlib.Data.List.Basic
import StreamPlan.Schema.Basic

/-! Columns found by name. A look-up depends on the name only through the column it finds: the
exact name of a found column finds that column again, in its own schema and, qualified, as a left
column of a joined one. Only where the names are distinct does each column's name find it. -/
namespace StreamPlan.Schema

/-- No two columns have names that differ in letter case at most. -/
def Distinct (schema : Schema) : Prop :=
  schema.fields.Pairwise fun field other => field.isNamed other.name = false

instance (schema : Schema) : Decidable schema.Distinct :=
  inferInstanceAs (Decidable (List.Pairwise _ _))

theorem find_eq_some_iff {schema : Schema} {name : String} {field : Field} :
    schema.find name = some field ↔
      ∃ position, schema.index name = some position ∧ schema.fields[position]? = some field := by
  simp [find, Option.bind_eq_some_iff]

theorem index_of_exact {schema : Schema} {name : String} {position : Nat}
    (found : schema.exactIndex name = some position) : schema.index name = some position := by
  rw [index, found, Option.some_or]

theorem exactIndex_eq_some {schema : Schema} {name : String} {position : Nat}
    (found : schema.exactIndex name = some position) :
    ∃ field, schema.fields[position]? = some field ∧ field.name = name := by
  obtain ⟨bound, same, _⟩ := List.findIdx?_eq_some_iff_getElem.mp found
  exact ⟨schema.fields[position], List.getElem?_eq_getElem bound, of_decide_eq_true same⟩

theorem index_eq_some {schema : Schema} {name : String} {position : Nat}
    (found : schema.index name = some position) :
    ∃ field, schema.fields[position]? = some field ∧ field.isNamed name = true := by
  rcases Option.or_eq_some_iff.mp found with exact | ⟨_, folded⟩
  · obtain ⟨field, here, same⟩ := exactIndex_eq_some exact
    exact ⟨field, here, by simp [Field.isNamed, same]⟩
  · obtain ⟨bound, same, _⟩ := List.findIdx?_eq_some_iff_getElem.mp folded
    exact ⟨schema.fields[position], List.getElem?_eq_getElem bound, same⟩

theorem index_lt {schema : Schema} {name : String} {position : Nat}
    (found : schema.index name = some position) : position < schema.size := by
  obtain ⟨_, here, _⟩ := index_eq_some found
  exact (List.getElem?_eq_some_iff.mp here).1

/-- The name of the column that was found, as its schema spells it, finds the same column. -/
theorem exactIndex_found {schema : Schema} {name : String} {position : Nat} {field : Field}
    (found : schema.index name = some position) (here : schema.fields[position]? = some field) :
    schema.exactIndex field.name = some position := by
  rcases Option.or_eq_some_iff.mp found with exact | ⟨_, folded⟩
  · obtain ⟨other, at_position, same⟩ := exactIndex_eq_some exact
    cases at_position.symm.trans here
    rw [same]
    exact exact
  · -- an earlier column of exactly this name would have matched the given name as well
    obtain ⟨bound, same, before⟩ := List.findIdx?_eq_some_iff_getElem.mp folded
    obtain ⟨_, rfl⟩ := List.getElem?_eq_some_iff.mp here
    refine List.findIdx?_eq_some_iff_getElem.mpr ⟨bound, by simp, ?_⟩
    intro i small equal
    apply before i small
    have names := of_decide_eq_true equal
    simpa [Field.isNamed, names] using same

theorem index_found {schema : Schema} {name : String} {position : Nat} {field : Field}
    (found : schema.index name = some position) (here : schema.fields[position]? = some field) :
    schema.index field.name = some position :=
  index_of_exact (exactIndex_found found here)

theorem find_found {schema : Schema} {name : String} {field : Field}
    (found : schema.find name = some field) : schema.find field.name = some field := by
  obtain ⟨position, index, here⟩ := find_eq_some_iff.mp found
  exact find_eq_some_iff.mpr ⟨position, index_found index here, here⟩

theorem qualified_name_inj (owner : String) (field : Field) (name : String) :
    (field.qualified owner).name = s!"{owner}.{name}" ↔ field.name = name := by
  constructor
  · intro same
    exact String.append_right_inj _ |>.mp same
  · rintro rfl
    rfl

theorem exactIndex_qualified (owner : String) (schema : Schema) (name : String) :
    (schema.qualified owner).exactIndex s!"{owner}.{name}" = schema.exactIndex name := by
  simp only [exactIndex, qualified, List.findIdx?_map]
  congr 1
  funext field
  exact decide_eq_decide.mpr (qualified_name_inj owner field name)

theorem exactIndex_append (left right : Schema) (name : String) :
    (left ++ right).exactIndex name =
      (left.exactIndex name).or ((right.exactIndex name).map (· + left.size)) :=
  List.findIdx?_append

theorem exactIndex_append_left {left right : Schema} {name : String} {position : Nat}
    (found : left.exactIndex name = some position) :
    (left ++ right).exactIndex name = some position := by
  rw [exactIndex_append, found, Option.some_or]

theorem exactIndex_of_distinct {schema : Schema} {field : Field} {position : Nat}
    (distinct : schema.Distinct) (here : schema.fields[position]? = some field) :
    schema.exactIndex field.name = some position := by
  obtain ⟨bound, rfl⟩ := List.getElem?_eq_some_iff.mp here
  refine List.findIdx?_eq_some_iff_getElem.mpr ⟨bound, by simp, fun i before same => ?_⟩
  have differ := List.pairwise_iff_getElem.mp distinct i position (by omega) bound before
  rw [Field.isNamed, of_decide_eq_true same] at differ
  simp at differ

theorem size_append (left right : Schema) : (left ++ right).size = left.size + right.size :=
  List.length_append

theorem size_qualified (owner : String) (schema : Schema) :
    (schema.qualified owner).size = schema.size :=
  List.length_map _

/-- A column of the left side keeps its place in the joined schema, under its qualified name. -/
theorem index_joined {left right : Schema} {owner other name : String} {position : Nat} {field : Field}
    (found : left.index name = some position) (here : left.fields[position]? = some field) :
    (left.qualified owner ++ right.qualified other).index s!"{owner}.{field.name}" = some position := by
  have exact := exactIndex_found found here
  rw [← exactIndex_qualified owner left field.name] at exact
  exact index_of_exact (exactIndex_append_left exact)

theorem find_joined {left right : Schema} {owner other name : String} {field : Field}
    (found : left.find name = some field) :
    (left.qualified owner ++ right.qualified other).find s!"{owner}.{field.name}" =
      some (field.qualified owner) := by
  obtain ⟨position, index, here⟩ := find_eq_some_iff.mp found
  refine find_eq_some_iff.mpr ⟨position, index_joined index here, ?_⟩
  have bound := (List.getElem?_eq_some_iff.mp here).1
  change (left.fields.map _ ++ right.fields.map _)[position]? = _
  rw [List.getElem?_append_left (by simpa using bound), List.getElem?_map, here]
  rfl

theorem mem_names_of_find {schema : Schema} {name : String} {field : Field}
    (found : schema.find name = some field) : field.name ∈ schema.names := by
  obtain ⟨position, _, here⟩ := find_eq_some_iff.mp found
  exact List.mem_map_of_mem (List.mem_of_getElem? here)

theorem find_of_mem_names {schema : Schema} {name : String} (member : name ∈ schema.names) :
    ∃ field, schema.find name = some field := by
  obtain ⟨field, inside, rfl⟩ := List.mem_map.mp member
  cases found : schema.exactIndex field.name with
  | none =>
    have differs := List.findIdx?_eq_none_iff.mp found field inside
    simp at differs
  | some position =>
    obtain ⟨other, here, _⟩ := exactIndex_eq_some found
    exact ⟨other, find_eq_some_iff.mpr ⟨position, index_of_exact found, here⟩⟩

end StreamPlan.Schema
