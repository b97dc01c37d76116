import StreamPlan.Proofs.Built

/-! Which column of a join a qualified name reads. A left column is read under its own name always; a
right one is, unless a left column has the same qualified name. Names have dots once they have been
qualified, so two aliases that differ do not rule that out: one alias may go on as the names of the
other side begin. -/
namespace StreamPlan

/-- The two sides qualify these columns alike: the one alias is the other and a part more, and that
part stands in front of the one column's name in the other's. -/
def Shadows (leftAlias rightAlias : String) (field other : Field) : Prop :=
  (∃ part : String, rightAlias = s!"{leftAlias}.{part}" ∧ field.name = s!"{part}.{other.name}") ∨
    ∃ part : String, leftAlias = s!"{rightAlias}.{part}" ∧ other.name = s!"{part}.{field.name}"

theorem toList_dotted (owner name : String) :
    s!"{owner}.{name}".toList = owner.toList ++ '.' :: name.toList := by
  simp [toString, String.toList_append]

theorem part_of_append {owner other name rest : String} {extra : List Char} (differ : owner ≠ other)
    (longer : other.toList = owner.toList ++ extra)
    (tail : '.' :: name.toList = extra ++ '.' :: rest.toList) :
    ∃ part : String, other = s!"{owner}.{part}" ∧ name = s!"{part}.{rest}" := by
  cases extra with
  | nil =>
    rw [List.append_nil] at longer
    exact absurd (String.toList_inj.mp longer).symm differ
  | cons dot part =>
    obtain ⟨rfl, after⟩ := List.cons_eq_cons.mp tail
    refine ⟨String.ofList part, String.toList_inj.mp ?_, String.toList_inj.mp ?_⟩
    · rw [toList_dotted, String.toList_ofList, longer]
    · rw [toList_dotted, String.toList_ofList]
      exact after

theorem shadows_iff {leftAlias rightAlias : String} (differ : leftAlias ≠ rightAlias) {field other : Field} :
    Shadows leftAlias rightAlias field other ↔
      (field.qualified leftAlias).name = (other.qualified rightAlias).name := by
  constructor
  · rintro (⟨part, rfl, name⟩ | ⟨part, rfl, name⟩) <;>
      simp [Field.qualified, name, toString, String.append_assoc]
  · intro same
    have letters := congrArg String.toList same
    simp only [Field.qualified, toList_dotted] at letters
    rcases List.append_eq_append_iff.mp letters with ⟨_, longer, tail⟩ | ⟨_, longer, tail⟩
    · exact .inl (part_of_append differ longer tail)
    · exact .inr (part_of_append differ.symm longer tail)

theorem Plan.JoinChecked.aliases_differ {left right : Plan} {spec : Join} (checked : JoinChecked left right spec) :
    spec.leftAlias ≠ spec.rightAlias := by
  intro same
  have differ := checked.aliases
  simp [same] at differ

namespace Schema

variable {left right : Schema} {leftAlias rightAlias : String} {field other : Field} {i j : Nat}

theorem index_joined_left (distinct : left.Distinct) (here : left.fields[i]? = some field) :
    (left.qualified leftAlias ++ right.qualified rightAlias).index s!"{leftAlias}.{field.name}" = some i :=
  index_joined (index_of_exact (exactIndex_of_distinct distinct here)) here

/-- A right column's name reads the left column that shadows it. -/
theorem index_joined_shadowed (differ : leftAlias ≠ rightAlias) (distinct : left.Distinct)
    (here : left.fields[i]? = some field) (shadows : Shadows leftAlias rightAlias field other) :
    (left.qualified leftAlias ++ right.qualified rightAlias).index s!"{rightAlias}.{other.name}" = some i := by
  have same : s!"{leftAlias}.{field.name}" = s!"{rightAlias}.{other.name}" := (shadows_iff differ).mp shadows
  rw [← same]
  exact index_joined_left distinct here

theorem index_joined_right (differ : leftAlias ≠ rightAlias) (distinct : right.Distinct)
    (there : right.fields[j]? = some other)
    (clear : ∀ field ∈ left.fields, ¬Shadows leftAlias rightAlias field other) :
    (left.qualified leftAlias ++ right.qualified rightAlias).index s!"{rightAlias}.{other.name}" =
      some (left.size + j) := by
  apply index_of_exact
  have missed : (left.qualified leftAlias).exactIndex s!"{rightAlias}.{other.name}" = none := by
    refine List.findIdx?_eq_none_iff.mpr fun column member => decide_eq_false fun same => ?_
    obtain ⟨field, inside, rfl⟩ := List.mem_map.mp member
    exact clear field inside ((shadows_iff differ).mpr same)
  rw [exactIndex_append, missed, Option.none_or, exactIndex_qualified, exactIndex_of_distinct distinct there,
    Option.map_some, size_qualified, Nat.add_comm]

end Schema

namespace Plan

/-- Each column's qualified name is resolved in a join: to the column itself, unless it is a right one
that a left one shadows. -/
theorem joinColumns_resolved {id : NodeId} {kind : JoinKind} {left right plan : Plan}
    {leftKey rightKey leftAlias rightAlias : String}
    (made : newJoin id kind left right leftKey rightKey leftAlias rightAlias = .ok plan)
    (leftDistinct : left.schema.Distinct) (rightDistinct : right.schema.Distinct) :
    (∀ i field, left.schema.fields[i]? = some field →
      plan.schema.index s!"{leftAlias}.{field.name}" = some i) ∧
    ∀ j other, right.schema.fields[j]? = some other →
      (∀ i field, left.schema.fields[i]? = some field → Shadows leftAlias rightAlias field other →
        plan.schema.index s!"{rightAlias}.{other.name}" = some i) ∧
      ((∀ field ∈ left.schema.fields, ¬Shadows leftAlias rightAlias field other) →
        plan.schema.index s!"{rightAlias}.{other.name}" = some (left.schema.size + j)) := by
  obtain ⟨spec, rfl, rfl, rfl, checked⟩ := newJoin_eq_ok made
  rw [show (Plan.join id left right spec).schema = _ from checked.schema]
  exact ⟨fun _ _ => Schema.index_joined_left leftDistinct, fun _ _ there =>
    ⟨fun _ _ => Schema.index_joined_shadowed checked.aliases_differ leftDistinct,
      Schema.index_joined_right checked.aliases_differ rightDistinct there⟩⟩

def cities : Plan :=
  let name : Field := ⟨"name", .utf8, false⟩
  .source ⟨7⟩ ⟨"cities", ⟨[name, ⟨"mayor", .utf8, true⟩]⟩, name, .table, .json⟩

/-- The orders and where they go to, once more joined: under aliases of which one goes on as the other
side's names do, `x.c.name` is the name of the customer and that of the city. -/
theorem placedOrders_resolved :
    addressedOrders.schema.Distinct ∧ cities.schema.Distinct ∧ ∃ plan,
      newJoin ⟨8⟩ .left addressedOrders cities "c.city" "name" "x" "x.c" = .ok plan ∧
      plan.schema.index "x.c.name" = some 3 ∧ plan.schema.index "x.c.mayor" = some 6 := by
  have left : addressedOrders.schema.Distinct := by decide
  have right : cities.schema.Distinct := by decide
  refine ⟨left, right, _, by rfl, ?_⟩
  have resolved := (joinColumns_resolved
    (show newJoin ⟨8⟩ .left addressedOrders cities "c.city" "name" "x" "x.c" = .ok _ by rfl) left right).2
  refine ⟨(resolved 0 ⟨"name", .utf8, false⟩ rfl).1 3 ⟨"c.name", .utf8, false⟩ rfl ?_,
    (resolved 1 ⟨"mayor", .utf8, true⟩ rfl).2 fun field member => ?_⟩
  · exact .inl ⟨"c", by decide, by decide⟩
  · rw [shadows_iff (by decide)]
    revert field
    decide

theorem not_joinColumnsAddressed :
    ¬∀ (id : NodeId) (kind : JoinKind) (left right plan : Plan)
      (leftKey rightKey leftAlias rightAlias : String),
      newJoin id kind left right leftKey rightKey leftAlias rightAlias = .ok plan →
      left.schema.Distinct → right.schema.Distinct →
      (∀ i field, left.schema.fields[i]? = some field →
        plan.schema.index s!"{leftAlias}.{field.name}" = some i) ∧
      ∀ j other, right.schema.fields[j]? = some other →
        plan.schema.index s!"{rightAlias}.{other.name}" = some (left.schema.size + j) := by
  intro claim
  have resolved := (claim ⟨8⟩ .left addressedOrders cities _ "c.city" "name" "x" "x.c" (by rfl)
    (by decide) (by decide)).2 0 ⟨"name", .utf8, false⟩ rfl
  revert resolved
  decide

end Plan
end StreamPlan
