import StreamPlan.Expr.Eval
import StreamPlan.Expr.Typing
import StreamPlan.Proofs.Columns
import StreamPlan.Proofs.ExactNames
import StreamPlan.Proofs.Results

/-! References in small letters. Whether a schema has a column of some name does not depend on letter case,
and where no two columns differ in letter case alone neither does which one it is. An expression then has
the type and the value it has with all its references in small letters. -/
namespace StreamPlan

namespace Text

@[simp] theorem lower_lower (s : String) : lower (lower s) = lower s := by
  rw [← lower_upper (lower s), upper_lower, lower_upper]

@[simp] theorem sameIgnoringCase_lower (a b : String) : sameIgnoringCase (lower a) b = sameIgnoringCase a b := by
  rw [sameIgnoringCase, lower_lower, sameIgnoringCase]

@[simp] theorem sameIgnoringCase_lower_right (a b : String) :
    sameIgnoringCase a (lower b) = sameIgnoringCase a b := by
  rw [sameIgnoringCase, lower_lower, sameIgnoringCase]

end Text

namespace Schema

variable {schema : Schema}

theorem find_isSome_iff {name : String} :
    (schema.find name).isSome = true ↔ ∃ field ∈ schema.fields, field.isNamed name = true := by
  constructor
  · intro found
    obtain ⟨field, found⟩ := Option.isSome_iff_exists.mp found
    obtain ⟨position, index, here⟩ := find_eq_some_iff.mp found
    obtain ⟨other, also, named⟩ := index_eq_some index
    exact ⟨other, List.mem_of_getElem? also, named⟩
  · rintro ⟨field, member, named⟩
    have some_index : (schema.index name).isSome = true := by
      rw [index, Option.isSome_or, List.findIdx?_isSome, Bool.or_eq_true]
      exact .inr (List.any_eq_true.mpr ⟨field, member, named⟩)
    obtain ⟨position, index⟩ := Option.isSome_iff_exists.mp some_index
    obtain ⟨other, here, _⟩ := index_eq_some index
    exact Option.isSome_iff_exists.mpr ⟨other, find_eq_some_iff.mpr ⟨position, index, here⟩⟩

theorem find_lower_isSome (schema : Schema) (name : String) :
    (schema.find (Text.lower name)).isSome = (schema.find name).isSome := by
  rw [Bool.eq_iff_iff, find_isSome_iff, find_isSome_iff]
  simp only [Field.isNamed, Text.sameIgnoringCase_lower_right]

/-- Where columns are distinct, looking for the exact name first makes no difference. -/
theorem index_of_distinct (distinct : schema.Distinct) (name : String) :
    schema.index name = schema.fields.findIdx? (·.isNamed name) := by
  unfold index
  cases exact : schema.exactIndex name with
  | none => rfl
  | some position =>
    obtain ⟨bound, same, _⟩ := List.findIdx?_eq_some_iff_getElem.mp exact
    have same := of_decide_eq_true same
    refine (List.findIdx?_eq_some_iff_getElem.mpr ⟨bound, by simp [Field.isNamed, same], ?_⟩).symm
    intro i before
    have differ := List.pairwise_iff_getElem.mp distinct i position (by omega) bound before
    rw [same] at differ
    simp [differ]

theorem index_lower (distinct : schema.Distinct) (name : String) :
    schema.index (Text.lower name) = schema.index name := by
  rw [index_of_distinct distinct, index_of_distinct distinct]
  simp only [Field.isNamed, Text.sameIgnoringCase_lower_right]

theorem find_lower (distinct : schema.Distinct) (name : String) :
    schema.find (Text.lower name) = schema.find name := by
  rw [find, find, index_lower distinct]

end Schema

namespace Expr

/-- The expression with its references in small letters. -/
def folded : Expr → Expr
  | .column name => .column (Text.lower name)
  | .literal value => .literal value
  | .binary op left right => .binary op left.folded right.folded
  | .not inner => .not inner.folded
  | .isNull inner negated => .isNull inner.folded negated

variable {schema : Schema} (distinct : schema.Distinct)
include distinct

theorem typeOf_folded (e : Expr) : (typeOf schema e.folded).toOption = (typeOf schema e).toOption := by
  induction e with
  | column name =>
    simp only [folded, typeOf, Schema.find_lower distinct]
    cases schema.find name <;> rfl
  | literal value => rfl
  | binary op left right leftIh rightIh => simp only [folded, typeOf, toOption_bind, leftIh, rightIh]
  | not inner => rfl
  | isNull inner negated => rfl

theorem eval_folded (row : Row) (e : Expr) : (eval schema row e.folded).toOption = (eval schema row e).toOption := by
  induction e with
  | column name =>
    simp only [folded, eval, Schema.index_lower distinct]
    cases schema.index name <;> rfl
  | literal value => rfl
  | binary op left right leftIh rightIh => simp only [folded, eval, toOption_bind, leftIh, rightIh]
  | not inner ih => simp only [folded, eval, toOption_bind, ih]
  | isNull inner negated ih => simp only [folded, eval, toOption_bind, ih]

theorem accepts_folded (row : Row) (predicate : Expr) :
    (accepts schema row predicate.folded).toOption = (accepts schema row predicate).toOption := by
  simp only [accepts, toOption_bind, eval_folded distinct]

end Expr
end StreamPlan
