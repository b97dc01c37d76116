import StreamPlan.Expr.Eval
import StreamPlan.Proofs.Built

/-! Types of values. Over a row that fits its schema, an expression that has a type and a value has
a value of that type, or null. That a typed expression has a value is not claimed: whole numbers
overflow, and the operands of AND, NOT and the comparisons may have any type. -/
namespace StreamPlan

/-- Null is of every type. -/
def Scalar.HasType (value : Scalar) (type : DataType) : Prop :=
  value = .null ∨ value.dataType = some type

/-- A value for each column and no more, each of the column's type. -/
def Row.Fits (row : Row) (schema : Schema) : Prop :=
  List.Forall₂ (fun value (field : Field) => value.HasType field.dataType) row.values schema.fields

/-- What a row has for a column is of the column's type. Nothing is said of the width: a value that is
missing is null, and one for no column is not read. -/
def Row.Suits (row : Row) (schema : Schema) : Prop :=
  ∀ (position : Nat) (field : Field), schema.fields[position]? = some field →
    ((row.get? position).getD .null).HasType field.dataType

theorem Scalar.hasType_null (type : DataType) : Scalar.null.HasType type := .inl rfl

theorem Scalar.hasType_bool (b : Bool) : (Scalar.bool b).HasType .boolean := .inr rfl

theorem Row.Fits.get? {row : Row} {schema : Schema} (fits : row.Fits schema) {position : Nat}
    {field : Field} (here : schema.fields[position]? = some field) :
    ∃ value, row.get? position = some value ∧ value.HasType field.dataType :=
  exists_of_getElem?_left fits.flip here

theorem Row.Fits.suits {row : Row} {schema : Schema} (fits : row.Fits schema) : row.Suits schema := by
  intro position field here
  obtain ⟨value, given, typed⟩ := fits.get? here
  rw [given]
  exact typed

namespace Expr

theorem conjunction_hasType (left right : Option Bool) : (conjunction left right).HasType .boolean := by
  unfold conjunction
  split
  · exact .inr rfl
  · exact .inr rfl
  · exact .inr rfl
  · exact .inl rfl

theorem disjunction_hasType (left right : Option Bool) : (disjunction left right).HasType .boolean := by
  unfold disjunction
  split
  · exact .inr rfl
  · exact .inr rfl
  · exact .inr rfl
  · exact .inl rfl

theorem comparison_hasType {op : BinaryOp} {left right value : Scalar}
    (evaluated : comparison op left right = .ok value) : value.HasType .boolean := by
  unfold comparison at evaluated
  split at evaluated
  · cases evaluated
    exact Scalar.hasType_bool _
  · cases evaluated

theorem negation_hasType {value result : Scalar} (evaluated : negation value = .ok result) :
    result.HasType .boolean := by
  unfold negation at evaluated
  split at evaluated
  · cases evaluated
    exact Scalar.hasType_null _
  · obtain ⟨_, _, made⟩ := bind_eq_ok.mp evaluated
    cases made
    exact Scalar.hasType_bool _

theorem wholeArithmetic_dataType {op : BinaryOp} {narrow : Bool} {left right : Int} {value : Scalar}
    (evaluated : wholeArithmetic op narrow left right = .ok value) :
    value.dataType = some (if narrow then .int32 else .int64) := by
  simp only [wholeArithmetic, bind_eq_ok, throw_eq_error, error_bind, refused_eq_ok, pure_eq_ok] at evaluated
  obtain ⟨_, _, _, made⟩ := evaluated
  cases narrow with
  | true =>
    simp only [if_true] at made
    split at made <;> cases made
    rfl
  | false =>
    cases made
    rfl

/-- A value of a numeric type is a whole number exactly where the type is not floating, and one of
32 bits exactly where the type is. -/
theorem asInt_of_hasType {value : Scalar} {type : DataType} (typed : value.HasType type)
    (numeric : type.isNumeric = true) (known : value.isNull = false) :
    value.asInt.isSome = !type.isFloat ∧ isInt32 value = decide (type = .int32) := by
  rcases typed with rfl | typed
  · cases known
  · cases value <;> cases typed <;> first | exact ⟨rfl, rfl⟩ | cases numeric

theorem arithmetic_hasType {op : BinaryOp} {left right value : Scalar} {leftType rightType : DataType}
    (leftTyped : left.HasType leftType) (rightTyped : right.HasType rightType)
    (leftNumeric : leftType.isNumeric = true) (rightNumeric : rightType.isNumeric = true)
    (leftKnown : left.isNull = false) (rightKnown : right.isNull = false)
    (evaluated : arithmetic op left right = .ok value) :
    value.HasType (numericResult leftType rightType) := by
  obtain ⟨leftWhole, leftNarrow⟩ := asInt_of_hasType leftTyped leftNumeric leftKnown
  obtain ⟨rightWhole, rightNarrow⟩ := asInt_of_hasType rightTyped rightNumeric rightKnown
  unfold arithmetic at evaluated
  split at evaluated
  · rename_i a b leftInt rightInt
    have leftFloat : leftType.isFloat = false := by simpa [leftInt] using leftWhole
    have rightFloat : rightType.isFloat = false := by simpa [rightInt] using rightWhole
    have made := wholeArithmetic_dataType evaluated
    rw [leftNarrow, rightNarrow] at made
    right
    rw [made]
    simp [numericResult, leftFloat, rightFloat]
  · rename_i notWhole
    have float : (leftType.isFloat || rightType.isFloat) = true := by
      by_contra whole
      simp only [Bool.not_eq_true, Bool.or_eq_false_iff] at whole
      rw [whole.1, Bool.not_false, Option.isSome_iff_exists] at leftWhole
      rw [whole.2, Bool.not_false, Option.isSome_iff_exists] at rightWhole
      obtain ⟨a, leftInt⟩ := leftWhole
      obtain ⟨b, rightInt⟩ := rightWhole
      exact notWhole a b leftInt rightInt
    split at evaluated
    · cases evaluated
      exact .inr (by simp [numericResult, float, Scalar.dataType])
    · cases evaluated

theorem binaryType_logical {op : BinaryOp} {left right type : DataType} (logical : op.isArithmetic = false)
    (typed : binaryType op left right = .ok type) : type = .boolean := by
  simpa [binaryType, logical, eq_comm] using typed

theorem binaryType_arithmetic {op : BinaryOp} {left right type : DataType}
    (arithmetic : op.isArithmetic = true) (typed : binaryType op left right = .ok type) :
    left.isNumeric = true ∧ right.isNumeric = true ∧ type = numericResult left right := by
  simp only [binaryType, arithmetic, if_true] at typed
  split at typed
  · rename_i numeric
    cases typed
    exact ⟨(Bool.and_eq_true_iff.mp numeric).1, (Bool.and_eq_true_iff.mp numeric).2, rfl⟩
  · cases typed

theorem isArithmetic_eq_not {op : BinaryOp} (notAnd : op ≠ .and) (notOr : op ≠ .or) :
    op.isArithmetic = !op.isComparison := by
  cases op with
  | and => exact absurd rfl notAnd
  | or => exact absurd rfl notOr
  | eq | notEq | lt | ltEq | gt | gtEq | plus | minus | multiply | divide => rfl

theorem applyBinary_hasType {op : BinaryOp} {left right value : Scalar} {leftType rightType type : DataType}
    (typed : binaryType op leftType rightType = .ok type) (leftTyped : left.HasType leftType)
    (rightTyped : right.HasType rightType) (evaluated : applyBinary op left right = .ok value) :
    value.HasType type := by
  unfold applyBinary at evaluated
  split at evaluated
  · cases evaluated
    rw [binaryType_logical rfl typed]
    exact conjunction_hasType _ _
  · cases evaluated
    rw [binaryType_logical rfl typed]
    exact disjunction_hasType _ _
  · rename_i notAnd notOr
    split at evaluated
    · cases evaluated
      exact Scalar.hasType_null _
    · rename_i known
      obtain ⟨leftKnown, rightKnown⟩ : left.isNull = false ∧ right.isNull = false := by
        simpa using known
      have kind := isArithmetic_eq_not notAnd notOr
      split at evaluated
      · rename_i compared
        rw [compared, Bool.not_true] at kind
        rw [binaryType_logical kind typed]
        exact comparison_hasType evaluated
      · rename_i compared
        rw [Bool.eq_false_iff.mpr compared, Bool.not_false] at kind
        obtain ⟨leftNumeric, rightNumeric, rfl⟩ := binaryType_arithmetic kind typed
        exact arithmetic_hasType leftTyped rightTyped leftNumeric rightNumeric leftKnown rightKnown evaluated

/-- A column is typed and read by one look-up. -/
theorem column_hasType {schema : Schema} {row : Row} (suits : row.Suits schema) {name : String}
    {type : DataType} {value : Scalar} (typed : (Expr.column name).typeOf schema = .ok type)
    (evaluated : (Expr.column name).eval schema row = .ok value) : value.HasType type := by
  cases found : schema.index name with
  | none => simp [eval, found] at evaluated
  | some position =>
    obtain ⟨field, here, _⟩ := Schema.index_eq_some found
    have column : schema.find name = some field := Schema.find_eq_some_iff.mpr ⟨position, found, here⟩
    simp only [typeOf, column, Except.ok.injEq] at typed
    simp only [eval, found, Except.ok.injEq] at evaluated
    rw [← typed, ← evaluated]
    exact suits position field here

theorem hasType_of_eval {schema : Schema} {row : Row} (suits : row.Suits schema) {e : Expr} {type : DataType}
    {value : Scalar} (typed : e.typeOf schema = .ok type) (evaluated : e.eval schema row = .ok value) :
    value.HasType type := by
  induction e generalizing type value with
  | column name => exact column_hasType suits typed evaluated
  | literal given =>
    cases typed
    cases evaluated
    cases given <;> first | exact .inl rfl | exact .inr rfl
  | binary op left right leftIh rightIh =>
    simp only [typeOf, bind_eq_ok] at typed
    simp only [eval, bind_eq_ok] at evaluated
    obtain ⟨leftType, leftTyped, rightType, rightTyped, typed⟩ := typed
    obtain ⟨a, leftEvaluated, b, rightEvaluated, evaluated⟩ := evaluated
    exact applyBinary_hasType typed (leftIh leftTyped leftEvaluated) (rightIh rightTyped rightEvaluated) evaluated
  | not inner =>
    cases typed
    obtain ⟨_, _, negated⟩ := bind_eq_ok.mp evaluated
    exact negation_hasType negated
  | isNull inner negated =>
    cases typed
    obtain ⟨_, _, made⟩ := bind_eq_ok.mp evaluated
    cases made
    exact Scalar.hasType_bool _

/-- An expression over a row that fits has, where it has a type and a value, a value of its type. -/
theorem eval_hasType {schema : Schema} {row : Row} (fits : row.Fits schema) {e : Expr} {type : DataType}
    {value : Scalar} (typed : e.typeOf schema = .ok type) (evaluated : e.eval schema row = .ok value) :
    value.HasType type :=
  hasType_of_eval fits.suits typed evaluated

theorem eval_hasType_orders :
    let row : Row := ⟨[.int32 1, .text "ada", .null]⟩
    let sum : Expr := .binary .plus (.column "ID") (.literal (.int64 41))
    row.Fits Plan.orders.schema ∧ sum.typeOf Plan.orders.schema = .ok .int64 ∧
      sum.eval Plan.orders.schema row = .ok (.int64 42) ∧ (Scalar.int64 42).HasType .int64 := by
  intro row sum
  have fits : row.Fits Plan.orders.schema := .cons (.inr rfl) (.cons (.inr rfl) (.cons (.inl rfl) .nil))
  have typed : sum.typeOf Plan.orders.schema = .ok .int64 := by rfl
  have evaluated : sum.eval Plan.orders.schema row = .ok (.int64 42) := by rfl
  exact ⟨fits, typed, evaluated, eval_hasType fits typed evaluated⟩

end Expr
end StreamPlan
