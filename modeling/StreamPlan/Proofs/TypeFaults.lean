import StreamPlan.Proofs.KnownColumns
import StreamPlan.Proofs.NotANumber

/-! What an accepted predicate can still fail of. Typing holds the operands of arithmetic to their types
and those of comparisons and of NOT to none; what stands under NOT or IS NULL it does not look at. An
operation that typing has let pass with operands of the wrong types fails wherever these have values.
That typing turns such an operation away is not claimed, because it does not. -/
namespace StreamPlan

def Scalar.isNaN : Scalar → Bool
  | .float32 x => x.isNaN
  | .float64 x => x.isNaN
  | _ => false

/-- Types between whose values there is an order. -/
def DataType.isComparable (left right : DataType) : Bool := left = right || left.isNumeric && right.isNumeric

/-- Operand types for which the operation has a result. AND and OR take any value. -/
def BinaryOp.takes (op : BinaryOp) (left right : DataType) : Bool :=
  if op.isComparison then left.isComparable right
  else if op.isArithmetic then left.isNumeric && right.isNumeric
  else true

theorem BinaryOp.takes_comparison {op : BinaryOp} (compares : op.isComparison = true) (left right : DataType) :
    op.takes left right = left.isComparable right :=
  if_pos compares

theorem BinaryOp.takes_arithmetic {op : BinaryOp} (computes : op.isArithmetic = true) (left right : DataType) :
    op.takes left right = (left.isNumeric && right.isNumeric) := by
  cases op <;> first | rfl | cases computes

namespace EvalError

/-- Whole numbers out of bounds, or divided by zero. -/
def isWhole : EvalError → Bool
  | .divisionByZero | .overflow .. | .narrowOverflow .. => true
  | _ => false

def isUnordered : EvalError → Bool
  | .incomparable _ left right => left.isNaN || right.isNaN
  | _ => false

/-- Operands of the wrong types. -/
def isMismatch : EvalError → Bool
  | .notBoolean _ | .incomparable .. | .notNumeric .. => true
  | _ => false

end EvalError

namespace Scalar

theorem compareDoubles_eq_none {x y : Float} :
    compareDoubles x y = none ↔ x.isNaN = true ∨ y.isNaN = true := by
  rw [← Bool.or_eq_true_iff]
  unfold compareDoubles
  split
  · rename_i unordered
    exact iff_of_true rfl unordered
  · rename_i ordered
    refine iff_of_false ?_ ordered
    split
    · exact Option.some_ne_none _
    · split <;> exact Option.some_ne_none _

/-- Two values that are not null are in no order just where their types are in none, or a number is none. -/
theorem compare_eq_none_iff {left right : Scalar} {leftType rightType : DataType}
    (leftTyped : left.dataType = some leftType) (rightTyped : right.dataType = some rightType) :
    left.compare right = none ↔
      leftType.isComparable rightType = false ∨ left.isNaN = true ∨ right.isNaN = true := by
  cases left <;> cases leftTyped <;> cases right <;> cases rightTyped <;>
    simp only [compare, asInt, asDouble, isNaN, DataType.isComparable, DataType.isNumeric, compareDoubles_eq_none,
      Decimal.isNaN_ofInt, Decimal.isNaN_widen, Option.bind_eq_bind, Option.bind_some, Option.bind_none,
      decide_true, decide_false, reduceCtorEq, Bool.true_or, Bool.or_true, Bool.or_self, Bool.and_true,
      Bool.and_false, Bool.and_self, Bool.false_eq_true, Bool.true_eq_false, true_or, or_false, false_or]

theorem dataType_of_hasType {value : Scalar} {type : DataType} (typed : value.HasType type)
    (known : value.isNull = false) : value.dataType = some type := by
  rcases typed with rfl | typed
  · cases known
  · exact typed

theorem asDouble_of_not_numeric {value : Scalar} {type : DataType} (typed : value.dataType = some type)
    (other : type.isNumeric = false) : value.asInt = none ∧ value.asDouble = none := by
  cases value <;> cases typed <;> first | exact ⟨rfl, rfl⟩ | cases other

theorem isSome_asDouble {value : Scalar} {type : DataType} (typed : value.dataType = some type)
    (numeric : type.isNumeric = true) : value.asDouble.isSome = true := by
  cases value <;> cases typed <;> first | rfl | cases numeric

end Scalar

namespace Expr

section
variable {op : BinaryOp} {left right : Scalar} {leftType rightType : DataType} {error : EvalError}

theorem wholeArithmetic_error {narrow : Bool} {a b : Int} (failed : wholeArithmetic op narrow a b = .error error) :
    error.isWhole = true := by
  rcases bind_eq_error.mp failed with failed | ⟨result, _, failed⟩
  · unfold wholeResult at failed
    split at failed
    · cases failed
    · cases failed
    · cases failed
    · split at failed <;> cases failed
      rfl
  · simp only [throw_eq_error, error_bind, pure_eq_ok] at failed
    split_ifs at failed <;> cases failed <;> rfl

theorem arithmetic_error (leftTyped : left.dataType = some leftType) (rightTyped : right.dataType = some rightType)
    (leftNumeric : leftType.isNumeric = true) (rightNumeric : rightType.isNumeric = true)
    (failed : arithmetic op left right = .error error) : error.isWhole = true := by
  obtain ⟨x, leftDouble⟩ := Option.isSome_iff_exists.mp (Scalar.isSome_asDouble leftTyped leftNumeric)
  obtain ⟨y, rightDouble⟩ := Option.isSome_iff_exists.mp (Scalar.isSome_asDouble rightTyped rightNumeric)
  unfold arithmetic at failed
  split at failed
  · exact wholeArithmetic_error failed
  · simp [leftDouble, rightDouble] at failed

theorem arithmetic_of_not_numeric (leftTyped : left.dataType = some leftType)
    (rightTyped : right.dataType = some rightType) (other : (leftType.isNumeric && rightType.isNumeric) = false) :
    arithmetic op left right = .error (.notNumeric op left right) := by
  unfold arithmetic
  rcases Bool.and_eq_false_iff.mp other with other | other
  · obtain ⟨whole, double⟩ := Scalar.asDouble_of_not_numeric leftTyped other
    simp [whole, double]
  · obtain ⟨whole, double⟩ := Scalar.asDouble_of_not_numeric rightTyped other
    simp [whole, double]

theorem comparison_eq_error : comparison op left right = .error error ↔
    left.compare right = none ∧ error = .incomparable op left right := by
  unfold comparison
  cases left.compare right <;> simp [eq_comm]

theorem applyBinary_comparison (compares : op.isComparison = true) (leftKnown : left.isNull = false)
    (rightKnown : right.isNull = false) : applyBinary op left right = comparison op left right := by
  cases op with
  | eq | notEq | lt | ltEq | gt | gtEq => simp [applyBinary, leftKnown, rightKnown, BinaryOp.isComparison]
  | and | or | plus | minus | multiply | divide => cases compares

theorem applyBinary_arithmetic (computes : op.isArithmetic = true) (leftKnown : left.isNull = false)
    (rightKnown : right.isNull = false) : applyBinary op left right = arithmetic op left right := by
  cases op with
  | plus | minus | multiply | divide => simp [applyBinary, leftKnown, rightKnown, BinaryOp.isComparison]
  | and | or | eq | notEq | lt | ltEq | gt | gtEq => cases computes

/-- AND and OR have a result for any values, and so has every operation where one of them is null. -/
theorem applyBinary_failed (failed : applyBinary op left right = .error error) :
    (op.isComparison = true ∨ op.isArithmetic = true) ∧ left.isNull = false ∧ right.isNull = false := by
  unfold applyBinary at failed
  split at failed
  · cases failed
  · cases failed
  · rename_i notAnd notOr
    split at failed
    · cases failed
    · rename_i known
      have kind := isArithmetic_eq_not notAnd notOr
      refine ⟨?_, by simpa using known⟩
      cases compares : op.isComparison with
      | true => exact .inl rfl
      | false => exact .inr (by rw [kind, compares, Bool.not_false])

/-- Operands of types that the operation takes fail it only as numbers. -/
theorem applyBinary_error (takes : op.takes leftType rightType = true) (leftTyped : left.HasType leftType)
    (rightTyped : right.HasType rightType) (failed : applyBinary op left right = .error error) :
    error.isWhole = true ∨ error.isUnordered = true := by
  obtain ⟨kind, leftKnown, rightKnown⟩ := applyBinary_failed failed
  have leftHas := Scalar.dataType_of_hasType leftTyped leftKnown
  have rightHas := Scalar.dataType_of_hasType rightTyped rightKnown
  rcases kind with compares | computes
  · rw [applyBinary_comparison compares leftKnown rightKnown] at failed
    rw [BinaryOp.takes_comparison compares] at takes
    obtain ⟨unordered, rfl⟩ := comparison_eq_error.mp failed
    rcases (Scalar.compare_eq_none_iff leftHas rightHas).mp unordered with apart | nan
    · cases takes.symm.trans apart
    · exact .inr (Bool.or_eq_true_iff.mpr nan)
  · rw [applyBinary_arithmetic computes leftKnown rightKnown] at failed
    rw [BinaryOp.takes_arithmetic computes] at takes
    obtain ⟨leftNumeric, rightNumeric⟩ := Bool.and_eq_true_iff.mp takes
    exact .inl (arithmetic_error leftHas rightHas leftNumeric rightNumeric failed)

/-- Operands of types that the operation does not take fail it, unless one of them is null. -/
theorem applyBinary_mismatch (apart : op.takes leftType rightType = false)
    (leftHas : left.dataType = some leftType) (rightHas : right.dataType = some rightType)
    (leftKnown : left.isNull = false) (rightKnown : right.isNull = false) :
    ∃ error, applyBinary op left right = .error error ∧ error.isMismatch = true := by
  cases compares : op.isComparison with
  | true =>
    rw [BinaryOp.takes_comparison compares] at apart
    have unordered := (Scalar.compare_eq_none_iff leftHas rightHas).mpr (.inl apart)
    refine ⟨.incomparable op left right, ?_, rfl⟩
    rw [applyBinary_comparison compares leftKnown rightKnown, comparison_eq_error]
    exact ⟨unordered, rfl⟩
  | false =>
    cases computes : op.isArithmetic with
    | true =>
      rw [BinaryOp.takes_arithmetic computes] at apart
      refine ⟨.notNumeric op left right, ?_, rfl⟩
      rw [applyBinary_arithmetic computes leftKnown rightKnown, arithmetic_of_not_numeric leftHas rightHas apart]
    | false => simp [BinaryOp.takes, compares, computes] at apart

theorem negation_boolean {value : Scalar} (typed : value.HasType .boolean) :
    ∃ result, negation value = .ok result := by
  rcases typed with rfl | typed
  · exact ⟨_, rfl⟩
  · cases value <;> cases typed
    exact ⟨_, rfl⟩

theorem negation_mismatch {value : Scalar} {type : DataType} (has : value.dataType = some type)
    (other : type ≠ .boolean) : ∃ error, negation value = .error error ∧ error.isMismatch = true := by
  cases value <;> cases has <;> first | exact ⟨_, rfl, rfl⟩ | exact absurd rfl other

end

/-- An expression and all that it is made of. -/
def parts : Expr → List Expr
  | .column name => [.column name]
  | .literal value => [.literal value]
  | .binary op left right => .binary op left right :: (left.parts ++ right.parts)
  | .not inner => .not inner :: inner.parts
  | .isNull inner negated => .isNull inner negated :: inner.parts

/-- The parts that typing does not look at. -/
def overlooked : Expr → List Expr
  | .column _ => []
  | .literal _ => []
  | .binary _ left right => left.overlooked ++ right.overlooked
  | .not inner => inner.parts
  | .isNull inner _ => inner.parts

def operands : Expr → List Expr
  | .column _ => []
  | .literal _ => []
  | .binary _ left right => [left, right]
  | .not inner => [inner]
  | .isNull inner _ => [inner]

/-- An operation whose operands have not both got types that it takes. -/
def Misfits (schema : Schema) : Expr → Prop
  | .binary op left right =>
    ∀ leftType rightType, left.typeOf schema = .ok leftType → right.typeOf schema = .ok rightType →
      op.takes leftType rightType = false
  | .not inner => inner.typeOf schema ≠ .ok .boolean
  | _ => False

/-- The operation itself fails, its operands having values. -/
def Raises (schema : Schema) (row : Row) (error : EvalError) : Expr → Prop
  | .binary op left right => ∃ a b, left.eval schema row = .ok a ∧ right.eval schema row = .ok b ∧
      applyBinary op a b = .error error
  | .not inner => ∃ value, inner.eval schema row = .ok value ∧ negation value = .error error
  | _ => False

section
variable {schema : Schema} {row : Row} {e part : Expr} {error : EvalError}

/-- An evaluation that fails does so at one of the parts, unless a column is unknown. -/
theorem raised (known : ∀ name ∈ e.columns, schema.Knows name) (failed : e.eval schema row = .error error) :
    ∃ part ∈ e.parts, part.Raises schema row error := by
  induction e with
  | column name =>
    obtain ⟨position, found⟩ := known name (List.mem_singleton_self name)
    simp [eval, found] at failed
  | literal => cases failed
  | binary op left right leftIh rightIh =>
    rcases bind_eq_error.mp failed with failed | ⟨a, leftDone, failed⟩
    · obtain ⟨part, inside, raises⟩ :=
        leftIh (fun name member => known name (List.mem_append_left _ member)) failed
      exact ⟨part, List.mem_cons_of_mem _ (List.mem_append_left _ inside), raises⟩
    · rcases bind_eq_error.mp failed with failed | ⟨b, rightDone, failed⟩
      · obtain ⟨part, inside, raises⟩ :=
          rightIh (fun name member => known name (List.mem_append_right _ member)) failed
        exact ⟨part, List.mem_cons_of_mem _ (List.mem_append_right _ inside), raises⟩
      · exact ⟨_, List.mem_cons_self, a, b, leftDone, rightDone, failed⟩
  | not inner ih =>
    rcases bind_eq_error.mp failed with failed | ⟨value, done, failed⟩
    · obtain ⟨part, inside, raises⟩ := ih known failed
      exact ⟨part, List.mem_cons_of_mem _ inside, raises⟩
    · exact ⟨_, List.mem_cons_self, value, done, failed⟩
  | isNull inner negated ih =>
    rcases bind_eq_error.mp failed with failed | ⟨_, _, failed⟩
    · obtain ⟨part, inside, raises⟩ := ih known failed
      exact ⟨part, List.mem_cons_of_mem _ inside, raises⟩
    · cases failed

/-- An operation that fails over values of the right types does so for the numbers they are. -/
theorem misfits_of_raises (suits : row.Suits schema) (raises : part.Raises schema row error) :
    error.isWhole = true ∨ error.isUnordered = true ∨ part.Misfits schema := by
  cases part with
  | column | literal | isNull => exact raises.elim
  | binary op left right =>
    obtain ⟨a, b, leftDone, rightDone, failed⟩ := raises
    by_cases misfits : (Expr.binary op left right).Misfits schema
    · exact .inr (.inr misfits)
    · simp only [Misfits, not_forall, Bool.not_eq_false] at misfits
      obtain ⟨leftType, rightType, leftTyped, rightTyped, takes⟩ := misfits
      have fault := applyBinary_error takes (hasType_of_eval suits leftTyped leftDone)
        (hasType_of_eval suits rightTyped rightDone) failed
      exact fault.imp_right .inl
  | not inner =>
    obtain ⟨value, done, failed⟩ := raises
    by_cases boolean : inner.typeOf schema = .ok .boolean
    · obtain ⟨result, negated⟩ := negation_boolean (hasType_of_eval suits boolean done)
      cases negated.symm.trans failed
    · exact .inr (.inr boolean)

/-- Where an operation of a typed expression misfits, it is a comparison or a NOT, or has been overlooked. -/
theorem boolean_or_overlooked {type : DataType} (typed : e.typeOf schema = .ok type) (inside : part ∈ e.parts)
    (misfits : part.Misfits schema) : part.typeOf schema = .ok .boolean ∨ part ∈ e.overlooked := by
  induction e generalizing type with
  | column | literal =>
    obtain rfl := List.mem_singleton.mp inside
    exact misfits.elim
  | binary op left right leftIh rightIh =>
    simp only [typeOf, bind_eq_ok] at typed
    obtain ⟨leftType, leftTyped, rightType, rightTyped, typed⟩ := typed
    rcases List.mem_cons.mp inside with rfl | inside
    · have apart := misfits leftType rightType leftTyped rightTyped
      left
      -- arithmetic was typed for its operands, so what misfits here compares
      cases computes : op.isArithmetic with
      | true =>
        obtain ⟨leftNumeric, rightNumeric, _⟩ := binaryType_arithmetic computes typed
        rw [BinaryOp.takes_arithmetic computes, leftNumeric, rightNumeric] at apart
        cases apart
      | false => simp [typeOf, leftTyped, rightTyped, binaryType, computes]
    · rcases List.mem_append.mp inside with inside | inside
      · exact (leftIh leftTyped inside).imp_right (List.mem_append_left _)
      · exact (rightIh rightTyped inside).imp_right (List.mem_append_right _)
  | not inner =>
    rcases List.mem_cons.mp inside with rfl | inside
    · exact .inl rfl
    · exact .inr inside
  | isNull inner negated =>
    rcases List.mem_cons.mp inside with rfl | inside
    · exact misfits.elim
    · exact .inr inside

/-- An operation that misfits fails over every row for which its operands have values other than null. -/
theorem mismatch_of_misfits (suits : row.Suits schema) (misfits : part.Misfits schema)
    (given : ∀ operand ∈ part.operands, ∃ type value, operand.typeOf schema = .ok type ∧
      operand.eval schema row = .ok value ∧ value.isNull = false) :
    ∃ error, part.eval schema row = .error error ∧ error.isMismatch = true := by
  cases part with
  | column | literal | isNull => exact misfits.elim
  | binary op left right =>
    obtain ⟨leftType, a, leftTyped, leftDone, leftKnown⟩ := given left (by simp [operands])
    obtain ⟨rightType, b, rightTyped, rightDone, rightKnown⟩ := given right (by simp [operands])
    have leftHas := Scalar.dataType_of_hasType (hasType_of_eval suits leftTyped leftDone) leftKnown
    have rightHas := Scalar.dataType_of_hasType (hasType_of_eval suits rightTyped rightDone) rightKnown
    obtain ⟨error, failed, mismatch⟩ :=
      applyBinary_mismatch (misfits leftType rightType leftTyped rightTyped) leftHas rightHas leftKnown rightKnown
    exact ⟨error, by simp [eval, leftDone, rightDone, failed], mismatch⟩
  | not inner =>
    obtain ⟨type, value, typed, done, known⟩ := given inner (by simp [operands])
    have has := Scalar.dataType_of_hasType (hasType_of_eval suits typed done) known
    have other : type ≠ .boolean := fun same => misfits (same ▸ typed)
    obtain ⟨error, failed, mismatch⟩ := negation_mismatch has other
    exact ⟨error, by simp [eval, done, failed], mismatch⟩

/-- A predicate of type boolean is never at fault as a whole. -/
theorem accepts_cases (suits : row.Suits schema) (typed : e.typeOf schema = .ok .boolean) :
    (∃ b, e.accepts schema row = .ok b) ∨
      ∃ error, e.accepts schema row = .error error ∧ e.eval schema row = .error error := by
  unfold accepts
  cases done : e.eval schema row with
  | error error => exact .inr ⟨error, rfl, rfl⟩
  | ok value =>
    left
    rcases hasType_of_eval suits typed done with rfl | boolean
    · exact ⟨false, rfl⟩
    · cases value <;> cases boolean
      exact ⟨_, rfl⟩

end
end Expr

namespace Plan

/-- An accepted predicate whose columns are known fails only as whole numbers do, by comparing what is not a
number, or at an operation that misfits: a comparison or a NOT, or what stands under NOT or IS NULL. And
every operation that misfits does fail, unless its operands have no values or null. -/
theorem accepted_fails_at {id : NodeId} {input plan : Plan} {predicate : Expr}
    (made : newFilter id input predicate = .ok plan)
    (known : ∀ name ∈ predicate.columns, input.schema.Knows name) {row : Row} (suits : row.Suits input.schema) :
    ((∃ b, predicate.accepts input.schema row = .ok b) ∨
      ∃ error, predicate.accepts input.schema row = .error error ∧
        (error.isWhole = true ∨ error.isUnordered = true ∨
          ∃ part ∈ predicate.parts, part.Raises input.schema row error ∧ part.Misfits input.schema ∧
            (part.typeOf input.schema = .ok .boolean ∨ part ∈ predicate.overlooked))) ∧
    ∀ part ∈ predicate.parts, part.Misfits input.schema →
      (∀ operand ∈ part.operands, ∃ type value, operand.typeOf input.schema = .ok type ∧
        operand.eval input.schema row = .ok value ∧ value.isNull = false) →
      ∃ error, part.eval input.schema row = .error error ∧ error.isMismatch = true := by
  obtain ⟨typed, _⟩ := newFilter_eq_ok.mp made
  refine ⟨?_, fun part _ misfits given => Expr.mismatch_of_misfits suits misfits given⟩
  rcases Expr.accepts_cases suits typed with accepted | ⟨error, failed, origin⟩
  · exact .inl accepted
  · obtain ⟨part, inside, raises⟩ := Expr.raised known origin
    refine .inr ⟨error, failed, ?_⟩
    rcases Expr.misfits_of_raises suits raises with whole | unordered | misfits
    · exact .inl whole
    · exact .inr (.inl unordered)
    · exact .inr (.inr ⟨part, inside, raises, misfits, Expr.boolean_or_overlooked typed inside misfits⟩)

/-- A customer's name compared with a number, or negated. -/
def crossed : Expr :=
  .binary .or (.binary .eq (.column "customer") (.column "ID")) (.not (.column "customer"))

def paidByAda : Row := ⟨[.int32 1, .text "ada", .bool true]⟩

theorem paidByAda_fits : paidByAda.Fits orders.schema :=
  .cons (.inr rfl) (.cons (.inr rfl) (.cons (.inr rfl) .nil))

theorem crossed_knows : ∀ name ∈ crossed.columns, orders.schema.Knows name := by
  intro name member
  rw [show crossed.columns = ["customer", "ID", "customer"] from rfl] at member
  simp only [List.mem_cons, List.not_mem_nil, or_false] at member
  rcases member with rfl | rfl | rfl
  · exact ⟨1, rfl⟩
  · exact ⟨0, rfl⟩
  · exact ⟨1, rfl⟩

theorem crossed_fails_at :
    newFilter ⟨7⟩ orders crossed = .ok (.filter ⟨7⟩ orders crossed) ∧
    (∀ name ∈ crossed.columns, orders.schema.Knows name) ∧ paidByAda.Suits orders.schema ∧
    ∃ error, crossed.accepts orders.schema paidByAda = .error error ∧
      (∃ part ∈ crossed.parts, part.Raises orders.schema paidByAda error ∧ part.Misfits orders.schema) ∧
      ∃ other, (Expr.not (.column "customer")).eval orders.schema paidByAda = .error other ∧
        other.isMismatch = true := by
  have made : newFilter ⟨7⟩ orders crossed = .ok (.filter ⟨7⟩ orders crossed) := by rfl
  have failed : crossed.accepts orders.schema paidByAda =
      .error (.incomparable .eq (.text "ada") (.int32 1)) := by rfl
  obtain ⟨fails, misfit⟩ := accepted_fails_at made crossed_knows paidByAda_fits.suits
  refine ⟨made, crossed_knows, paidByAda_fits.suits, _, failed, ?_, ?_⟩
  · rcases fails with ⟨b, accepted⟩ | ⟨error, again, whole | unordered | ⟨part, inside, raises, misfits, _⟩⟩
    · cases failed.symm.trans accepted
    · cases failed.symm.trans again
      cases whole
    · cases failed.symm.trans again
      cases unordered
    · cases failed.symm.trans again
      exact ⟨part, inside, raises, misfits⟩
  · refine misfit _ (by simp [crossed, Expr.parts]) (fun same => by cases same) fun operand member => ?_
    obtain rfl := List.mem_singleton.mp member
    exact ⟨.utf8, .text "ada", rfl, rfl, rfl⟩

/-- Filters are accepted that compare a text with a number, and that negate a text. -/
theorem not_wellTyped :
    (¬ ∀ (id : NodeId) (input plan : Plan) (predicate : Expr), newFilter id input predicate = .ok plan →
      (∀ name ∈ predicate.columns, input.schema.Knows name) → ∀ row : Row, row.Suits input.schema →
        (∃ b, predicate.accepts input.schema row = .ok b) ∨ ∃ error,
          predicate.accepts input.schema row = .error error ∧ (error.isWhole = true ∨ error.isUnordered = true)) ∧
    ¬ ∀ (id : NodeId) (input plan : Plan) (predicate : Expr), newFilter id input predicate = .ok plan →
      (∀ name ∈ predicate.columns, input.schema.Knows name) → ∀ row : Row, row.Suits input.schema →
        ∀ value, predicate.accepts input.schema row ≠ .error (.notBoolean value) := by
  constructor
  · intro safe
    have either := safe ⟨7⟩ orders _ crossed rfl crossed_knows _ paidByAda_fits.suits
    rcases either with ⟨b, accepted⟩ | ⟨error, failed, fault⟩
    · cases accepted
    · cases failed
      rcases fault with whole | unordered
      · cases whole
      · cases unordered
  · intro safe
    refine safe ⟨7⟩ orders _ (.not (.column "customer")) rfl ?_ _ paidByAda_fits.suits (.text "ada") rfl
    intro name member
    obtain rfl := List.mem_singleton.mp member
    exact ⟨1, rfl⟩

end Plan
end StreamPlan
