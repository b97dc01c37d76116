import StreamPlan.Proofs.ValueTypes
import StreamPlan.Run.Basic

/-! Columns an expression names and its schema does not have. Typing looks up what an operator needs the
type of; what stands under NOT or IS NULL it passes over, so there, and nowhere else, an unknown column
stays unnoticed. Evaluation looks up every name, and no row makes up for an unknown one. -/
namespace StreamPlan

def Schema.Knows (schema : Schema) (name : String) : Prop := ∃ position, schema.index name = some position

theorem Schema.knows_of_find {schema : Schema} {name : String} {field : Field}
    (found : schema.find name = some field) : schema.Knows name := by
  obtain ⟨position, index, _⟩ := find_eq_some_iff.mp found
  exact ⟨position, index⟩

namespace Expr

/-- The names that typing looks up. -/
def typedColumns : Expr → List String
  | .column name => [name]
  | .literal _ => []
  | .binary _ left right => left.typedColumns ++ right.typedColumns
  | .not _ => []
  | .isNull _ _ => []

/-- The names that typing passes over. -/
def passedColumns : Expr → List String
  | .column _ => []
  | .literal _ => []
  | .binary _ left right => left.passedColumns ++ right.passedColumns
  | .not inner => inner.columns
  | .isNull inner _ => inner.columns

theorem mem_columns_iff {e : Expr} {name : String} :
    name ∈ e.columns ↔ name ∈ e.typedColumns ∨ name ∈ e.passedColumns := by
  induction e with
  | column | literal | not | isNull => simp [columns, typedColumns, passedColumns]
  | binary op left right leftIh rightIh =>
    simp only [columns, typedColumns, passedColumns, List.mem_append, leftIh, rightIh]
    exact or_or_or_comm

section
variable {schema : Schema} {row : Row} {e : Expr} {name : String}

theorem knows_typed {type : DataType} (typed : e.typeOf schema = .ok type) :
    ∀ name ∈ e.typedColumns, schema.Knows name := by
  induction e generalizing type with
  | column name =>
    intro other member
    obtain rfl := List.mem_singleton.mp member
    cases found : schema.find other with
    | none => simp [typeOf, found] at typed
    | some field => exact Schema.knows_of_find found
  | literal | not | isNull =>
    intro other member
    cases member
  | binary op left right leftIh rightIh =>
    simp only [typeOf, bind_eq_ok] at typed
    obtain ⟨_, leftTyped, _, rightTyped, _⟩ := typed
    exact fun other member => (List.mem_append.mp member).elim (leftIh leftTyped other) (rightIh rightTyped other)

/-- A value comes only of columns that are all known. -/
theorem knows_of_eval {value : Scalar} (evaluated : e.eval schema row = .ok value) :
    ∀ name ∈ e.columns, schema.Knows name := by
  induction e generalizing value with
  | column name =>
    intro other member
    obtain rfl := List.mem_singleton.mp member
    cases found : schema.index other with
    | none => simp [eval, found] at evaluated
    | some position => exact ⟨position, found⟩
  | literal =>
    intro other member
    cases member
  | binary op left right leftIh rightIh =>
    simp only [eval, bind_eq_ok] at evaluated
    obtain ⟨_, leftDone, _, rightDone, _⟩ := evaluated
    exact fun other member => (List.mem_append.mp member).elim (leftIh leftDone other) (rightIh rightDone other)
  | not inner ih =>
    obtain ⟨_, done, _⟩ := bind_eq_ok.mp evaluated
    exact ih done
  | isNull inner negated ih =>
    obtain ⟨_, done, _⟩ := bind_eq_ok.mp evaluated
    exact ih done

theorem truth_ne_unknown (value : Scalar) : truth value ≠ .error (.unknownColumn name) := by
  unfold truth
  cases value.asBool <;> simp

theorem negation_ne_unknown (value : Scalar) : negation value ≠ .error (.unknownColumn name) := by
  unfold negation
  split
  · simp
  · intro failed
    rcases bind_eq_error.mp failed with failed | ⟨_, _, failed⟩
    · exact truth_ne_unknown value failed
    · cases failed

theorem wholeResult_ne_unknown (op : BinaryOp) (left right : Int) :
    wholeResult op left right ≠ .error (.unknownColumn name) := by
  unfold wholeResult
  split
  · simp
  · simp
  · simp
  · split <;> simp

theorem wholeArithmetic_ne_unknown (op : BinaryOp) (narrow : Bool) (left right : Int) :
    wholeArithmetic op narrow left right ≠ .error (.unknownColumn name) := by
  intro failed
  rcases bind_eq_error.mp failed with failed | ⟨result, _, failed⟩
  · exact wholeResult_ne_unknown op left right failed
  · simp only [throw_eq_error, error_bind, pure_eq_ok] at failed
    split_ifs at failed <;> cases failed

theorem applyBinary_ne_unknown (op : BinaryOp) (left right : Scalar) :
    applyBinary op left right ≠ .error (.unknownColumn name) := by
  unfold applyBinary comparison arithmetic
  intro failed
  split at failed
  · cases failed
  · cases failed
  · split at failed
    · cases failed
    · split at failed
      · split at failed <;> cases failed
      · split at failed
        · exact wholeArithmetic_ne_unknown _ _ _ _ failed
        · split at failed <;> cases failed

/-- An evaluation that fails for an unknown column names one it mentions, and rightly. -/
theorem unknown_of_eval (failed : e.eval schema row = .error (.unknownColumn name)) :
    name ∈ e.columns ∧ ¬ schema.Knows name := by
  induction e with
  | column =>
    simp only [eval] at failed
    split at failed
    · cases failed
    · rename_i unknown
      cases failed
      refine ⟨List.mem_singleton_self _, ?_⟩
      rintro ⟨position, found⟩
      cases unknown.symm.trans found
  | literal => cases failed
  | binary op left right leftIh rightIh =>
    rcases bind_eq_error.mp failed with failed | ⟨_, _, failed⟩
    · exact (leftIh failed).imp_left (List.mem_append_left _)
    · rcases bind_eq_error.mp failed with failed | ⟨_, _, failed⟩
      · exact (rightIh failed).imp_left (List.mem_append_right _)
      · exact absurd failed (applyBinary_ne_unknown _ _ _)
  | not inner ih =>
    rcases bind_eq_error.mp failed with failed | ⟨value, _, failed⟩
    · exact ih failed
    · exact absurd failed (negation_ne_unknown value)
  | isNull inner negated ih =>
    rcases bind_eq_error.mp failed with failed | ⟨_, _, failed⟩
    · exact ih failed
    · cases failed

theorem accepts_eq_unknown :
    e.accepts schema row = .error (.unknownColumn name) ↔ e.eval schema row = .error (.unknownColumn name) := by
  unfold accepts
  constructor
  · intro failed
    rcases bind_eq_error.mp failed with failed | ⟨value, _, failed⟩
    · exact failed
    · split at failed
      · cases failed
      · exact absurd failed (truth_ne_unknown value)
  · intro failed
    rw [failed, error_bind]

/-- What is unknown to the schema of a typed expression has been passed over. -/
theorem passed_of_unknown {type : DataType} (typed : e.typeOf schema = .ok type) (member : name ∈ e.columns)
    (unknown : ¬ schema.Knows name) : name ∈ e.passedColumns :=
  (mem_columns_iff.mp member).resolve_left fun looked => unknown (knows_typed typed name looked)

end
end Expr

theorem Run.unknown_of_projectRow {schema : Schema} {expressions : List Expr} {row : Row} {name : String}
    (failed : Run.projectRow schema expressions row = .error (.unknownColumn name)) :
    ∃ e ∈ expressions, e.eval schema row = .error (.unknownColumn name) := by
  rcases bind_eq_error.mp failed with failed | ⟨_, _, failed⟩
  · exact exists_of_mapM_eq_error failed
  · cases failed

namespace Plan

/-- The columns of a typed expression are known just where those under NOT and IS NULL are; one that is
not leaves the expression without a value over every row, and no other unknown column gets past the checks
of a filter or a projection. -/
theorem unknown_passedOver (schema : Schema) :
    (∀ (e : Expr) (type : DataType), e.typeOf schema = .ok type →
      ((∀ name ∈ e.columns, schema.Knows name) ↔ ∀ name ∈ e.passedColumns, schema.Knows name) ∧
      ∀ name ∈ e.columns, ¬ schema.Knows name →
        name ∉ e.typedColumns ∧ ∀ row value, e.eval schema row ≠ .ok value) ∧
    (∀ (id : NodeId) (input plan : Plan) (predicate : Expr), input.schema = schema →
      newFilter id input predicate = .ok plan →
        ∀ row name, predicate.accepts schema row = .error (.unknownColumn name) →
          name ∈ predicate.passedColumns ∧ ¬ schema.Knows name) ∧
    (∀ (id : NodeId) (input plan : Plan) (projected : Schema) (expressions : List Expr), input.schema = schema →
      newProject id input projected expressions = .ok plan →
        ∀ row name, Run.projectRow schema expressions row = .error (.unknownColumn name) →
          ∃ e ∈ expressions, name ∈ e.passedColumns ∧ ¬ schema.Knows name) := by
  refine ⟨?_, ?_, ?_⟩
  · intro e type typed
    constructor
    · constructor
      · exact fun known name passed => known name (Expr.mem_columns_iff.mpr (.inr passed))
      · intro known name member
        exact (Expr.mem_columns_iff.mp member).elim (Expr.knows_typed typed name) (known name)
    · intro name member unknown
      refine ⟨fun looked => unknown (Expr.knows_typed typed name looked), fun row value evaluated => ?_⟩
      exact unknown (Expr.knows_of_eval evaluated name member)
  · rintro id input plan predicate rfl made row name failed
    obtain ⟨typed, _⟩ := newFilter_eq_ok.mp made
    obtain ⟨member, unknown⟩ := Expr.unknown_of_eval (Expr.accepts_eq_unknown.mp failed)
    exact ⟨Expr.passed_of_unknown typed member unknown, unknown⟩
  · rintro id input plan projected expressions rfl made row name failed
    obtain ⟨_, types, _⟩ := newProject_eq_ok made
    obtain ⟨e, inside, failed⟩ := Run.unknown_of_projectRow failed
    obtain ⟨type, typed⟩ := types e inside
    obtain ⟨member, unknown⟩ := Expr.unknown_of_eval failed
    exact ⟨e, inside, Expr.passed_of_unknown typed member unknown, unknown⟩

/-- Paid orders that were not refunded, of which orders say nothing. -/
def unrefunded : Expr := .binary .and (.column "paid") (.not (.column "refunded"))

theorem orders_unknown_refunded : ¬ orders.schema.Knows "refunded" := by
  rintro ⟨position, found⟩
  cases found

theorem unrefunded_passedOver :
    unrefunded.typeOf orders.schema = .ok .boolean ∧ "refunded" ∈ unrefunded.columns ∧
      (∀ row value, unrefunded.eval orders.schema row ≠ .ok value) ∧
      (∃ plan, newFilter ⟨7⟩ orders unrefunded = .ok plan) ∧
      (∃ plan, newProject ⟨7⟩ orders ⟨[⟨"kept", .boolean, true⟩]⟩ [unrefunded] = .ok plan) ∧
      ∃ row, unrefunded.accepts orders.schema row = .error (.unknownColumn "refunded") ∧
        Run.projectRow orders.schema [unrefunded] row = .error (.unknownColumn "refunded") ∧
        "refunded" ∈ unrefunded.passedColumns ∧ ∃ e ∈ [unrefunded], "refunded" ∈ e.passedColumns := by
  have typed : unrefunded.typeOf orders.schema = .ok .boolean := by rfl
  have member : "refunded" ∈ unrefunded.columns := by decide
  have filtered : newFilter ⟨7⟩ orders unrefunded = .ok (.filter ⟨7⟩ orders unrefunded) := by rfl
  have projected : newProject ⟨7⟩ orders ⟨[⟨"kept", .boolean, true⟩]⟩ [unrefunded] =
      .ok (.project ⟨7⟩ orders ⟨[⟨"kept", .boolean, true⟩]⟩ [unrefunded]) := by rfl
  have turned : unrefunded.accepts orders.schema ⟨[]⟩ = .error (.unknownColumn "refunded") := by rfl
  have computed : Run.projectRow orders.schema [unrefunded] ⟨[]⟩ = .error (.unknownColumn "refunded") := by rfl
  obtain ⟨expression, filter, projection⟩ := unknown_passedOver orders.schema
  obtain ⟨e, inside, passed, _⟩ := projection _ _ _ _ _ rfl projected _ _ computed
  have valueless := ((expression _ _ typed).2 _ member orders_unknown_refunded).2
  exact ⟨typed, member, valueless, ⟨_, filtered⟩, ⟨_, projected⟩, ⟨[]⟩, turned, computed,
    (filter _ _ _ _ rfl filtered _ _ turned).1, e, inside, passed⟩

/-- Having a type does not make the columns of an expression known, nor keep an accepted filter from
failing over one that is not. -/
theorem not_ruledOut :
    (¬ ∀ (schema : Schema) (e : Expr) (type : DataType), e.typeOf schema = .ok type →
      ∀ name ∈ e.columns, schema.Knows name) ∧
    ¬ ∀ (id : NodeId) (input plan : Plan) (predicate : Expr), newFilter id input predicate = .ok plan →
      ∀ row name, predicate.accepts input.schema row ≠ .error (.unknownColumn name) := by
  constructor
  · intro known
    exact orders_unknown_refunded (known orders.schema unrefunded .boolean rfl "refunded" (by decide))
  · intro ruledOut
    exact ruledOut ⟨7⟩ orders _ unrefunded rfl ⟨[.int32 1, .null, .bool true]⟩ "refunded" rfl

end Plan
end StreamPlan
