import StreamPlan.Proofs.ValueTypes
import StreamPlan.Run.Basic

/-! Filtering by a conjunction and filtering twice. The second of two filters never sees the rows the
first turned away, the conjunction is asked of all of them; where it can answer, the same rows pass. -/
namespace StreamPlan

/-- Only true lets a row through; unknown and false turn it away alike. -/
def Scalar.admits (value : Scalar) : Bool := value.asBool == some true

namespace Expr

variable {schema : Schema} {row : Row} {p q : Expr} {verdict : Bool}

theorem admits_conjunction (left right : Scalar) :
    (conjunction left.asBool right.asBool).admits = (left.admits && right.admits) := by
  unfold Scalar.admits
  rcases left.asBool with _ | _ | _ <;> rcases right.asBool with _ | _ | _ <;> rfl

/-- The verdict on a row is a matter of the value alone where that is a boolean or null. -/
theorem accepts_of_hasType (boolean : ∀ value, p.eval schema row = .ok value → value.HasType .boolean) :
    p.accepts schema row = .ok verdict ↔ ∃ value, p.eval schema row = .ok value ∧ value.admits = verdict := by
  unfold accepts
  cases evaluated : p.eval schema row with
  | error e => simp
  | ok value =>
    rcases boolean value evaluated with rfl | typed
    · simp [Scalar.admits, Scalar.asBool]
    · cases value <;> cases typed
      simp [truth, Scalar.admits, Scalar.asBool]

theorem accepts_of_typed (suits : row.Suits schema) (typed : p.typeOf schema = .ok .boolean) :
    p.accepts schema row = .ok verdict ↔ ∃ value, p.eval schema row = .ok value ∧ value.admits = verdict :=
  accepts_of_hasType fun _ evaluated => hasType_of_eval suits typed evaluated

/-- Both sides of a conjunction are evaluated, whatever the first of them gives. -/
theorem accepts_and :
    (Expr.binary .and p q).accepts schema row = .ok verdict ↔
      ∃ left right, p.eval schema row = .ok left ∧ q.eval schema row = .ok right ∧
        (left.admits && right.admits) = verdict := by
  have evaluates {value : Scalar} : (Expr.binary .and p q).eval schema row = .ok value ↔
      ∃ left, p.eval schema row = .ok left ∧ ∃ right, q.eval schema row = .ok right ∧
        conjunction left.asBool right.asBool = value := by
    simp only [eval, bind_eq_ok, applyBinary, Except.ok.injEq]
  rw [accepts_of_hasType]
  · constructor
    · rintro ⟨_, evaluated, rfl⟩
      obtain ⟨left, leftEvaluated, right, rightEvaluated, rfl⟩ := evaluates.mp evaluated
      exact ⟨left, right, leftEvaluated, rightEvaluated, (admits_conjunction left right).symm⟩
    · rintro ⟨left, right, leftEvaluated, rightEvaluated, rfl⟩
      exact ⟨_, evaluates.mpr ⟨left, leftEvaluated, right, rightEvaluated, rfl⟩, admits_conjunction left right⟩
  · intro value evaluated
    obtain ⟨left, _, right, _, rfl⟩ := evaluates.mp evaluated
    exact conjunction_hasType _ _

/-- A conjunction has a verdict on a row exactly where its first side has one and its second a value. -/
theorem answers_and (suits : row.Suits schema) (typed : p.typeOf schema = .ok .boolean) :
    (∃ verdict, (Expr.binary .and p q).accepts schema row = .ok verdict) ↔
      (∃ verdict, p.accepts schema row = .ok verdict) ∧ ∃ value, q.eval schema row = .ok value := by
  simp only [accepts_and, accepts_of_typed suits typed]
  constructor
  · rintro ⟨_, left, right, leftEvaluated, rightEvaluated, _⟩
    exact ⟨⟨_, left, leftEvaluated, rfl⟩, right, rightEvaluated⟩
  · rintro ⟨⟨_, left, leftEvaluated, _⟩, right, rightEvaluated⟩
    exact ⟨_, left, right, leftEvaluated, rightEvaluated, rfl⟩

theorem accepts_and_true (suits : row.Suits schema) (typed : p.typeOf schema = .ok .boolean)
    (also : q.typeOf schema = .ok .boolean) :
    (Expr.binary .and p q).accepts schema row = .ok true ↔
      p.accepts schema row = .ok true ∧ q.accepts schema row = .ok true := by
  simp only [accepts_and, accepts_of_typed suits typed, accepts_of_typed suits also, Bool.and_eq_true]
  constructor
  · rintro ⟨left, right, leftEvaluated, rightEvaluated, leftAdmits, rightAdmits⟩
    exact ⟨⟨left, leftEvaluated, leftAdmits⟩, right, rightEvaluated, rightAdmits⟩
  · rintro ⟨⟨left, leftEvaluated, leftAdmits⟩, right, rightEvaluated, rightAdmits⟩
    exact ⟨left, right, leftEvaluated, rightEvaluated, leftAdmits, rightAdmits⟩

end Expr

namespace Run

variable {schema : Schema} {p q : Expr} {records passed : List Record}

/-- The records that are let through, whatever becomes of those the predicate has no answer for. -/
def admitted (schema : Schema) (predicate : Expr) (records : List Record) : List Record :=
  records.filter fun record => predicate.accepts schema record.row = .ok true

theorem filter_eq_ok {predicate : Expr} :
    filter schema predicate records = .ok passed ↔
      (∀ record ∈ records, ∃ verdict, predicate.accepts schema record.row = .ok verdict) ∧
        admitted schema predicate records = passed := by
  induction records generalizing passed with
  | nil => simp [filter, admitted]
  | cons record rest ih =>
    simp only [filter, bind_eq_ok, pure_eq_ok, Except.ok.injEq, ih, List.forall_mem_cons]
    constructor
    · rintro ⟨verdict, asked, _, ⟨answered, rfl⟩, rfl⟩
      refine ⟨⟨⟨verdict, asked⟩, answered⟩, ?_⟩
      cases verdict <;> simp [admitted, asked]
    · rintro ⟨⟨⟨verdict, asked⟩, answered⟩, rfl⟩
      refine ⟨verdict, asked, _, ⟨answered, rfl⟩, ?_⟩
      cases verdict <;> simp [admitted, asked]

theorem admitted_and (suits : ∀ record ∈ records, record.row.Suits schema)
    (typed : p.typeOf schema = .ok .boolean) (also : q.typeOf schema = .ok .boolean) :
    admitted schema (.binary .and p q) records = admitted schema q (admitted schema p records) := by
  unfold admitted
  rw [List.filter_filter]
  refine List.filter_congr fun record member => ?_
  rw [← Bool.decide_and, decide_eq_decide, Expr.accepts_and_true (suits record member) typed also, and_comm]

/-- A filter by a conjunction that has an answer for every row is two filters. The other way round the
second predicate needs a value for the rows that the first turned away, too. -/
theorem filter_and (suits : ∀ record ∈ records, record.row.Suits schema)
    (typed : p.typeOf schema = .ok .boolean) (also : q.typeOf schema = .ok .boolean) :
    filter schema (.binary .and p q) records = .ok passed ↔
      (∀ record ∈ records, ∃ value, q.eval schema record.row = .ok value) ∧
        ∃ first, filter schema p records = .ok first ∧ filter schema q first = .ok passed := by
  have answers := fun record member => Expr.answers_and (q := q) (suits record member) typed
  simp only [filter_eq_ok, admitted_and suits typed also]
  constructor
  · rintro ⟨answered, rfl⟩
    have sides := fun record member => (answers record member).mp (answered record member)
    refine ⟨fun record member => (sides record member).2, _, ⟨fun record member => (sides record member).1, rfl⟩,
      fun record kept => ?_, rfl⟩
    have member := List.mem_of_mem_filter kept
    obtain ⟨value, evaluated⟩ := (sides record member).2
    exact ⟨_, (Expr.accepts_of_typed (suits record member) also).mpr ⟨value, evaluated, rfl⟩⟩
  · rintro ⟨valued, first, ⟨answered, rfl⟩, _, rfl⟩
    exact ⟨fun record member => (answers record member).mpr ⟨answered record member, valued record member⟩, rfl⟩

theorem filter_and_orders :
    let paid : Expr := .column "PAID"
    let later : Expr := .binary .gt (.column "id") (.literal (.int64 1))
    let records : List Record := [⟨"1", ⟨[.int32 1, .text "ada", .bool true]⟩⟩, ⟨"2", ⟨[.int32 2, .null, .null]⟩⟩,
      ⟨"", ⟨[.null, .text "bob", .bool true]⟩⟩, ⟨"4", ⟨[.int32 4, .text "cy", .bool true]⟩⟩]
    let passed : List Record := [⟨"4", ⟨[.int32 4, .text "cy", .bool true]⟩⟩]
    (∀ record ∈ records, record.row.Suits Plan.orders.schema) ∧
      paid.typeOf Plan.orders.schema = .ok .boolean ∧ later.typeOf Plan.orders.schema = .ok .boolean ∧
      filter Plan.orders.schema (.binary .and paid later) records = .ok passed ∧
      ∃ first, filter Plan.orders.schema paid records = .ok first ∧
        filter Plan.orders.schema later first = .ok passed := by
  intro paid later records passed
  have suits : ∀ record ∈ records, record.row.Suits Plan.orders.schema := by
    have fits (id customer paid : Scalar) (whole : id.HasType .int32) (text : customer.HasType .utf8)
        (flag : paid.HasType .boolean) : (Row.mk [id, customer, paid]).Suits Plan.orders.schema :=
      Row.Fits.suits (.cons whole (.cons text (.cons flag .nil)))
    simp only [records, List.forall_mem_cons]
    exact ⟨fits _ _ _ (.inr rfl) (.inr rfl) (.inr rfl), fits _ _ _ (.inr rfl) (.inl rfl) (.inl rfl),
      fits _ _ _ (.inl rfl) (.inr rfl) (.inr rfl), fits _ _ _ (.inr rfl) (.inr rfl) (.inr rfl), by simp⟩
  have typed : paid.typeOf Plan.orders.schema = .ok .boolean := by rfl
  have also : later.typeOf Plan.orders.schema = .ok .boolean := by rfl
  have filtered : filter Plan.orders.schema (.binary .and paid later) records = .ok passed := by rfl
  exact ⟨suits, typed, also, filtered, ((filter_and suits typed also).mp filtered).2⟩

/-- The conjunction divides by the zero that the first filter keeps from the second. -/
example :
    let schema : Schema := ⟨[⟨"n", .int64, false⟩]⟩
    let records : List Record := [⟨"0", ⟨[.int64 0]⟩⟩]
    let nonzero : Expr := .binary .notEq (.column "n") (.literal (.int64 0))
    let divides : Expr := .binary .gt (.binary .divide (.literal (.int64 6)) (.column "n")) (.literal (.int64 1))
    filter schema nonzero records = .ok [] ∧ filter schema divides [] = .ok [] ∧
      filter schema (.binary .and nonzero divides) records = .error .divisionByZero := by
  decide

end Run
end StreamPlan
