import StreamPlan.Expr.Eval
import StreamPlan.Proofs.Built

/-! What an expression can learn of a row. The columns it reports are all it reads, for its value and for
its complaint alike: rows that agree there it cannot tell apart, whatever else they hold and however long
they are. -/
namespace StreamPlan.Expr

/-- The rows hold the same value wherever the expression reports a column, or are both too short for it. -/
def Agree (e : Expr) (schema : Schema) (row other : Row) : Prop :=
  ∀ name ∈ e.columns, ∀ position, schema.index name = some position → row.get? position = other.get? position

variable {e left right : Expr} {op : BinaryOp} {schema : Schema} {row other : Row}

theorem Agree.operands (agree : (Expr.binary op left right).Agree schema row other) :
    left.Agree schema row other ∧ right.Agree schema row other :=
  ⟨fun name member => agree name (List.mem_append_left _ member),
    fun name member => agree name (List.mem_append_right _ member)⟩

theorem Agree.eval (agree : e.Agree schema row other) : e.eval schema row = e.eval schema other := by
  -- on the expression: an operation sees the rows through the results of its operands only
  induction e with
  | column name =>
    have here := agree name (List.mem_singleton_self name)
    simp only [Expr.eval]
    split
    · rename_i position found
      rw [here position found]
    · rfl
  | literal value => rfl
  | binary op left right leftIh rightIh =>
    obtain ⟨leftAgree, rightAgree⟩ := agree.operands
    simp only [Expr.eval, leftIh leftAgree, rightIh rightAgree]
  | not inner ih => simp only [Expr.eval, ih agree]
  | isNull inner negated ih => simp only [Expr.eval, ih agree]

/-- Rows that agree on the reported columns give the same value and pass the same filters, or raise the same
complaint. -/
theorem eval_reported (agree : e.Agree schema row other) :
    e.eval schema row = e.eval schema other ∧ e.accepts schema row = e.accepts schema other := by
  refine ⟨agree.eval, ?_⟩
  unfold accepts
  rw [agree.eval]

/-- Orders paid or of Ada's, over two rows that end before the first of these columns and differ in a third;
and an operation that complains of one of them. -/
theorem adasOrders_reported :
    let orders := Plan.orders.schema
    let row : Row := ⟨[.int32 1, .text "ada"]⟩
    let other : Row := ⟨[.int32 2, .text "ada"]⟩
    let adas : Expr := .binary .or (.column "PAID") (.binary .eq (.column "Customer") (.literal (.text "ada")))
    let next : Expr := .binary .plus (.column "customer") (.literal (.int64 1))
    row ≠ other ∧ adas.Agree orders row other ∧ next.Agree orders row other ∧
      adas.eval orders row = adas.eval orders other ∧ adas.accepts orders row = .ok true ∧
      next.eval orders row = next.eval orders other ∧
      next.eval orders row = .error (.notNumeric .plus (.text "ada") (.int64 1)) := by
  intro orders row other adas next
  have same (position : Nat) (beyond : position ≠ 0) : row.get? position = other.get? position := by
    cases position with
    | zero => exact absurd rfl beyond
    | succ position => rfl
  have agree : adas.Agree orders row other := by
    intro name member position found
    apply same
    rcases List.mem_pair.mp member with rfl | rfl <;> cases found <;> decide
  have also : next.Agree orders row other := by
    intro name member position found
    obtain rfl := List.mem_singleton.mp member
    cases found
    exact same 1 (by decide)
  exact ⟨by decide, agree, also, (eval_reported agree).1, rfl, (eval_reported also).1, rfl⟩

end StreamPlan.Expr
