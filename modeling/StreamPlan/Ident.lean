import StreamPlan.Decimal.Whole

/-! Numbers that name plan nodes and recorded stages. -/
namespace StreamPlan

structure NodeId where
  number : Nat
deriving DecidableEq, Repr, Inhabited

structure StageId where
  number : Nat
deriving DecidableEq, Repr, Inhabited

def NodeId.display (id : NodeId) : String := s!"NodeId({Decimal.countText id.number})"
def StageId.display (id : StageId) : String := s!"StageId({Decimal.countText id.number})"

end StreamPlan
