/-! Letter case is folded for ASCII letters only; every other character is its own fold. -/
namespace StreamPlan.Text

def lower (s : String) : String := String.ofList (s.toList.map Char.toLower)

/-- The texts differ at most in the case of ASCII letters. -/
def sameIgnoringCase (a b : String) : Bool := lower a == lower b

@[simp] theorem sameIgnoringCase_iff {a b : String} : sameIgnoringCase a b = true ↔ lower a = lower b := by
  simp [sameIgnoringCase]

@[simp] theorem sameIgnoringCase_self (a : String) : sameIgnoringCase a a = true := by simp

theorem sameIgnoringCase_comm (a b : String) : sameIgnoringCase a b = sameIgnoringCase b a := by
  rw [Bool.eq_iff_iff, sameIgnoringCase_iff, sameIgnoringCase_iff, eq_comm]

theorem sameIgnoringCase_trans {a b c : String} (first : sameIgnoringCase a b = true)
    (second : sameIgnoringCase b c = true) : sameIgnoringCase a c = true :=
  sameIgnoringCase_iff.mpr ((sameIgnoringCase_iff.mp first).trans (sameIgnoringCase_iff.mp second))

theorem sameIgnoringCase_symm {a b : String} (same : sameIgnoringCase a b = true) :
    sameIgnoringCase b a = true :=
  (sameIgnoringCase_comm b a).trans same

end StreamPlan.Text
