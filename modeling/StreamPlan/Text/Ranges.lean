/-! Sets of characters given as closed ranges of code points in rising order. -/
namespace StreamPlan.Text

abbrev Ranges := List (Nat × Nat)

/-- The ranges rise, so the first one that ends at or after the character decides. -/
def Ranges.contains : Ranges → Char → Bool
  | [], _ => false
  | (first, last) :: rest, c => if c.toNat ≤ last then first ≤ c.toNat else Ranges.contains rest c

end StreamPlan.Text
