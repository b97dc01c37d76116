import Mathlib.Tactic.FieldSimp
import StreamPlan.Decimal.Shortest
import StreamPlan.Proofs.Rounding

/-! The digits chosen for a floating-point word read back as it: they are a number that rounds to the
word. That no fewer digits would do is not claimed. -/
namespace StreamPlan.Decimal

def worth (significand : Nat) (exponent : Int) : ℚ := significand * 10 ^ exponent
def Figures.worth (figures : Figures) : ℚ := Decimal.worth figures.significand figures.exponent

/-- A power of two in steps of `10 ^ tensOf power`. -/
def unitOf (power : Int) : Nat := if 0 ≤ power then twoTo power.toNat else Nat.pow 5 (-power).toNat
def tensOf (power : Int) : Int := if 0 ≤ power then 0 else power

/-- Whether so many steps read back as the word. -/
def keeps (mantissa : Nat) (power : Int) (narrow : Bool) (candidate : Nat) : Bool :=
  if mantissa % 2 = 0 then
    (4 * mantissa - gap narrow) * unitOf power ≤ 4 * candidate &&
      4 * candidate ≤ (4 * mantissa + 2) * unitOf power
  else
    (4 * mantissa - gap narrow) * unitOf power < 4 * candidate &&
      4 * candidate < (4 * mantissa + 2) * unitOf power

section
variable {mantissa : Nat} (some_mantissa : mantissa ≠ 0) (power : Int) (narrow : Bool)

theorem unitOf_pos : 0 < unitOf power := by
  unfold unitOf
  split
  · exact Nat.two_pow_pos _
  · exact Nat.pow_pos (by decide)

theorem two_zpow_eq : (2 : ℚ) ^ power = unitOf power * 10 ^ tensOf power := by
  unfold unitOf tensOf
  split
  · rename_i whole
    obtain ⟨n, rfl⟩ := Int.eq_ofNat_of_zero_le whole
    simp [twoTo_eq]
  · rename_i fraction
    obtain ⟨n, rfl⟩ : ∃ n : Nat, power = -n := ⟨(-power).toNat, by omega⟩
    have tenths : (10 : ℚ) ^ n = 2 ^ n * 5 ^ n := by
      rw [← mul_pow]
      norm_num
    have fives : ((Nat.pow 5 n : Nat) : ℚ) = 5 ^ n := Nat.cast_pow 5 n
    simp only [neg_neg, Int.toNat_natCast, zpow_neg, zpow_natCast, tenths, fives]
    field_simp

include some_mantissa

theorem keeps_iff (candidate : Nat) :
    keeps mantissa power narrow candidate = true ↔
      ReadsBack mantissa power narrow (worth candidate (tensOf power)) := by
  have step : (0 : ℚ) < 10 ^ tensOf power := by positivity
  have wide : gap narrow ≤ 4 * mantissa := by
    unfold gap
    split <;> omega
  have low : (4 * mantissa - gap narrow : ℚ) * 2 ^ power =
      ((4 * mantissa - gap narrow) * unitOf power : Nat) * 10 ^ tensOf power := by
    rw [two_zpow_eq]
    push_cast [Nat.cast_sub wide]
    ring
  have high : (4 * mantissa + 2 : ℚ) * 2 ^ power =
      ((4 * mantissa + 2) * unitOf power : Nat) * 10 ^ tensOf power := by
    rw [two_zpow_eq]
    push_cast
    ring
  have here : 4 * worth candidate (tensOf power) = (4 * candidate : Nat) * 10 ^ tensOf power := by
    unfold worth
    push_cast
    ring
  unfold ReadsBack keeps
  rw [low, high, here]
  simp only [mul_le_mul_iff_of_pos_right step, mul_lt_mul_iff_of_pos_right step, Nat.cast_le, Nat.cast_lt]
  split <;> simp

theorem keeps_exact : keeps mantissa power narrow (mantissa * unitOf power) = true := by
  have some_unit := unitOf_pos power
  have wide : 0 < gap narrow := by
    unfold gap
    split <;> omega
  have low : (4 * mantissa - gap narrow) * unitOf power < 4 * (mantissa * unitOf power) := by
    rw [← Nat.mul_assoc]
    exact Nat.mul_lt_mul_of_pos_right (by omega) some_unit
  have high : 4 * (mantissa * unitOf power) < (4 * mantissa + 2) * unitOf power := by
    rw [← Nat.mul_assoc]
    exact Nat.mul_lt_mul_of_pos_right (by omega) some_unit
  unfold keeps
  split
  · simp [low.le, high.le]
  · simp [low, high]

end

theorem nearer_eq (tie : Tie) (exact grid below : Nat) :
    nearer tie exact grid below = below ∨ nearer tie exact grid below = below + 1 := by
  unfold nearer
  split
  · exact .inl rfl
  · split
    · exact .inr rfl
    · cases tie with
      | up => exact .inr rfl
      | even => rcases Nat.mod_two_eq_zero_or_one below with even | odd <;> simp [*]

/-- What is found is inside if the exact value is. -/
theorem search_inside {inside : Nat → Bool} {exact : Nat} (own : inside exact = true) (tie : Tie)
    (places : Nat) : inside ((search inside tie exact places).1 * 10 ^ (search inside tie exact places).2) = true := by
  -- fewer places are tried in turn, and with none left the value itself is taken
  induction places with
  | zero => simpa [search] using own
  | succ places ih =>
    unfold search
    dsimp only
    split
    · rename_i below above
      rcases nearer_eq tie exact (Nat.pow 10 (places + 1)) (exact / Nat.pow 10 (places + 1)) with same | same
      · rw [same]
        exact below
      · rw [same]
        exact above
    · assumption
    · assumption
    · exact ih

theorem worth_ten (exponent : Int) : worth 1 (exponent + 1) = worth 10 exponent := by
  unfold worth
  rw [zpow_add_one₀ (by norm_num)]
  push_cast
  ring

theorem worth_mul_pow (digits places : Nat) (tens : Int) :
    worth (digits * 10 ^ places) tens = worth digits (tens + places) := by
  unfold worth
  rw [zpow_add₀ (by norm_num), zpow_natCast]
  push_cast
  ring

theorem shortest_eq (tie : Tie) (mantissa : Nat) (power : Int) (narrow : Bool) :
    shortest tie mantissa power narrow =
      let found := search (keeps mantissa power narrow) tie (mantissa * unitOf power)
        ((Nat.repr (mantissa * unitOf power)).length - 1)
      if found.1 = 10 then ⟨1, tensOf power + found.2 + 1⟩ else ⟨found.1, tensOf power + found.2⟩ := rfl

/-- The digits of a word are those of a number that rounds to it. -/
theorem shortest_readsBack (tie : Tie) {mantissa : Nat} (some_mantissa : mantissa ≠ 0) (power : Int)
    (narrow : Bool) :
    ReadsBack mantissa power narrow (shortest tie mantissa power narrow).worth := by
  have found := search_inside (keeps_exact some_mantissa power narrow) tie
    ((Nat.repr (mantissa * unitOf power)).length - 1)
  have reads := (keeps_iff some_mantissa power narrow _).mp found
  rw [worth_mul_pow] at reads
  rw [shortest_eq]
  dsimp only
  split
  · rename_i ten
    rw [ten, ← worth_ten] at reads
    exact reads
  · exact reads

end StreamPlan.Decimal
