import Mathlib.Algebra.Order.Field.Power
import Mathlib.Tactic.Linarith
import Mathlib.Tactic.Positivity
import Mathlib.Tactic.Ring
import StreamPlan.Decimal.Binary

/-! Which numbers round to a floating-point word. The numbers of two words of one width do not
overlap: where they touch, half way between neighbours, only the word of even mantissa has the point. -/
namespace StreamPlan.Decimal

theorem twoTo_eq (n : Nat) : twoTo n = 2 ^ n := rfl

/-- Quarters of a unit from a word to where the word below it takes over. -/
def gap (narrow : Bool) : Nat := if narrow then 1 else 2

/-- The word of this mantissa and power is the nearest to the number, and the even one of two. -/
def ReadsBack (mantissa : Nat) (power : Int) (narrow : Bool) (x : ℚ) : Prop :=
  if mantissa % 2 = 0 then
    (4 * mantissa - gap narrow : ℚ) * 2 ^ power ≤ 4 * x ∧ 4 * x ≤ (4 * mantissa + 2) * 2 ^ power
  else (4 * mantissa - gap narrow : ℚ) * 2 ^ power < 4 * x ∧ 4 * x < (4 * mantissa + 2) * 2 ^ power

namespace ReadsBack

variable {mantissa : Nat} {power : Int} {narrow : Bool} {x : ℚ}

theorem low (reads : ReadsBack mantissa power narrow x) :
    (4 * mantissa - gap narrow : ℚ) * 2 ^ power ≤ 4 * x := by
  unfold ReadsBack at reads
  split at reads
  · exact reads.1
  · exact reads.1.le

theorem high (reads : ReadsBack mantissa power narrow x) : 4 * x ≤ (4 * mantissa + 2) * 2 ^ power := by
  unfold ReadsBack at reads
  split at reads
  · exact reads.2
  · exact reads.2.le

theorem low_lt (reads : ReadsBack mantissa power narrow x) (odd : mantissa % 2 = 1) :
    (4 * mantissa - gap narrow : ℚ) * 2 ^ power < 4 * x := by
  rw [ReadsBack, if_neg (by omega)] at reads
  exact reads.1

theorem lt_high (reads : ReadsBack mantissa power narrow x) (odd : mantissa % 2 = 1) :
    4 * x < (4 * mantissa + 2) * 2 ^ power := by
  rw [ReadsBack, if_neg (by omega)] at reads
  exact reads.2

theorem pos (reads : ReadsBack mantissa power narrow x) (some_mantissa : mantissa ≠ 0) : 0 < x := by
  have least : (1 : ℚ) ≤ mantissa := by exact_mod_cast Nat.one_le_iff_ne_zero.mpr some_mantissa
  have wide : (gap narrow : ℚ) ≤ 2 := by cases narrow <;> norm_num [gap]
  have unit : (0 : ℚ) < 2 ^ power := by positivity
  have quarters : (0 : ℚ) < (4 * mantissa - gap narrow) * 2 ^ power := mul_pos (by linarith) unit
  linarith [reads.low]

end ReadsBack

namespace Width

variable {w : Width} {mantissa other : Nat} {power later : Int} {x : ℚ}

/-- A mantissa and a power under which the width keeps a magnitude: of full length, except at the
least power. -/
structure Canonical (w : Width) (mantissa : Nat) (power : Int) : Prop where
  short : mantissa < 2 * twoTo w.fractionBits
  least : w.lowest ≤ power
  full : w.lowest < power → twoTo w.fractionBits ≤ mantissa

def isNarrow (w : Width) (mantissa : Nat) (power : Int) : Bool :=
  decide (mantissa = twoTo w.fractionBits ∧ w.lowest < power)

/-- Under one power the numbers of a lesser mantissa end before those of a greater begin. -/
theorem not_readsBack_of_lt (less : mantissa < other) {narrow also : Bool}
    (reads : ReadsBack mantissa power narrow x) : ¬ ReadsBack other power also x := by
  intro readsOther
  have unit : (0 : ℚ) < 2 ^ power := by positivity
  have wide : (gap also : ℚ) ≤ 2 := by cases also <;> norm_num [gap]
  rcases Nat.lt_or_eq_of_le (Nat.succ_le_of_lt less) with beyond | rfl
  · have apart : (mantissa : ℚ) + 2 ≤ other := by exact_mod_cast beyond
    have touch := reads.high.trans' readsOther.low
    have quarters := le_of_mul_le_mul_right touch unit
    linarith
  · -- neighbours: one of them is odd and leaves out the point half way
    have half : (4 * mantissa + 2 : ℚ) * 2 ^ power ≤ (4 * (mantissa + 1 : Nat) - gap also) * 2 ^ power := by
      refine mul_le_mul_of_nonneg_right ?_ unit.le
      push_cast
      linarith
    rcases Nat.mod_two_eq_zero_or_one mantissa with even | odd
    · linarith [reads.high, readsOther.low_lt (by omega)]
    · linarith [reads.lt_high odd, readsOther.low]

/-- The numbers of a word end before those of a word of a greater power begin. -/
theorem not_readsBack_of_power_lt (canonical : w.Canonical mantissa power) (also : w.Canonical other later)
    (less : power < later) {narrow : Bool} (reads : ReadsBack mantissa power narrow x) :
    ¬ ReadsBack other later (w.isNarrow other later) x := by
  intro readsOther
  have raised : w.lowest < later := lt_of_le_of_lt canonical.least less
  have full := also.full raised
  have unit : (0 : ℚ) < 2 ^ power := by positivity
  have doubled : 2 * (2 : ℚ) ^ power ≤ 2 ^ later := by
    rw [← zpow_one_add₀ (by norm_num : (2 : ℚ) ≠ 0)]
    exact zpow_le_zpow_right₀ (by norm_num) (by omega)
  have begins : (4 * twoTo w.fractionBits - 1 : ℚ) ≤ 4 * other - gap (w.isNarrow other later) := by
    rcases Nat.eq_or_lt_of_le full with same | beyond
    · simp [isNarrow, gap, ← same, raised]
    · have apart : (twoTo w.fractionBits : ℚ) + 1 ≤ other := by exact_mod_cast beyond
      have wide : (gap (w.isNarrow other later) : ℚ) ≤ 2 := by
        cases w.isNarrow other later <;> norm_num [gap]
      linarith
  have whole : (1 : ℚ) ≤ twoTo w.fractionBits := by exact_mod_cast Nat.one_le_two_pow
  have from_there : (8 * twoTo w.fractionBits - 2 : ℚ) * 2 ^ power ≤ 4 * x := by
    calc (8 * twoTo w.fractionBits - 2 : ℚ) * 2 ^ power
        = (4 * twoTo w.fractionBits - 1) * (2 * 2 ^ power) := by ring
      _ ≤ (4 * other - gap (w.isNarrow other later)) * 2 ^ later :=
          mul_le_mul begins doubled (by positivity) (by linarith)
      _ ≤ 4 * x := readsOther.low
  have short := canonical.short
  -- an even mantissa is two short of the next length, and an odd one leaves out its upper end
  rcases Nat.mod_two_eq_zero_or_one mantissa with even | odd
  · have below : mantissa + 2 ≤ 2 * twoTo w.fractionBits := by omega
    have below : (mantissa : ℚ) + 2 ≤ 2 * twoTo w.fractionBits := by exact_mod_cast below
    have quarters := le_of_mul_le_mul_right (from_there.trans reads.high) unit
    linarith
  · have below : (mantissa : ℚ) + 1 ≤ 2 * twoTo w.fractionBits := by exact_mod_cast short
    have quarters := lt_of_mul_lt_mul_right (from_there.trans_lt (reads.lt_high odd)) unit.le
    linarith

/-- No number is the nearest to two magnitudes of a width. -/
theorem canonical_unique (canonical : w.Canonical mantissa power) (also : w.Canonical other later)
    (reads : ReadsBack mantissa power (w.isNarrow mantissa power) x)
    (readsOther : ReadsBack other later (w.isNarrow other later) x) : mantissa = other ∧ power = later := by
  rcases lt_trichotomy power later with less | rfl | more
  · exact absurd readsOther (not_readsBack_of_power_lt canonical also less reads)
  · refine ⟨?_, rfl⟩
    rcases lt_trichotomy mantissa other with less | same | more
    · exact absurd readsOther (not_readsBack_of_lt less reads)
    · exact same
    · exact absurd reads (not_readsBack_of_lt more readsOther)
  · exact absurd reads (not_readsBack_of_power_lt also canonical more readsOther)

section
variable {word : Nat} {negative narrow : Bool}

theorem mod_signBit (w : Width) (word : Nat) :
    word % w.signBit = word / twoTo w.fractionBits % twoTo w.exponentBits * twoTo w.fractionBits +
      word % twoTo w.fractionBits := by
  have split : w.signBit = twoTo w.fractionBits * twoTo w.exponentBits := Nat.pow_add _ _ _
  rw [split, Nat.mod_mul, Nat.mul_comm, Nat.add_comm]

theorem read_eq_finite (read : w.read word = .finite negative mantissa power narrow) :
    negative = decide (word / w.signBit % 2 = 1) ∧ w.Canonical mantissa power ∧
      narrow = w.isNarrow mantissa power ∧
        word % w.signBit = (power - w.lowest).toNat * twoTo w.fractionBits + mantissa := by
  have small : word % twoTo w.fractionBits < twoTo w.fractionBits := Nat.mod_lt _ (Nat.two_pow_pos _)
  rw [mod_signBit]
  unfold Width.read at read
  generalize word / twoTo w.fractionBits % twoTo w.exponentBits = field at read
  generalize word % twoTo w.fractionBits = fraction at read small
  dsimp only at read
  split at read
  · split at read <;> cases read
  · split at read
    · rename_i zero
      cases read
      refine ⟨rfl, ⟨by omega, le_refl _, fun less => absurd less (lt_irrefl _)⟩, ?_, ?_⟩
      · simp [isNarrow]
      · simp [zero]
    · rename_i nonzero
      cases read
      refine ⟨rfl, ⟨by omega, by omega, fun _ => Nat.le_add_right _ _⟩, ?_, ?_⟩
      · refine decide_eq_decide.mpr ?_
        omega
      · obtain ⟨before, rfl⟩ := Nat.exists_eq_succ_of_ne_zero nonzero
        have raised : (w.lowest + (before.succ : Nat) - 1 - w.lowest).toNat = before := by omega
        rw [raised, Nat.succ_mul, Nat.add_assoc]

theorem read_injective {u v : Nat} {also : Bool} (uBound : u < 2 * w.signBit) (vBound : v < 2 * w.signBit)
    (uRead : w.read u = .finite negative mantissa power narrow)
    (vRead : w.read v = .finite negative mantissa power also) : u = v := by
  obtain ⟨uSign, _, _, uRest⟩ := read_eq_finite uRead
  obtain ⟨vSign, _, _, vRest⟩ := read_eq_finite vRead
  have signs := decide_eq_decide.mp (uSign.symm.trans vSign)
  have uHalf : u / w.signBit < 2 := Nat.div_lt_of_lt_mul (by omega)
  have vHalf : v / w.signBit < 2 := Nat.div_lt_of_lt_mul (by omega)
  have sign : u / w.signBit = v / w.signBit := by
    generalize u / w.signBit = first at *
    generalize v / w.signBit = second at *
    omega
  rw [← Nat.div_add_mod u w.signBit, ← Nat.div_add_mod v w.signBit, sign, uRest, vRest]

end
end Width
end StreamPlan.Decimal
