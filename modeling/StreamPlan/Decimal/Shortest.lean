import StreamPlan.Decimal.Binary

/-! The fewest decimal digits that read back as the same floating-point word, and of those the
nearest to its value. The value is written exactly as a whole number of a power of ten, and its two
neighbours on ever finer decimal grids are tried until one lies where the word is the nearest. -/
namespace StreamPlan.Decimal

/-- Which of two equally near decimals is taken. -/
inductive Tie where
  | up
  | even
deriving DecidableEq, Repr

/-- `significand * 10 ^ exponent`. -/
structure Figures where
  significand : Nat
  exponent : Int
deriving DecidableEq, Repr

/-- Of the neighbours `below` and `below + 1` on a grid, the nearer to `exact`. -/
def nearer (tie : Tie) (exact grid below : Nat) : Nat :=
  if 2 * exact < (2 * below + 1) * grid then below
  else if (2 * below + 1) * grid < 2 * exact then below + 1
  else match tie with
    | .up => below + 1
    | .even => below + below % 2

/-- Tries the grids `10 ^ places`, `10 ^ (places - 1)`, … and ends at the exact value. -/
def search (inside : Nat → Bool) (tie : Tie) (exact : Nat) : Nat → Nat × Nat
  | 0 => (exact, 0)
  | places + 1 =>
    let grid := Nat.pow 10 (places + 1)
    let below := exact / grid
    match inside (below * grid), inside ((below + 1) * grid) with
    | true, true => (nearer tie exact grid below, places + 1)
    | true, false => (below, places + 1)
    | false, true => (below + 1, places + 1)
    | false, false => search inside tie exact places

/-- The value is `mantissa * unit * 10 ^ tens`; a decimal reads back when it is less than half a
unit away, or just half a unit and the mantissa is even. -/
def shortest (tie : Tie) (mantissa : Nat) (power : Int) (narrow : Bool) : Figures :=
  let unit := if 0 ≤ power then twoTo power.toNat else Nat.pow 5 (-power).toNat
  let tens : Int := if 0 ≤ power then 0 else power
  let exact := mantissa * unit
  let low := (4 * mantissa - if narrow then 1 else 2) * unit
  let high := (4 * mantissa + 2) * unit
  let inside (candidate : Nat) : Bool :=
    if mantissa % 2 = 0 then low ≤ 4 * candidate && 4 * candidate ≤ high
    else low < 4 * candidate && 4 * candidate < high
  let (digits, places) := search inside tie exact ((Nat.repr exact).length - 1)
  if digits = 10 then ⟨1, tens + places + 1⟩ else ⟨digits, tens + places⟩

end StreamPlan.Decimal
