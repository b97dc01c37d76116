/-! Binary floating-point words. A word is taken apart into sign, mantissa and power of two, and a
magnitude is rounded back to the nearest word, a tie going to the even one. -/
namespace StreamPlan.Decimal

structure Width where
  fractionBits : Nat
  exponentBits : Nat

def single : Width := ⟨23, 8⟩
def double : Width := ⟨52, 11⟩

/-- A finite word is worth `mantissa * 2 ^ power`; it is `narrow` when the word below it is only
half as far away as the word above. -/
inductive Reading where
  | notANumber
  | infinite (negative : Bool)
  | finite (negative : Bool) (mantissa : Nat) (power : Int) (narrow : Bool)
deriving DecidableEq, Repr

def twoTo (n : Nat) : Nat := Nat.pow 2 n

namespace Width

/-- The exponent field kept for infinities and for what is not a number. -/
def top (w : Width) : Nat := twoTo w.exponentBits - 1
/-- The power of two of the least positive word. -/
def lowest (w : Width) : Int := 2 - (twoTo (w.exponentBits - 1) : Nat) - w.fractionBits
def signBit (w : Width) : Nat := twoTo (w.fractionBits + w.exponentBits)

def read (w : Width) (word : Nat) : Reading :=
  let fraction := word % twoTo w.fractionBits
  let field := word / twoTo w.fractionBits % twoTo w.exponentBits
  let negative := decide (word / w.signBit % 2 = 1)
  if field = w.top then
    if fraction = 0 then .infinite negative else .notANumber
  else if field = 0 then
    .finite negative fraction w.lowest false
  else
    .finite negative (twoTo w.fractionBits + fraction) (w.lowest + field - 1)
      (decide (fraction = 0 ∧ 1 < field))

def infinity (w : Width) : Nat := w.top * twoTo w.fractionBits

/-- `mantissa / 2 ^ shift` rounded to the nearest whole number, a tie to the even one. -/
def roundShift (mantissa shift : Nat) : Nat :=
  let whole := mantissa / twoTo shift
  let rest := mantissa % twoTo shift
  if 2 * rest < twoTo shift then whole
  else if twoTo shift < 2 * rest then whole + 1
  else whole + whole % 2

/-- The word nearest to `mantissa * 2 ^ power`, without its sign. -/
def magnitude (w : Width) (mantissa : Nat) (power : Int) : Nat :=
  if mantissa = 0 then 0 else
    let unit := max (power + Nat.log2 mantissa - w.fractionBits) w.lowest
    let scaled :=
      if unit ≤ power then mantissa * twoTo (power - unit).toNat
      else roundShift mantissa (unit - power).toNat
    min ((unit - w.lowest).toNat * twoTo w.fractionBits + scaled) w.infinity

/-- The word of a reading in another width. -/
def write (w : Width) : Reading → Nat
  | .notANumber => w.infinity + twoTo (w.fractionBits - 1)
  | .infinite negative => (if negative then w.signBit else 0) + w.infinity
  | .finite negative mantissa power _ => (if negative then w.signBit else 0) + w.magnitude mantissa power

end Width

def readDouble (x : Float) : Reading := double.read x.toBits.toNat
def readSingle (x : Float32) : Reading := single.read x.toBits.toNat

def widen (x : Float32) : Float := Float.ofBits (UInt64.ofNat (double.write (readSingle x)))
def narrow (x : Float) : Float32 := Float32.ofBits (UInt32.ofNat (single.write (readDouble x)))

end StreamPlan.Decimal
