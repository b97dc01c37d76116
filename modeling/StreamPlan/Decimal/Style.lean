import StreamPlan.Decimal.Shortest
import StreamPlan.Decimal.Whole

/-! How a floating-point number is laid out once its digits are chosen. -/
namespace StreamPlan.Decimal

/-- A decimal exponent accepted by `positional` is written out in place, any other with an `e`;
`wholeMark` keeps `.0` on whole numbers written in place. -/
structure Style where
  tie : Tie
  positional : Int → Bool
  wholeMark : Bool

def zeros (n : Nat) : List Char := List.replicate n '0'

def inPlace (wholeMark : Bool) (digits : List Char) (exponent : Int) : List Char :=
  let point : Int := digits.length + exponent
  if 0 ≤ exponent then digits ++ zeros exponent.toNat ++ (if wholeMark then ['.', '0'] else [])
  else if 0 < point then digits.take point.toNat ++ '.' :: digits.drop point.toNat
  else '0' :: '.' :: (zeros (-point).toNat ++ digits)

def withExponent (digits : List Char) (leading : Int) : List Char :=
  digits.take 1 ++ (if digits.length ≤ 1 then [] else '.' :: digits.drop 1) ++
    'e' :: (if leading < 0 then '-' else '+') :: countChars leading.natAbs

def Style.layOut (style : Style) (figures : Figures) : List Char :=
  let digits := countChars figures.significand
  let leading := figures.exponent + digits.length - 1
  if style.positional leading then inPlace style.wholeMark digits figures.exponent
  else withExponent digits leading

/-- The text of a finite number, `none` for the others. -/
def Style.finiteText (style : Style) : Reading → Option String
  | .finite negative mantissa power narrow =>
    let figures := if mantissa = 0 then ⟨0, 0⟩ else shortest style.tie mantissa power narrow
    some (String.ofList ((if negative then ['-'] else []) ++ style.layOut figures))
  | _ => none

/-- Every digit in place, no mark on whole numbers. -/
def plain : Style := ⟨.up, fun _ => true, false⟩

def plainText (reading : Reading) : String :=
  match reading with
  | .notANumber => "NaN"
  | .infinite negative => if negative then "-inf" else "inf"
  | .finite .. => (plain.finiteText reading).getD ""

end StreamPlan.Decimal
