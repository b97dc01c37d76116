import StreamPlan.Decimal.Binary
import StreamPlan.Decimal.Whole

/-! Decimal texts read to the nearest floating-point number: an optional sign, digits with at most
one point among or beside them, an optional exponent; or the words for infinity and for what is not
a number, in any letter case. -/
namespace StreamPlan.Decimal

inductive Written where
  | notANumber
  | infinite (negative : Bool)
  | number (negative : Bool) (significand : Nat) (exponent : Int)
deriving DecidableEq, Repr

/-- What follows the mantissa: nothing, or a mark and a whole exponent. -/
def exponent? : List Char → Option Int
  | [] => some 0
  | mark :: rest =>
    if mark = 'e' ∨ mark = 'E' then
      let (negative, digits) := splitSign rest
      (natural? digits).map fun n => if negative then -n else n
    else none

def number? (negative : Bool) (text : List Char) : Option Written :=
  let (whole, rest) := text.span Char.isDigit
  let (fraction, rest) := match rest with
    | '.' :: after => after.span Char.isDigit
    | _ => ([], rest)
  if whole = [] ∧ fraction = [] then none
  else (exponent? rest).map fun e => .number negative (natural (whole ++ fraction)) (e - fraction.length)

def written? (text : List Char) : Option Written :=
  let (negative, rest) := splitSign text
  let word := String.ofList (rest.map Char.toLower)
  if word = "nan" then some .notANumber
  else if word = "inf" ∨ word = "infinity" then some (.infinite negative)
  else number? negative rest

/-- Past these bounds every number is infinite or zero in either width. -/
inductive Scale where
  | zero
  | infinite
  | within

def scaleOf (significand : Nat) (exponent : Int) : Scale :=
  let leading := exponent + (Nat.repr significand).length
  if significand = 0 ∨ leading < -400 then .zero else if 400 < leading then .infinite else .within

def Written.toDouble : Written → Float
  | .notANumber => 0.0 / 0.0
  | .infinite negative => if negative then -1.0 / 0.0 else 1.0 / 0.0
  | .number negative significand exponent =>
    let size : Float := match scaleOf significand exponent with
      | .zero => 0.0
      | .infinite => 1.0 / 0.0
      | .within => Float.ofScientific significand (decide (exponent < 0)) exponent.natAbs
    if negative then -size else size

def Written.toSingle : Written → Float32
  | .notANumber => 0.0 / 0.0
  | .infinite negative => if negative then -1.0 / 0.0 else 1.0 / 0.0
  | .number negative significand exponent =>
    let size : Float32 := match scaleOf significand exponent with
      | .zero => 0.0
      | .infinite => 1.0 / 0.0
      | .within => Float32.ofScientific significand (decide (exponent < 0)) exponent.natAbs
    if negative then -size else size

def double? (text : String) : Option Float := (written? text.toList).map Written.toDouble
def single? (text : String) : Option Float32 := (written? text.toList).map Written.toSingle

end StreamPlan.Decimal
