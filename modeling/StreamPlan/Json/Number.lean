import StreamPlan.Decimal.Whole
import StreamPlan.Json.Value

/-! JSON numbers. A whole number that fits 64 bits stays whole. Any other is read as its leading
digits, as many as fit 64 bits, scaled once by a power of ten; so the last bit may differ from the
nearest floating-point number. -/
namespace StreamPlan.Json

def digitValue (c : Char) : Nat := c.toNat - '0'.toNat

/-- Adds digits to the significand until one no longer fits 64 bits; the rest is handed back. -/
def gather (significand : Nat) : List Char → Nat × List Char
  | [] => (significand, [])
  | c :: rest =>
    let next := 10 * significand + digitValue c
    if next < UInt64.size then gather next rest else (significand, c :: rest)

def powerOfTen (exponent : Nat) : Float := Float.ofScientific 1 false exponent

def scaleUp (x : Float) (exponent : Nat) : Option Float :=
  if exponent ≤ 308 then
    let scaled := x * powerOfTen exponent
    if scaled.isInf then none else some scaled
  else if x == 0.0 then some x else none

/-- Divides by `10 ^ 308` the given number of times, stopping at zero. -/
def shrink : Nat → Float → Float
  | 0, x => x
  | steps + 1, x => if x == 0.0 then x else shrink steps (x / powerOfTen 308)

def scaleDown (x : Float) (exponent : Nat) : Float :=
  let steps := (exponent - 1) / 308
  let small := shrink steps x
  if small == 0.0 then small else small / powerOfTen (exponent - 308 * steps)

def scale (x : Float) (exponent : Int) : Option Float :=
  if 0 ≤ exponent then scaleUp x exponent.toNat else some (scaleDown x exponent.natAbs)

def signed (negative : Bool) (x : Float) : Json := .real (if negative then -x else x)

/-- The value of a number with the given digits before and after the point. -/
def realOf (negative : Bool) (leading fraction : List Char) (exponent : Int) : Option Json :=
  let (significand, dropped) := gather 0 leading
  let (significand, unused) := gather significand fraction
  let exponent := exponent + dropped.length - (fraction.length - unused.length : Nat)
  (scale (Float.ofInt significand) exponent).map (signed negative)

def wholeOf (negative : Bool) (digits : List Char) : Option Json :=
  let n := Decimal.natural digits
  if negative then
    if 0 < n ∧ n ≤ Decimal.signedLimit then some (.whole (-n)) else realOf true digits [] 0
  else if n < UInt64.size then some (.whole n) else realOf false digits [] 0

/-- A mark, an optional sign and at least one digit. -/
def exponentPart : List Char → Option (Option Int × List Char)
  | mark :: rest =>
    if mark = 'e' ∨ mark = 'E' then
      let (negative, rest) := match rest with
        | '-' :: rest => (true, rest)
        | '+' :: rest => (false, rest)
        | rest => (false, rest)
      let (digits, rest) := rest.span Char.isDigit
      if digits = [] then none
      else
        let n : Int := Decimal.natural digits
        some (some (if negative then -n else n), rest)
    else some (none, mark :: rest)
  | [] => some (none, [])

/-- A point and at least one digit. -/
def fractionPart : List Char → Option (Option (List Char) × List Char)
  | '.' :: rest =>
    let (digits, rest) := rest.span Char.isDigit
    if digits = [] then none else some (some digits, rest)
  | rest => some (none, rest)

/-- A number as it is written. -/
structure Numeral where
  negative : Bool
  leading : List Char
  fraction : Option (List Char)
  exponent : Option Int
deriving DecidableEq, Repr

namespace Numeral

def unsigned (negative : Bool) (cs : List Char) : Option (Numeral × List Char) := do
  let (leading, rest) := cs.span Char.isDigit
  if leading = [] ∨ (leading.head? = some '0' ∧ 1 < leading.length) then none
  let (fraction, rest) ← fractionPart rest
  let (exponent, rest) ← exponentPart rest
  some (⟨negative, leading, fraction, exponent⟩, rest)

def read : List Char → Option (Numeral × List Char)
  | '-' :: rest => unsigned true rest
  | cs => unsigned false cs

def value? (n : Numeral) : Option Json :=
  match n.fraction, n.exponent with
  | none, none => wholeOf n.negative n.leading
  | _, _ => realOf n.negative n.leading (n.fraction.getD []) (n.exponent.getD 0)

end Numeral

def number (cs : List Char) : Option (Json × List Char) := do
  let (numeral, rest) ← Numeral.read cs
  some (← numeral.value?, rest)

end StreamPlan.Json
