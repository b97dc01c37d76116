/-! Whole numbers in decimal: written with a minus sign where they are negative, and read back with
an optional sign. Writing and reading agree. -/
namespace StreamPlan.Decimal

def countChars (n : Nat) : List Char := Nat.toDigits 10 n
def wholeChars (n : Int) : List Char := if n < 0 then '-' :: countChars n.natAbs else countChars n.natAbs
def countText (n : Nat) : String := String.ofList (countChars n)
def wholeText (n : Int) : String := String.ofList (wholeChars n)

def natural (digits : List Char) : Nat := Nat.ofDigitChars 10 digits 0

/-- One more than the greatest number of 64 bits with a sign. -/
def signedLimit : Nat := 9223372036854775808

/-- Digits only, and at least one of them. -/
def natural? (digits : List Char) : Option Nat :=
  if digits ≠ [] ∧ digits.all Char.isDigit then some (natural digits) else none

def splitSign : List Char → Bool × List Char
  | '-' :: rest => (true, rest)
  | '+' :: rest => (false, rest)
  | rest => (false, rest)

/-- A whole number with an optional sign, and nothing else. -/
def integer? (text : String) : Option Int :=
  let (negative, digits) := splitSign text.toList
  (natural? digits).map fun n => if negative then -n else n

/-- A count: digits with at most a plus sign, below the bound. -/
def count? (bound : Nat) (text : String) : Option Nat :=
  let digits := match text.toList with
    | '+' :: rest => rest
    | rest => rest
  (natural? digits).filter (· < bound)

theorem natural_countChars (n : Nat) : natural (countChars n) = n :=
  Nat.ofDigitChars_toDigits (by decide) (by decide)

theorem isDigit_of_mem_countChars {n : Nat} {c : Char} (member : c ∈ countChars n) : c.isDigit = true :=
  Nat.isDigit_of_mem_toDigits (by decide) (by decide) member

theorem natural?_countChars (n : Nat) : natural? (countChars n) = some n := by
  have digits : (countChars n).all Char.isDigit = true :=
    List.all_eq_true.2 fun _ member => isDigit_of_mem_countChars member
  have some_digit : countChars n ≠ [] := Nat.toDigits_ne_nil
  simp [natural?, digits, some_digit, natural_countChars]

end StreamPlan.Decimal
