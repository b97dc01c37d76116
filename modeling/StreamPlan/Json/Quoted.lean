import StreamPlan.Json.Value

/-! JSON strings as they are written. An escape stands for a character or for a unit of sixteen bits;
two units of a surrogate pair make one character. -/
namespace StreamPlan.Json

def hexValue (c : Char) : Option Nat :=
  if c.isDigit then some (c.toNat - '0'.toNat)
  else if 'a' ≤ c ∧ c ≤ 'f' then some (c.toNat - 'a'.toNat + 10)
  else if 'A' ≤ c ∧ c ≤ 'F' then some (c.toNat - 'A'.toNat + 10)
  else none

def unit (a b c d : Char) : Option Nat := do
  some (((← hexValue a) * 16 + (← hexValue b)) * 256 + ((← hexValue c) * 16 + (← hexValue d)))

def isLeading (u : Nat) : Bool := 0xD800 ≤ u && u < 0xDC00
def isTrailing (u : Nat) : Bool := 0xDC00 ≤ u && u < 0xE000
def joined (leading trailing : Nat) : Nat := 0x10000 + (leading - 0xD800) * 0x400 + (trailing - 0xDC00)

def unescape (c : Char) : Option Char :=
  if c = '"' ∨ c = '\\' ∨ c = '/' then some c
  else if c = 'b' then some '\x08'
  else if c = 'f' then some '\x0c'
  else if c = 'n' then some '\n'
  else if c = 'r' then some '\r'
  else if c = 't' then some '\t'
  else none

/-- The characters up to the closing quote. Half of a surrogate pair is refused. -/
def stringBody : List Char → Option (List Char × List Char)
  | [] => none
  | '"' :: rest => some ([], rest)
  | '\\' :: 'u' :: a :: b :: c :: d :: rest => do
    let first ← unit a b c d
    if isLeading first then
      match rest with
      | '\\' :: 'u' :: e :: f :: g :: h :: after => do
        let second ← unit e f g h
        if isTrailing second then
          let (body, rest) ← stringBody after
          some (Char.ofNat (joined first second) :: body, rest)
        else none
      | _ => none
    else if isTrailing first then none
    else
      let (body, rest) ← stringBody rest
      some (Char.ofNat first :: body, rest)
  | '\\' :: c :: rest => do
    let plain ← unescape c
    let (body, rest) ← stringBody rest
    some (plain :: body, rest)
  | c :: rest => do
    if c.toNat < 0x20 then none
    let (body, rest) ← stringBody rest
    some (c :: body, rest)

/-- Past the closing quote, whatever the units of the escapes make together. -/
def passString : List Char → Option (List Char)
  | [] => none
  | '"' :: rest => some rest
  | '\\' :: 'u' :: a :: b :: c :: d :: rest => if (unit a b c d).isSome then passString rest else none
  | '\\' :: c :: rest => if (unescape c).isSome then passString rest else none
  | c :: rest => if c.toNat < 0x20 then none else passString rest

end StreamPlan.Json
