import StreamPlan.Decimal.Style
import StreamPlan.Decimal.Whole
import StreamPlan.Json.Value

/-! Compact JSON text: no blanks, fields in their order, only the quote, the backslash and control
characters escaped. -/
namespace StreamPlan.Json

/-- Exponents from -5 to 15 are written in place, and a whole number keeps `.0`. -/
def doubleStyle : Decimal.Style := ⟨.even, fun e => -5 ≤ e && e ≤ 15, true⟩
/-- Exponents from -6 to 12 are written in place, and a whole number keeps `.0`. -/
def singleStyle : Decimal.Style := ⟨.even, fun e => -6 ≤ e && e ≤ 12, true⟩

def numberChars (style : Decimal.Style) (reading : Decimal.Reading) : List Char :=
  ((style.finiteText reading).getD "null").toList

def escape (c : Char) : List Char :=
  if c = '"' then ['\\', '"']
  else if c = '\\' then ['\\', '\\']
  else if c = '\x08' then ['\\', 'b']
  else if c = '\x0c' then ['\\', 'f']
  else if c = '\n' then ['\\', 'n']
  else if c = '\r' then ['\\', 'r']
  else if c = '\t' then ['\\', 't']
  else if c.toNat < 0x20 then
    ['\\', 'u', '0', '0', Nat.digitChar (c.toNat / 16), Nat.digitChar (c.toNat % 16)]
  else [c]

def textChars (s : String) : List Char := '"' :: (s.toList.flatMap escape ++ ['"'])

mutual
def chars : Json → List Char
  | .null => ['n', 'u', 'l', 'l']
  | .bool true => ['t', 'r', 'u', 'e']
  | .bool false => ['f', 'a', 'l', 's', 'e']
  | .whole n => Decimal.wholeChars n
  | .real x => numberChars doubleStyle (Decimal.readDouble x)
  | .single x => numberChars singleStyle (Decimal.readSingle x)
  | .text s => textChars s
  | .list [] => ['[', ']']
  | .list (item :: items) => '[' :: (chars item ++ moreItems items)
  | .object [] => ['\x7b', '\x7d']
  | .object ((name, value) :: fields) =>
    '\x7b' :: (textChars name ++ ':' :: (chars value ++ moreFields fields))
def moreItems : List Json → List Char
  | [] => [']']
  | item :: items => ',' :: (chars item ++ moreItems items)
def moreFields : List (String × Json) → List Char
  | [] => ['\x7d']
  | (name, value) :: fields => ',' :: (textChars name ++ ':' :: (chars value ++ moreFields fields))
end

def render (j : Json) : String := String.ofList j.chars

end StreamPlan.Json
