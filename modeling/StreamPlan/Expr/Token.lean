import StreamPlan.Decimal.Reader
import StreamPlan.Expr.Basic
import StreamPlan.Text.Blank
import StreamPlan.Text.Letter

/-! Expression text cut into tokens. Every token ends where its own characters end, so blanks
between tokens only separate them. -/
namespace StreamPlan

inductive Token where
  | name (text : String)
  | whole (value : Int64)
  | real (value : Float)
  | text (value : String)
  | operator (op : BinaryOp)
  | openParen
  | closeParen
deriving DecidableEq, BEq, Repr, Inhabited

inductive LexError where
  | unterminatedQuote
  | badNumber (text : String)
  | unexpectedCharacter (c : Char)
deriving DecidableEq, Repr

namespace Token

abbrev Lexed := Except LexError (Option Token × List Char)

def isNameStart (c : Char) : Bool := Text.isAlphabetic c || c = '_'
def isNamePart (c : Char) : Bool := Text.isAlphanumeric c || c = '_' || c = '.'
def isNumberPart (c : Char) : Bool := c.isDigit || c = '.'

def ofNumber (text : List Char) : Except LexError Token :=
  let value :=
    if text.contains '.' then (Decimal.number? false text).map fun w => Token.real w.toDouble
    else (Decimal.count? Decimal.signedLimit (String.ofList text)).map fun n => Token.whole (Int64.ofNat n)
  match value with
  | some token => .ok token
  | none => .error (.badNumber (String.ofList text))

/-- Apostrophes hold a text, quotation marks a name. -/
def quoted (mark : Char) (rest : List Char) : Lexed :=
  let body := String.ofList (rest.takeWhile (· ≠ mark))
  match rest.dropWhile (· ≠ mark) with
  | [] => .error .unterminatedQuote
  | _ :: after => .ok (some (if mark = '\x27' then .text body else .name body), after)

def operatorOf (c : Char) (rest : List Char) : Lexed :=
  let one (op : BinaryOp) : Lexed := .ok (some (.operator op), rest)
  let two (op : BinaryOp) : Lexed := .ok (some (.operator op), rest.tail)
  match c, rest.head? with
  | '=', some '=' => two .eq
  | '!', some '=' => two .notEq
  | '<', some '>' => two .notEq
  | '<', some '=' => two .ltEq
  | '>', some '=' => two .gtEq
  | '=', _ => one .eq
  | '<', _ => one .lt
  | '>', _ => one .gt
  | '+', _ => one .plus
  | '-', _ => one .minus
  | '*', _ => one .multiply
  | '/', _ => one .divide
  | other, _ => .error (.unexpectedCharacter other)

/-- The token that starts with this character, if it starts one, and what follows. -/
def first (c : Char) (rest : List Char) : Lexed :=
  if Text.isBlank c then .ok (none, rest)
  else if c = '(' then .ok (some .openParen, rest)
  else if c = ')' then .ok (some .closeParen, rest)
  else if c = '\x27' ∨ c = '"' then quoted c rest
  else if c.isDigit then
    (ofNumber (c :: rest.takeWhile isNumberPart)).map fun token => (some token, rest.dropWhile isNumberPart)
  else if isNameStart c then
    .ok (some (.name (String.ofList (c :: rest.takeWhile isNamePart))), rest.dropWhile isNamePart)
  else operatorOf c rest

/-- The tokens of a text no longer than the bound. -/
def scan : Nat → List Char → Except LexError (List Token)
  | 0, _ => .ok []
  | _ + 1, [] => .ok []
  | bound + 1, c :: rest => do
    let (token, rest) ← first c rest
    let tokens ← scan bound rest
    pure (token.toList ++ tokens)

def ofChars (cs : List Char) : Except LexError (List Token) := scan cs.length cs

end Token
end StreamPlan
