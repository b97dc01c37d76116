import StreamPlan.Expr.Token

/-! Tokens read as an expression. Each level of precedence is made from the next tighter one; a
parenthesised group is the only way back up, so the number of tokens bounds the nesting. -/
namespace StreamPlan

inductive Expectation where
  | nullAfterIs
  | closing
  | operand
  | moreInput
  | noMoreInput
deriving DecidableEq, Repr

def Expectation.message : Expectation → String
  | .nullAfterIs => "expected NULL after IS"
  | .closing => "expected ')'"
  | .operand => "unexpected token"
  | .moreInput => "unexpected end of expression"
  | .noMoreInput => "trailing input"

/-- What was wanted, and how many tokens were left there; `none` when one was wanted past the end. -/
structure Fault where
  wanted : Expectation
  left : Option Nat
deriving DecidableEq, Repr

/-- The number of tokens taken before the fault. -/
def Fault.position (fault : Fault) (total : Nat) : Nat :=
  match fault.left with
  | some left => total - left
  | none => total + 1

inductive SyntaxError where
  | empty
  | lexical (error : LexError) (source : String)
  | misplaced (wanted : Expectation) (position : Nat) (source : String)
deriving DecidableEq, Repr

namespace SyntaxError

def detail : SyntaxError → String
  | .empty => "empty expression"
  | .lexical .unterminatedQuote source => s!"unterminated quote in '{source}'"
  | .lexical (.badNumber text) _ => s!"bad number '{text}'"
  | .lexical (.unexpectedCharacter c) source => s!"unexpected character '{c.toString}' in '{source}'"
  | .misplaced wanted position source =>
    s!"{wanted.message} at token {Decimal.countText position} in '{source}'"

def message (error : SyntaxError) : String := s!"Expression error: {error.detail}"

end SyntaxError

namespace Expr

abbrev Parsed := Except Fault (Expr × List Token)
abbrev Reads := List Token → Parsed

/-- Takes a name spelled as the word in any letter case. -/
def keyword (word : String) : List Token → Option (List Token)
  | .name text :: rest => if Text.sameIgnoringCase text word then some rest else none
  | _ => none

def comparator : List Token → Option (BinaryOp × List Token)
  | .operator op :: rest => if op.isComparison then some (op, rest) else none
  | _ => none

def sumSign : List Token → Option (BinaryOp × List Token)
  | .operator .plus :: rest => some (.plus, rest)
  | .operator .minus :: rest => some (.minus, rest)
  | _ => none

def productSign : List Token → Option (BinaryOp × List Token)
  | .operator .multiply :: rest => some (.multiply, rest)
  | .operator .divide :: rest => some (.divide, rest)
  | _ => none

def andWord (ts : List Token) : Option (BinaryOp × List Token) := (keyword "AND" ts).map fun rest => (.and, rest)
def orWord (ts : List Token) : Option (BinaryOp × List Token) := (keyword "OR" ts).map fun rest => (.or, rest)

/-- Further operands, joined to the left. -/
def more (operand : Reads) (joint : List Token → Option (BinaryOp × List Token)) : Nat → Expr → Reads
  | 0, left, ts => .ok (left, ts)
  | bound + 1, left, ts =>
    match joint ts with
    | none => .ok (left, ts)
    | some (op, rest) => do
      let (right, rest) ← operand rest
      more operand joint bound (.binary op left right) rest

def chain (operand : Reads) (joint : List Token → Option (BinaryOp × List Token)) : Reads := fun ts => do
  let (left, rest) ← operand ts
  more operand joint rest.length left rest

/-- The word for a truth value or null, else a column. -/
def ofName (text : String) : Expr :=
  if Text.sameIgnoringCase text "TRUE" then .literal (.bool true)
  else if Text.sameIgnoringCase text "FALSE" then .literal (.bool false)
  else if Text.sameIgnoringCase text "NULL" then .literal .null
  else .column text

def closed (inner : Expr) : Reads
  | .closeParen :: rest => .ok (inner, rest)
  | _ :: rest => .error ⟨.closing, some rest.length⟩
  | [] => .error ⟨.closing, none⟩

def primary (group : Reads) : Reads
  | .whole value :: rest => .ok (.literal (.int64 value), rest)
  | .real value :: rest => .ok (.literal (.float64 value), rest)
  | .text value :: rest => .ok (.literal (.text value), rest)
  | .name text :: rest => .ok (ofName text, rest)
  | .openParen :: rest => do
    let (inner, rest) ← group rest
    closed inner rest
  | .closeParen :: rest => .error ⟨.operand, some rest.length⟩
  | .operator _ :: rest => .error ⟨.operand, some rest.length⟩
  | [] => .error ⟨.moreInput, none⟩

/-- A minus sign is taken into a number; anything else is subtracted from zero. -/
def negate : Expr → Expr
  | .literal (.int64 value) => .literal (.int64 (-value))
  | .literal (.float64 value) => .literal (.float64 (-value))
  | inner => .binary .minus (.literal (.int64 0)) inner

def unary (operand : Reads) : Reads
  | .operator .minus :: rest => do
    let (inner, rest) ← unary operand rest
    pure (negate inner, rest)
  | ts => operand ts

def nullTest (left : Expr) (ts : List Token) : Parsed :=
  match keyword "IS" ts with
  | none => .ok (left, ts)
  | some rest =>
    let (negated, rest) := match keyword "NOT" rest with
      | some rest => (true, rest)
      | none => (false, rest)
    match keyword "NULL" rest with
    | some rest => .ok (.isNull left negated, rest)
    | none => .error ⟨.nullAfterIs, some rest.length⟩

/-- At most one comparison, then at most one null test of the whole. -/
def comparisonOf (operand : Reads) : Reads := fun ts => do
  let (left, rest) ← operand ts
  match comparator rest with
  | none => nullTest left rest
  | some (op, rest) => do
    let (right, rest) ← operand rest
    nullTest (.binary op left right) rest

def isNotWord : Token → Bool
  | .name text => Text.sameIgnoringCase text "NOT"
  | _ => false

def negationOf (operand : Reads) : Reads
  | [] => operand []
  | t :: rest =>
    if isNotWord t then do
      let (inner, rest) ← negationOf operand rest
      pure (.not inner, rest)
    else operand (t :: rest)

def product (group : Reads) : Reads := chain (unary (primary group)) productSign
def sum (group : Reads) : Reads := chain (product group) sumSign
def conjunctionOf (group : Reads) : Reads := chain (negationOf (comparisonOf (sum group))) andWord
def disjunctionOf (group : Reads) : Reads := chain (conjunctionOf group) orWord

/-- An expression at the head of no more tokens than the bound. -/
def expression : Nat → Reads
  | 0 => fun _ => .error ⟨.moreInput, none⟩
  | bound + 1 => disjunctionOf (expression bound)

/-- A whole list of tokens as one expression. -/
def ofTokens (ts : List Token) : Except Fault Expr := do
  let (e, rest) ← expression ts.length ts
  if rest.isEmpty then pure e else throw ⟨.noMoreInput, some rest.length⟩

def parse (source : String) : Except SyntaxError Expr :=
  match Token.ofChars source.toList with
  | .error error => .error (.lexical error source)
  | .ok [] => .error .empty
  | .ok ts =>
    match ofTokens ts with
    | .ok e => .ok e
    | .error fault => .error (.misplaced fault.wanted (fault.position ts.length) source)

end Expr
end StreamPlan
