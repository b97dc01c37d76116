import StreamPlan.Decimal.Reader
import StreamPlan.Json.Reader
import StreamPlan.Yaml.Tree

/-! What the scalars of a document stand for. A plain scalar without a tag is null, a truth value, a
number or, if it is none of these, text; any other scalar is text unless a tag of the core schema asks
for one of the others. A tag of the document's own names a kind of value that no plan has. -/
namespace StreamPlan.Yaml

/-- A whole number written with a minus sign is not the same as one without, even if it is zero. -/
inductive Value where
  | null
  | bool (value : Bool)
  | natural (value : Nat)
  | negated (value : Nat)
  | real (value : Float)
  | text (value : String)
  | list (items : List Value)
  | map (entries : List (Value × Value))
deriving Repr, Inhabited

namespace Core

def isNull (text : String) : Bool := ["null", "Null", "NULL", "~"].contains text

def bool? (text : String) : Option Bool :=
  if ["true", "True", "TRUE"].contains text then some true
  else if ["false", "False", "FALSE"].contains text then some false
  else none

def digit? (base : Nat) (c : Char) : Option Nat := (Json.hexValue c).filter (· < base)

/-- Digits of the base, at least one of them. -/
def digits? (base : Nat) (cs : List Char) : Option Nat :=
  if cs.isEmpty then none else cs.foldlM (fun n c => (digit? base c).map (base * n + ·)) 0

/-- A number without a sign; the letter after a leading zero names another base than ten. Otherwise a
leading zero makes the word a text. -/
def natural? : List Char → Option Nat
  | '0' :: 'x' :: digits => digits? 16 digits
  | '0' :: 'o' :: digits => digits? 8 digits
  | '0' :: 'b' :: digits => digits? 2 digits
  | '0' :: c :: rest => if (c :: rest).all Char.isDigit then none else digits? 10 ('0' :: c :: rest)
  | digits => digits? 10 digits

/-- A number that is not negative, with at most a plus sign. -/
def count? (text : String) : Option Nat :=
  match text.toList with
  | '+' :: rest => natural? rest
  | cs => natural? cs

/-- Whether there is a minus sign, and the number after it. -/
def integer? (text : String) : Option (Bool × Nat) :=
  match text.toList with
  | '-' :: rest => (natural? rest).map (true, ·)
  | _ => (count? text).map (false, ·)

/-- The whole numbers a document may hold. -/
def held? (negated : Bool) (n : Nat) : Option Value :=
  if negated then if n ≤ Decimal.signedLimit then some (.negated n) else none
  else if n < UInt64.size then some (.natural n) else none

/-- Past these a word of digits is no longer taken for a whole number at all. -/
def isWide (negated : Bool) (n : Nat) : Bool := if negated then n ≤ Nat.pow 2 127 else n < Nat.pow 2 128

def infinity : Float := 1.0 / 0.0

/-- A number that is not whole; words for infinity and for what is not a number begin with a point. -/
def real? (text : String) : Option Float :=
  let cs := text.toList
  let bare := String.ofList (if cs.head? = some '+' then cs.drop 1 else cs)
  if cs.take 1 = ['+'] && (cs.drop 1).head?.any (fun c => c = '+' || c = '-') then none
  else if [".inf", ".Inf", ".INF"].contains bare then some infinity
  else if ["-.inf", "-.Inf", "-.INF"].contains text then some (-infinity)
  else if [".nan", ".NaN", ".NAN"].contains text then some (0.0 / 0.0)
  else (Decimal.double? bare).filter Float.isFinite

/-- Digits after a leading zero. -/
def isPadded (text : String) : Bool :=
  match (Decimal.splitSign text.toList).2 with
  | '0' :: c :: rest => (c :: rest).all Char.isDigit
  | _ => false

/-- The value of a plain scalar. A whole number that is too wide for a document is refused. -/
def ofPlain? (text : String) : Option Value :=
  if text = "" || isNull text then some .null
  else match bool? text with
    | some b => some (.bool b)
    | none => match (integer? text).filter fun (negated, n) => isWide negated n with
      | some (negated, n) => held? negated n
      | none =>
        if isPadded text then some (.text text)
        else some (((real? text).map Value.real).getD (.text text))

def tagOf (name : String) : List UInt8 := Composing.coreHandle ++ Tag.encoded name

/-- A tag of the document's own. -/
def isLocal (tag : List UInt8) : Bool := tag.head? = some 0x21

/-- A tag of the document's own that is text names a kind of value. -/
def isKind (tag : List UInt8) : Bool := isLocal tag && (String.fromUTF8? (ByteArray.mk tag.toArray)).isSome

/-- The value of a scalar with a tag that is no kind of value. -/
def ofTagged? (tag : List UInt8) (style : Style) (text : String) : Option Value :=
  if tag = tagOf "bool" then (bool? text).map .bool
  else if tag = tagOf "int" then (integer? text).bind fun (negated, n) => held? negated n
  else if tag = tagOf "float" then (real? text).map .real
  else if tag = tagOf "null" then if isNull text then some .null else none
  else if isLocal tag && style = .plain then ofPlain? text
  else some (.text text)

def ofScalar? (tag : Option (List UInt8)) (style : Style) (text : String) : Option Value :=
  match tag with
  | some tag => if isKind tag then none else ofTagged? tag style text
  | none => if style = .plain then ofPlain? text else some (.text text)

/-- A collection may have any tag but one that names a kind of value. -/
def admits (tag : Option (List UInt8)) : Bool := !tag.any isKind

end Core

/-- The value of a node whose collections stand in one another no deeper than the limit. -/
def Value.ofNode (tree : Tree) : Nat → Node → Reading Value
  | depth, node => do
    match depth, ← tree.follow node with
    | _, .scalar tag style written => Core.ofScalar? tag style written
    | depth + 1, .sequence tag items =>
      if !Core.admits tag then failure
      pure (.list (← items.mapM (ofNode tree depth)))
    | depth + 1, .mapping tag entries =>
      if !Core.admits tag then failure
      let fields ← entries.mapM fun (key, value) => do
        let key ← ofNode tree depth key
        let value ← ofNode tree depth value
        pure (key, value)
      pure (.map fields)
    | _, _ => failure

end StreamPlan.Yaml
