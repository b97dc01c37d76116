import StreamPlan.Fields
import StreamPlan.Yaml.Value

/-! The shapes in which a document carries structured data. Nodes are read by what is asked for, so
that any scalar can be a text; values have their type already. -/
namespace StreamPlan.Yaml

namespace Tree

def text (tree : Tree) (node : Node) : Reading String := do
  match ← tree.follow node with
  | .scalar _ _ written => pure written
  | _ => failure

/-- A number is plain, or a literal block that is said to be one. -/
def isNumeral (tag : Option (List UInt8)) : Style → Bool
  | .plain => true
  | .literal => tag = some (Core.tagOf "int")
  | _ => false

/-- A whole number that is not negative and fits 64 bits. -/
def count (tree : Tree) (node : Node) : Reading Nat := do
  match ← tree.follow node with
  | .scalar tag style written =>
    if isNumeral tag style then (Core.count? written).filter (· < UInt64.size) else failure
  | _ => failure

/-- Whether there is something, which a plain null and a plain scalar of no characters are not. A tag
makes something of both, but for the tag of null. -/
def isSome? : Node → Option Bool
  | .scalar none .plain written => some (written ≠ "" && !Core.isNull written)
  | .scalar (some tag) .plain written =>
    if tag ≠ Core.tagOf "null" then some true else if Core.isNull written then some false else none
  | _ => some true

def optional (tree : Tree) (read : Node → Reading α) (node : Node) : Reading (Option α) := do
  let node ← tree.follow node
  if ← isSome? node then some <$> read node else pure none

def keyed (tree : Tree) (entries : List (Node × Node)) : Reading (List (String × Node)) :=
  entries.mapM fun (key, value) => do pure (← tree.text key, value)

/-- The values of the names, in that order. A plain scalar of no characters is a record without any. -/
def record (tree : Tree) (names : List String) (node : Node) : Reading (List (Option Node)) := do
  match ← tree.follow node with
  | .mapping _ entries => Fields.byName names (← tree.keyed entries)
  | .sequence _ items => Fields.byPlace names items
  | .scalar _ .plain "" => Fields.byName names []
  | _ => failure

end Tree

namespace Value

def text? : Value → Option String
  | .text s => some s
  | _ => none

def bool? : Value → Option Bool
  | .bool b => some b
  | _ => none

def list? : Value → Option (List Value)
  | .list items => some items
  | _ => none

/-- A text of one character. -/
def char? (v : Value) : Option Char :=
  match v.text?.map String.toList with
  | some [c] => some c
  | _ => none

def optional? (read : Value → Option α) : Value → Option (Option α)
  | .null => some none
  | v => (read v).map some

/-- A word that names one of several things, or the place of its name. -/
def word? (names : List String) : Value → Option String
  | .text s => if names.contains s then some s else none
  | .natural n => names[n]?
  | _ => none

/-- The name that a key gives, if it is the name of anything. -/
def keyOf (names : List String) : Value → Option (Option String)
  | .text s => some (some s)
  | .natural n => some names[n]?
  | _ => none

def keyed (names : List String) (entries : List (Value × Value)) : Option (List (String × Value)) := do
  let fields ← entries.mapM fun (key, value) => (keyOf names key).map fun name => name.map (·, value)
  some (fields.filterMap id)

/-- The values of the names, in that order. -/
def record? (names : List String) : Value → Option (List (Option Value))
  | .map entries => keyed names entries >>= Fields.byName names
  | .list items => Fields.byPlace names items
  | _ => none

def isBare : Value → Bool
  | .null | .map [] => true
  | _ => false

/-- One of several plain names. -/
def oneOf? (all : List α) (name : α → String) (v : Value) : Option α := do
  let word ← match v with
    | .text s => some s
    | .map [(key, content)] => if isBare content then word? (all.map name) key else none
    | _ => none
  all.find? fun a => name a = word

def isText (word : String) : Value → Bool
  | .text s => s = word
  | _ => false

/-- The tag and all that stands beside it: a field of that name, or the first item of a list. -/
def tagged? (tag : String) : Value → Option (Value × Value)
  | .map entries =>
    match entries.filter (fun entry => isText tag entry.1) with
    | [(_, name)] => some (name, .map (entries.filter fun entry => !isText tag entry.1))
    | _ => none
  | .list (name :: items) => some (name, .list items)
  | _ => none

end Value
end StreamPlan.Yaml
