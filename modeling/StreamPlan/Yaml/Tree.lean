import StreamPlan.Yaml.Layout
import StreamPlan.Yaml.Node

/-! Tokens put together into the one document they must form. Collections are composed by a reader
for the nodes inside them, and the number of tokens bounds how deep those stand. -/
namespace StreamPlan.Yaml

/-- What is left of the tokens, and what has been said so far: the handles that tags may use, the number
of each name, the numbers given to named nodes, latest first, and the named nodes that are complete, each
with how many were named before it. -/
structure Composer where
  tokens : List Token
  handles : List (String × List UInt8)
  names : List (String × Nat)
  numbers : List Nat
  named : List (Nat × Node)

abbrev Composing := StateT Composer Option

/-- Where a node stands: among brackets, in a block, or in a block after a key. -/
inductive Position where
  | flow
  | block
  | indentless
deriving DecidableEq, Repr

namespace Composing

def next : Composing (Option Token) := do pure (← get).tokens.head?
def advance : Composing Unit := modify fun c => { c with tokens := c.tokens.tail }

/-- Takes the token if it comes next. -/
def take (token : Token) : Composing Bool := do
  if (← next) = some token then
    advance
    pure true
  else pure false

def nextIn (tokens : List Token) : Composing Bool := do pure ((← next).any tokens.contains)

/-- The node here, left out where one of the tokens follows at once. -/
def nodeBefore (stops : List Token) (node : Composing Node) : Composing Node := do
  if ← nextIn stops then pure .absent else node

def valueBefore (stops : List Token) (node : Composing Node) : Composing Node := do
  if ← take .value then nodeBefore stops node else pure .absent

def blockItems (node : Position → Composing Node) : Nat → Composing (List Node)
  | 0 => failure
  | bound + 1 => do
    if ← take .entry then
      let item ← nodeBefore [.entry, .blockEnd] (node .block)
      pure (item :: (← blockItems node bound))
    else if ← take .blockEnd then pure []
    else failure

/-- Items of a sequence that is not indented further than the key it belongs to. -/
def indentlessItems (node : Position → Composing Node) : Nat → Composing (List Node)
  | 0 => failure
  | bound + 1 => do
    if ← take .entry then
      let item ← nodeBefore [.entry, .key, .value, .blockEnd] (node .block)
      pure (item :: (← indentlessItems node bound))
    else pure []

def blockEntries (node : Position → Composing Node) : Nat → Composing (List (Node × Node))
  | 0 => failure
  | bound + 1 => do
    let stops := [.key, .value, .blockEnd]
    if ← take .key then
      let key ← nodeBefore stops (node .indentless)
      let value ← valueBefore stops (node .indentless)
      pure ((key, value) :: (← blockEntries node bound))
    else if ← take .blockEnd then pure []
    else failure

/-- Members up to the closing bracket, with commas between them; one comma may follow the last. -/
def members (close : Token) (member : Composing α) : Nat → Composing (List α)
  | 0 => failure
  | bound + 1 => do
    if ← take close then pure []
    else
      let first ← member
      if ← take .comma then pure (first :: (← members close member bound))
      else if ← take close then pure [first]
      else failure

/-- A key that was left out before a token that is lost with it. -/
def skipped : Composing Node := do
  advance
  pure .absent

/-- An item, or a single key with its value. -/
def flowItem (node : Position → Composing Node) : Composing Node := do
  if ← take .key then
    let key ← if ← nextIn [.value, .comma, .flowSequenceEnd] then skipped else node .flow
    let value ← valueBefore [.comma, .flowSequenceEnd] (node .flow)
    pure (.mapping none [(key, value)])
  else node .flow

def flowEntry (node : Position → Composing Node) : Composing (Node × Node) := do
  if ← take .key then
    let key ← nodeBefore [.value, .comma, .flowMappingEnd] (node .flow)
    pure (key, ← valueBefore [.comma, .flowMappingEnd] (node .flow))
  else pure (← node .flow, .absent)

def anchorHere : Composing (Option String) := do
  match ← next with
  | some (.anchor name) => do
    advance
    pure (some name)
  | _ => pure none

def coreHandle : List UInt8 := Tag.encoded "tag:yaml.org,2002:"
def standardHandles : List (String × List UInt8) := [("!", Tag.encoded "!"), ("!!", coreHandle)]

def resolved (tag : Tag) : Composing (List UInt8) := do
  match tag with
  | .verbatim uri => pure uri
  | .short handle suffix =>
    match ((← get).handles ++ standardHandles).lookup handle with
    | some expansion => pure (expansion ++ suffix)
    | none => failure

def tagHere : Composing (Option (List UInt8)) := do
  match ← next with
  | some (.tag tag) => do
    advance
    pure (some (← resolved tag))
  | _ => pure none

/-- An anchor and a tag in either order. -/
def properties : Composing (Option String × Option (List UInt8)) := do
  let first ← anchorHere
  let tag ← tagHere
  let anchor ← if first.isNone && tag.isSome then anchorHere else pure first
  pure (anchor, tag)

/-- Gives a name to the node that begins here. Its number is how many names there were, so a name that
is given again takes the number that the next new name takes too. -/
def giveName (name : String) : Composing Unit :=
  modify fun c =>
    let others := c.names.filter (·.1 ≠ name)
    { c with names := (name, c.names.length) :: others, numbers := c.names.length :: c.numbers }

/-- Reads a node under its name, if it has one. -/
def naming (anchor : Option String) (content : Composing Node) : Composing Node :=
  match anchor with
  | none => content
  | some name => do
    let place := (← get).numbers.length
    giveName name
    let node ← content
    modify fun c => { c with named := (place, node) :: c.named }
    pure node

/-- A reference to the node that a name stands for here. -/
def referenceTo (name : String) : Composing Node := do
  match (← get).names.lookup name with
  | some number => pure (.reference number)
  | none => failure

/-- A scalar or a collection. After an anchor or a tag it may be left out. -/
def content (node : Position → Composing Node) (position : Position) (bound : Nat)
    (tag : Option (List UInt8)) (mayBeAbsent : Bool) : Composing Node := do
  match ← next, position with
  | some (.scalar text style), _ => do
    advance
    pure (.scalar tag style text)
  | some .flowSequence, _ => do
    advance
    pure (.sequence tag (← members .flowSequenceEnd (flowItem node) bound))
  | some .flowMapping, _ => do
    advance
    pure (.mapping tag (← members .flowMappingEnd (flowEntry node) bound))
  | some .entry, .indentless => pure (.sequence tag (← indentlessItems node bound))
  | some .blockSequence, .block | some .blockSequence, .indentless => do
    advance
    pure (.sequence tag (← blockItems node bound))
  | some .blockMapping, .block | some .blockMapping, .indentless => do
    advance
    pure (.mapping tag (← blockEntries node bound))
  | _, _ => if mayBeAbsent then pure (.scalar tag .plain "") else failure

def nodeWith (node : Position → Composing Node) (bound : Nat) (position : Position) : Composing Node := do
  match ← next with
  | some (.reference name) => do
    advance
    referenceTo name
  | _ => do
    let (anchor, tag) ← properties
    naming anchor (content node position bound tag (anchor.isSome || tag.isSome))

/-- A node made of no more tokens than the bound. -/
def node : Nat → Position → Composing Node
  | 0 => fun _ => failure
  | bound + 1 => nodeWith (node bound) (bound + 1)

/-- Directives, each at most once; whether there were any. -/
def directives : Nat → Bool → Bool → Composing Bool
  | 0, _, seen => pure seen
  | bound + 1, versioned, seen => do
    match ← next with
    | some (.version major minor) => do
      if versioned || major ≠ 1 || (minor ≠ 1 && minor ≠ 2) then failure
      advance
      directives bound true true
    | some (.handle name expansion) => do
      if ((← get).handles.lookup name).isSome then failure
      advance
      modify fun c => { c with handles := c.handles ++ [(name, expansion)] }
      directives bound versioned true
    | _ => pure seen

def isBetween : Token → Bool
  | .documentStart | .documentEnd | .version .. | .handle .. => true
  | _ => false

/-- A single document, with nothing after the marks that end it. -/
def document (bound : Nat) : Composing Node := do
  let directed ← directives bound false false
  let started ← take .documentStart
  if directed && !started then failure
  let root ← if started && (← next).all isBetween then pure .absent else node bound .block
  if (← get).tokens.all (· = .documentEnd) then pure root else failure

end Composing

namespace Composer

/-- The places of named nodes by number; of two under one number the later comes first. -/
def places : List Nat → List (Nat × Nat)
  | [] => []
  | number :: earlier => (number, earlier.length) :: places earlier

def start (tokens : List Token) : Composer := ⟨tokens, [], [], [], []⟩

def targets (c : Composer) : List (Nat × Node) :=
  (places c.numbers).filterMap fun (number, place) => (c.named.lookup place).map (number, ·)

end Composer

/-- The document that the tokens form. -/
def Tree.ofTokens? (tokens : List Token) : Option Tree :=
  ((Composing.document (tokens.length + 1)).run (.start tokens)).map fun (root, c) => ⟨root, c.targets⟩

/-- The document that a text holds. -/
def Tree.ofText? (text : String) : Option Tree := Token.ofText? text >>= Tree.ofTokens?

end StreamPlan.Yaml
