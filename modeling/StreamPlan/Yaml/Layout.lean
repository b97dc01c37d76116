import StreamPlan.Yaml.Block
import StreamPlan.Yaml.Plain
import StreamPlan.Yaml.Token

/-! A YAML text cut into tokens. Indentation opens and closes block collections; a colon makes a key of
what was read before it on its line, so the tokens of a key are put in front of it afterwards. -/
namespace StreamPlan.Yaml

/-- A place where a key may turn out to have begun: how many tokens came before it, and where it
stands. A required one begins a line of the innermost block collection and can be nothing else. -/
structure KeyPlace where
  token : Nat
  start : Cursor
  required : Bool
deriving Repr

/-- A key stands on one line and takes up no more octets than this. -/
def keyLimit : Nat := 1024

def KeyPlace.isPast (place : KeyPlace) (c : Cursor) : Bool :=
  place.start.line < c.line || place.start.offset + keyLimit < c.offset

/-- `indents` are the columns of the open block collections, innermost first; `outer` has an entry for
every open bracket, the key that might begin before it; `mayBeKey` holds where a key may begin. -/
structure Layout where
  cursor : Cursor
  tokens : Array Token
  indents : List Nat
  outer : List (Option KeyPlace)
  place : Option KeyPlace
  mayBeKey : Bool

namespace Layout

def start (text : List Char) : Layout := ⟨.start text, #[], [], [], none, true⟩

def inFlow (l : Layout) : Bool := !l.outer.isEmpty

/-- What continues the innermost block collection is indented at least this far. -/
def margin (l : Layout) : Nat :=
  match l.indents with
  | [] => 0
  | column :: _ => column + 1

def emit (token : Token) (l : Layout) : Layout := { l with tokens := l.tokens.push token }
def skip (n : Nat) (l : Layout) : Layout := { l with cursor := l.cursor.skip n }
def allowKey (allowed : Bool) (l : Layout) : Layout := { l with mayBeKey := allowed }

/-- Gives up the key that might have begun on this level. -/
def dropKey (l : Layout) : Option Layout :=
  if l.place.any (·.required) then none else some { l with place := none }

/-- A key may begin here. -/
def noteKey (l : Layout) : Option Layout :=
  if !l.mayBeKey then some l
  else do
    let l ← l.dropKey
    let required := !l.inFlow && l.indents.head? = some l.cursor.column
    some { l with place := some ⟨l.tokens.size, l.cursor, required⟩ }

def live (c : Cursor) (place : Option KeyPlace) : Option (Option KeyPlace) :=
  match place with
  | none => some none
  | some place => if !place.isPast c then some (some place) else if place.required then none else some none

/-- Gives up every key that can no longer be completed. -/
def refresh (l : Layout) : Option Layout := do
  some { l with place := ← live l.cursor l.place, outer := ← l.outer.mapM (live l.cursor) }

/-- Closes the block collections that are indented further than allowed. -/
def closeBlocks (isOpen : Nat → Bool) (l : Layout) : Layout :=
  if l.inFlow then l
  else
    let closed := l.indents.takeWhile (!isOpen ·)
    { l with indents := l.indents.drop closed.length,
             tokens := l.tokens ++ (closed.map fun _ => Token.blockEnd).toArray }

/-- Opens a block collection unless one is open at that column already; its token goes to the given
place among the tokens. -/
def openBlock (column place : Nat) (token : Token) (l : Layout) : Layout :=
  if l.inFlow || column < l.margin then l
  else { l with indents := column :: l.indents, tokens := l.tokens.insertIdxIfInBounds place token }

/-- A mark of byte order at the head of a line is passed over, but it takes up a column. -/
def skipOrderMark (l : Layout) : Layout :=
  if l.cursor.column = 0 && l.cursor.rest.head? = some '\ufeff' then l.skip 1 else l

/-- Blanks and comments before the next token. A tab is no indentation: where a block key may begin
none is skipped. -/
def skipBlanks : Nat → Layout → Layout
  | 0, l => l
  | bound + 1, l =>
    let l := l.skipOrderMark
    let isSkipped (c : Char) : Bool := c = ' ' || (c = '\t' && (l.inFlow || !l.mayBeKey))
    let l := l.skip (l.cursor.rest.takeWhile isSkipped).length
    let l := if l.cursor.rest.head? = some '#' then { l with cursor := l.cursor.skipToBreak } else l
    match l.cursor.break? with
    | some (_, next) => skipBlanks bound { l with cursor := next, mayBeKey := l.mayBeKey || !l.inFlow }
    | none => l

def directive (l : Layout) : Option Layout := do
  let l ← (l.closeBlocks fun _ => false).dropKey
  let (token, rest) ← Token.directive? (l.cursor.rest.drop 1)
  some (((l.emit token).allowKey false).skip (l.cursor.rest.length - rest.length))

def documentMark (l : Layout) : Option Layout := do
  let l ← (l.closeBlocks fun _ => false).dropKey
  some (((l.emit (if l.cursor.atMark '-' then .documentStart else .documentEnd)).allowKey false).skip 3)

def openFlow (token : Token) (l : Layout) : Option Layout := do
  let l ← l.noteKey
  some (({ l with outer := l.place :: l.outer, place := none }.emit token |>.allowKey true).skip 1)

def closeFlow (token : Token) (l : Layout) : Option Layout := do
  let l ← l.dropKey
  let l := match l.outer with
    | place :: outer => { l with place := place, outer := outer }
    | [] => l
  some (((l.emit token).allowKey false).skip 1)

def comma (l : Layout) : Option Layout := do
  some ((((← l.dropKey).emit .comma).allowKey true).skip 1)

/-- Opens a block collection at the cursor where one may begin. -/
def beginBlock (token : Token) (l : Layout) : Option Layout :=
  if l.inFlow then some l
  else if l.mayBeKey then some (l.openBlock l.cursor.column l.tokens.size token)
  else none

def entry (l : Layout) : Option Layout := do
  let l ← (← l.beginBlock .blockSequence).dropKey
  some (((l.emit .entry).allowKey true).skip 1)

def explicitKey (l : Layout) : Option Layout := do
  let l ← (← l.beginBlock .blockMapping).dropKey
  some (((l.emit .key).allowKey !l.inFlow).skip 1)

/-- The value of the key that began before it, or of a key of its own. -/
def value (l : Layout) : Option Layout := do
  let l ← match l.place with
    | some place =>
      let keyed := { l with tokens := l.tokens.insertIdxIfInBounds place.token .key, place := none }
      some ((keyed.openBlock place.start.column place.token .blockMapping).allowKey false)
    | none => (l.beginBlock .blockMapping).map fun l => l.allowKey !l.inFlow
  some ((l.emit .value).skip 1)

/-- A token that may begin a key. -/
def keyed (read : Layout → Option (Token × Cursor)) (l : Layout) : Option Layout := do
  let l ← l.noteKey
  let (token, c) ← read l
  some { (l.emit token).allowKey false with cursor := c }

def named (token : String → Token) (l : Layout) : Option (Token × Cursor) := do
  let (name, rest) ← name? (l.cursor.rest.drop 1)
  some (token name, l.cursor.skip (l.cursor.rest.length - rest.length))

def tagged (l : Layout) : Option (Token × Cursor) := do
  let (tag, rest) ← Tag.read l.inFlow l.cursor.rest
  some (.tag tag, l.cursor.skip (l.cursor.rest.length - rest.length))

def quoted (mark : Char) (l : Layout) : Option (Token × Cursor) := do
  let (text, c) ← quotedScalar mark l.cursor
  some (.scalar (String.ofList text) .quoted, c)

def block (folding : Bool) (l : Layout) : Option Layout := do
  let l ← l.dropKey
  let (text, c) ← blockScalar l.margin folding l.cursor
  let style := if folding then Style.folded else .literal
  some { (l.emit (.scalar (String.ofList text) style)).allowKey true with cursor := c }

def plain (l : Layout) : Option Layout := do
  let l ← l.noteKey
  let scalar ← Plain.ofCursor l.inFlow l.margin l.cursor
  some { (l.emit (.scalar (String.ofList scalar.text) .plain)).allowKey scalar.broken with cursor := scalar.after }

/-- Takes the token that starts with this character. -/
def token (first : Char) (rest : List Char) (l : Layout) : Option Layout :=
  if l.cursor.column = 0 && first = '%' then l.directive
  else if l.cursor.atDocumentMark then l.documentMark
  else if first = '[' then l.openFlow .flowSequence
  else if first = '\x7b' then l.openFlow .flowMapping
  else if first = ']' then l.closeFlow .flowSequenceEnd
  else if first = '\x7d' then l.closeFlow .flowMappingEnd
  else if first = ',' then l.comma
  else if first = '-' && endsWord rest then l.entry
  else if first = '?' && (l.inFlow || endsWord rest) then l.explicitKey
  else if first = ':' && (l.inFlow || endsWord rest) then l.value
  else if first = '*' then l.keyed (named .reference)
  else if first = '&' then l.keyed (named .anchor)
  else if first = '!' then l.keyed tagged
  else if first = '|' && !l.inFlow then l.block false
  else if first = '>' && !l.inFlow then l.block true
  else if first = '\x27' || first = '"' then l.keyed (quoted first)
  else if startsPlain l.inFlow first rest then l.plain
  else none

def finish (l : Layout) : Option (List Token) :=
  ((l.closeBlocks fun _ => false).dropKey).map fun l => l.tokens.toList

/-- The tokens of a text no longer than the bound. -/
def scan : Nat → Layout → Option (List Token)
  | 0, _ => none
  | bound + 1, l => do
    let l ← (skipBlanks (bound + 1) l).refresh
    let l := l.closeBlocks (· ≤ l.cursor.column)
    match l.cursor.rest with
    | [] => l.finish
    | first :: rest => scan bound (← l.token first rest)

end Layout

/-- The tokens of a whole text. -/
def Token.ofText? (text : String) : Option (List Token) :=
  let cs := text.toList
  if cs.all isPrintable then Layout.scan (cs.length + 1) (Layout.start cs) else none

end StreamPlan.Yaml
