import StreamPlan.Decimal.Whole
import StreamPlan.Yaml.Quoted

/-! Tokens of a YAML text, and the words among them that stand by themselves: anchors, tags and
directives. -/
namespace StreamPlan.Yaml

/-- How a scalar was written. -/
inductive Style where
  | plain
  | quoted
  | literal
  | folded
deriving DecidableEq, Repr, Inhabited

/-- A tag as written: in full, or a handle and what follows it. What a tag says is octets, since some
may be escaped that are no text together. -/
inductive Tag where
  | verbatim (uri : List UInt8)
  | short (handle : String) (suffix : List UInt8)
deriving DecidableEq, Repr

inductive Token where
  | version (major minor : Nat)
  | handle (name : String) (expansion : List UInt8)
  | documentStart
  | documentEnd
  | blockSequence
  | blockMapping
  | blockEnd
  | flowSequence
  | flowSequenceEnd
  | flowMapping
  | flowMappingEnd
  | entry
  | comma
  | key
  | value
  | reference (name : String)
  | anchor (name : String)
  | tag (tag : Tag)
  | scalar (text : String) (style : Style)
deriving DecidableEq, Repr

def isWordPart (c : Char) : Bool := c.isAlphanum || c = '_' || c = '-'

/-- The word that stands here, if it is one, and what follows it. -/
def word? (cs : List Char) : Option (List Char × List Char) :=
  let word := cs.takeWhile isWordPart
  if word.isEmpty then none else some (word, cs.dropWhile isWordPart)

/-- What may follow the name of an anchor. -/
def endsName (cs : List Char) : Bool := endsWord cs || cs.head?.any ("?:,]\x7d%@\x60".toList.contains ·)

/-- The name of an anchor or of a reference to one, after its mark. -/
def name? (cs : List Char) : Option (String × List Char) := do
  let (name, rest) ← word? cs
  if endsName rest then some (String.ofList name, rest) else none

namespace Tag

def isUriPart (c : Char) : Bool := isWordPart c || ";/?:@&=+$.!~*\x27()".toList.contains c
def isBracket (c : Char) : Bool := c = ',' || c = '[' || c = ']'

/-- The octet written as a percent sign and two hexadecimal digits. -/
def octet? : List Char → Option (UInt8 × List Char)
  | '%' :: a :: b :: rest => do some (UInt8.ofNat (16 * (← Json.hexValue a) + (← Json.hexValue b)), rest)
  | _ => none

/-- How many octets follow one that begins a character. -/
def octetsAfter (first : UInt8) : Option Nat :=
  if first < 0x80 then some 0
  else if first &&& 0xE0 = 0xC0 then some 1
  else if first &&& 0xF0 = 0xE0 then some 2
  else if first &&& 0xF8 = 0xF0 then some 3
  else none

def following? : Nat → List Char → Option (List UInt8 × List Char)
  | 0, cs => some ([], cs)
  | n + 1, cs => do
    let (first, rest) ← octet? cs
    if first &&& 0xC0 ≠ 0x80 then none
    let (others, rest) ← following? n rest
    some (first :: others, rest)

/-- An octet that begins a character and those that must follow it. Whether there is such a character
is not asked. -/
def escaped? (cs : List Char) : Option (List UInt8 × List Char) := do
  let (first, rest) ← octet? cs
  let (others, rest) ← following? (← octetsAfter first) rest
  some (first :: others, rest)

def encoded (text : String) : List UInt8 := text.toUTF8.data.toList

/-- The octets of a tag; brackets and commas are among them only in a tag written in full. -/
def uri (full : Bool) : Nat → List Char → Option (List UInt8 × List Char)
  | 0, cs => some ([], cs)
  | bound + 1, cs =>
    match cs with
    | '%' :: _ => do
      let (octets, rest) ← escaped? cs
      let (more, rest) ← uri full bound rest
      some (octets ++ more, rest)
    | c :: rest =>
      if isUriPart c || (full && isBracket c) then do
        let (more, rest) ← uri full bound rest
        some (encoded c.toString ++ more, rest)
      else some ([], cs)
    | [] => some ([], [])

/-- An octet of zero ends a tag early. -/
def upToZero (octets : List UInt8) : List UInt8 := octets.takeWhile (· ≠ 0)

def someUri (full : Bool) (cs : List Char) : Option (List UInt8 × List Char) := do
  let (octets, rest) ← uri full cs.length cs
  if octets.isEmpty then none else some (upToZero octets, rest)

/-- The tag that is nothing but the mark. -/
def bare : Tag := .verbatim (encoded "!")

/-- A tag between angle brackets, after the opening one. -/
def verbatim? (cs : List Char) : Option (Tag × List Char) := do
  match ← someUri true cs with
  | (uri, '>' :: rest) => some (.verbatim uri, rest)
  | _ => none

/-- A handle that ends in its own exclamation mark, or the bare mark, after the first mark. -/
def handled (cs : List Char) : Option (Tag × List Char) :=
  let name := cs.takeWhile isWordPart
  match cs.dropWhile isWordPart with
  | '!' :: rest => do
    let (suffix, rest) ← someUri false rest
    some (.short (String.ofList ('!' :: name ++ ['!'])) suffix, rest)
  | rest => do
    let (more, rest) ← uri false rest.length rest
    let suffix := upToZero (encoded (String.ofList name) ++ more)
    some (if suffix.isEmpty then bare else .short "!" suffix, rest)

/-- The tag whose mark stands here. -/
def read (inFlow : Bool) (cs : List Char) : Option (Tag × List Char) := do
  let (tag, rest) ← match cs with
    | '!' :: '<' :: rest => verbatim? rest
    | _ :: rest => handled rest
    | [] => none
  if endsWord rest || (inFlow && rest.head? = some ',') then some (tag, rest) else none

end Tag

namespace Token

def skipSpaces (cs : List Char) : List Char := cs.dropWhile isSpace

/-- A part of a version number, of nine digits at most. -/
def versionPart (cs : List Char) : Option (Nat × List Char) :=
  let digits := cs.takeWhile Char.isDigit
  if digits.isEmpty || 9 < digits.length then none
  else some (Decimal.natural digits, cs.dropWhile Char.isDigit)

def version? (cs : List Char) : Option (Token × List Char) := do
  let (major, rest) ← versionPart (skipSpaces cs)
  match rest with
  | '.' :: rest => do
    let (minor, rest) ← versionPart rest
    some (.version major minor, rest)
  | _ => none

/-- A name between exclamation marks, or the bare mark. -/
def handleName (cs : List Char) : Option (String × List Char) :=
  match cs with
  | '!' :: rest =>
    let name := rest.takeWhile isWordPart
    match rest.dropWhile isWordPart with
    | '!' :: rest => some (String.ofList ('!' :: name ++ ['!']), rest)
    | rest => if name.isEmpty then some ("!", rest) else none
  | _ => none

def handle? (cs : List Char) : Option (Token × List Char) := do
  let (name, rest) ← handleName (skipSpaces cs)
  if !rest.head?.any isSpace then none
  let (expansion, rest) ← Tag.someUri true (skipSpaces rest)
  if endsWord rest then some (.handle name expansion, rest) else none

/-- A directive after its percent sign; blanks and a comment may follow it on its line. -/
def directive? (cs : List Char) : Option (Token × List Char) := do
  let (name, rest) ← word? cs
  if !endsWord rest then none
  let (token, rest) ← match String.ofList name with
    | "YAML" => version? rest
    | "TAG" => handle? rest
    | _ => none
  let rest := skipSpaces rest
  let rest := if rest.head? = some '#' then rest.dropWhile (!isBreak ·) else rest
  if rest.isEmpty || rest.head?.any isBreak then some (token, rest) else none

end Token
end StreamPlan.Yaml
