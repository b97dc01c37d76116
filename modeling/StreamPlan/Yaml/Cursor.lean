/-! A place in a YAML text: what follows it, and where it stands. Columns count from the start of the
line, so a cursor tells indentation apart from other blanks. -/
namespace StreamPlan.Yaml

def isSpace (c : Char) : Bool := c = ' ' || c = '\t'
def isWideBreak (c : Char) : Bool := c = '\u2028' || c = '\u2029'
def isBreak (c : Char) : Bool := c = '\n' || c = '\r' || c = '\x85' || isWideBreak c
def isGap (c : Char) : Bool := isSpace c || isBreak c

/-- A word ends here: at a blank, at a line break or at the end of the text. -/
def endsWord (cs : List Char) : Bool :=
  match cs with
  | [] => true
  | c :: _ => isGap c

/-- The characters a text may hold. -/
def isPrintable (c : Char) : Bool :=
  c = '\t' || c = '\n' || c = '\r' || (' ' ≤ c && c ≤ '~') || c = '\x85' ||
    ('\xa0' ≤ c && c ≤ '\ufffd') || 0x10000 ≤ c.toNat

/-- How many octets the characters take up in UTF-8. -/
def octets (cs : List Char) : Nat := cs.foldl (fun n c => n + c.utf8Size) 0

/-- `offset` counts octets, `column` characters. -/
structure Cursor where
  rest : List Char
  offset : Nat
  line : Nat
  column : Nat
deriving DecidableEq, Repr

namespace Cursor

def start (text : List Char) : Cursor := ⟨text, 0, 0, 0⟩

/-- Past some characters of one line. -/
def skip (n : Nat) (c : Cursor) : Cursor :=
  { c with rest := c.rest.drop n, offset := c.offset + octets (c.rest.take n), column := c.column + n }

def nextLine (n : Nat) (c : Cursor) : Cursor :=
  ⟨c.rest.drop n, c.offset + octets (c.rest.take n), c.line + 1, 0⟩

/-- The line break that stands here and the cursor past it. All breaks count as a line feed but the
two wide ones, and a carriage return goes with the line feed after it. -/
def break? (c : Cursor) : Option (Char × Cursor) :=
  match c.rest with
  | '\r' :: '\n' :: _ => some ('\n', c.nextLine 2)
  | first :: _ =>
    if isWideBreak first then some (first, c.nextLine 1)
    else if isBreak first then some ('\n', c.nextLine 1)
    else none
  | [] => none

/-- Past the characters up to the line break. -/
def skipToBreak (c : Cursor) : Cursor := c.skip (c.rest.takeWhile (!isBreak ·)).length

/-- A line that opens or ends a document: three marks and the end of a word. -/
def atMark (mark : Char) (c : Cursor) : Bool :=
  c.column = 0 && c.rest.take 3 = [mark, mark, mark] && endsWord (c.rest.drop 3)

def atDocumentMark (c : Cursor) : Bool := c.atMark '-' || c.atMark '.'

end Cursor

/-- Blanks and line breaks between two stretches of text. -/
structure Gap where
  spaces : List Char
  breaks : List Char
  after : Cursor
deriving DecidableEq, Repr

namespace Gap

/-- A single line feed reads as a space, and of several the first is dropped. -/
def folded (gap : Gap) : List Char :=
  match gap.breaks with
  | [] => gap.spaces
  | ['\n'] => [' ']
  | '\n' :: more => more
  | breaks => breaks

/-- The gap that starts here, no longer than the bound. Once a line has been broken, blanks are
dropped, and a tab must not stand before the margin. -/
def read (margin : Nat) : Nat → Bool → Cursor → Option Gap
  | 0, _, c => some ⟨[], [], c⟩
  | bound + 1, broken, c =>
    match c.break?, c.rest with
    | some (mark, next), _ => do
      let gap ← read margin bound true next
      some { gap with breaks := mark :: gap.breaks }
    | none, first :: _ =>
      if !isSpace first then some ⟨[], [], c⟩
      else if broken && first = '\t' && c.column < margin then none
      else do
        let gap ← read margin bound broken (c.skip 1)
        some (if broken then gap else { gap with spaces := first :: gap.spaces })
    | none, [] => some ⟨[], [], c⟩

def ofCursor (margin : Nat) (broken : Bool) (c : Cursor) : Option Gap := read margin c.rest.length broken c

end Gap
end StreamPlan.Yaml
