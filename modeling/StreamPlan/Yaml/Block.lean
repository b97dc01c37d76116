import StreamPlan.Yaml.Cursor

/-! Block scalars: the lines below a header, as they are or folded. Folding joins two lines that both
start with text; what the header says about the end concerns the last line only. -/
namespace StreamPlan.Yaml

inductive Chomping where
  | strip
  | clip
  | keep
deriving DecidableEq, Repr

structure BlockHeader where
  chomping : Chomping
  indent : Option Nat
deriving DecidableEq, Repr

namespace BlockHeader

def chomping? (c : Char) : Option Chomping :=
  if c = '+' then some .keep else if c = '-' then some .strip else none

/-- The two marks of a header in either order, and what follows them. Zero is no indentation. -/
def read (cs : List Char) : Option (BlockHeader × List Char) :=
  let digit (cs : List Char) : Option Nat × List Char :=
    match cs with
    | c :: rest => if c.isDigit then (some (c.toNat - '0'.toNat), rest) else (none, cs)
    | [] => (none, cs)
  let ending (cs : List Char) : Option Chomping × List Char :=
    match cs with
    | c :: rest => match chomping? c with
      | some chomping => (some chomping, rest)
      | none => (none, cs)
    | [] => (none, cs)
  let (first, rest) := ending cs
  let (indent, rest) := digit rest
  let (last, rest) := if first.isNone && indent.isSome then ending rest else (none, rest)
  if indent = some 0 then none else some (⟨(first.or last).getD .clip, indent⟩, rest)

end BlockHeader

/-- A line of text, the break that ends it and the breaks of the empty lines after it. -/
structure BlockLine where
  text : List Char
  ending : List Char
  blank : List Char
deriving DecidableEq, Repr

namespace BlockLine

def startsBlank (line : BlockLine) : Bool := line.text.head?.any isSpace

/-- What stands between two lines. -/
def joint (folding : Bool) (line next : BlockLine) : List Char :=
  if folding && line.ending = ['\n'] && !line.startsBlank && !next.startsBlank then
    if line.blank.isEmpty then [' '] else line.blank
  else line.ending ++ line.blank

def tail (chomping : Chomping) (line : BlockLine) : List Char :=
  match chomping with
  | .strip => []
  | .clip => line.ending
  | .keep => line.ending ++ line.blank

def joined (folding : Bool) (chomping : Chomping) : List BlockLine → List Char
  | [] => []
  | [line] => line.text ++ line.tail chomping
  | line :: next :: rest => line.text ++ line.joint folding next ++ joined folding chomping (next :: rest)

end BlockLine

/-- Breaks of empty lines, the widest column reached among them and the cursor after them. -/
abbrev Blanks := List Char × Nat × Cursor

/-- Empty lines; where the indentation is not known yet, every space counts as such. A tab must not
stand where indentation is due. -/
def emptyLines (indent : Option Nat) : Nat → Nat → Cursor → Option Blanks
  | 0, widest, c => some ([], widest, c)
  | bound + 1, widest, c =>
    let spaces := (c.rest.takeWhile (· = ' ')).length
    let c := c.skip (match indent with
      | some n => min spaces (n - c.column)
      | none => spaces)
    let widest := max widest c.column
    let due := indent.all (c.column < ·)
    if due && c.rest.head? = some '\t' then none
    else match c.break? with
      | some (mark, next) => do
        let (breaks, widest, c) ← emptyLines indent bound widest next
        some (mark :: breaks, widest, c)
      | none => some ([], widest, c)

def blockLines (indent : Nat) : Nat → Cursor → Option (List BlockLine × Cursor)
  | 0, c => some ([], c)
  | bound + 1, c =>
    if c.column ≠ indent || c.rest.isEmpty then some ([], c)
    else do
      let text := c.rest.takeWhile (!isBreak ·)
      let (ending, c) := match (c.skip text.length).break? with
        | some (mark, next) => ([mark], next)
        | none => ([], c.skip text.length)
      let (blank, _, c) ← emptyLines (some indent) (c.rest.length + 1) 0 c
      let (rest, c) ← blockLines indent bound c
      some (⟨text, ending, blank⟩ :: rest, c)

/-- The rest of a header line: blanks and a comment. -/
def headerEnd (c : Cursor) : Option Cursor :=
  let c := c.skip (c.rest.takeWhile isSpace).length
  let c := if c.rest.head? = some '#' then c.skipToBreak else c
  match c.break?, c.rest with
  | some (_, next), _ => some next
  | none, [] => some c
  | none, _ => none

/-- The scalar whose header mark stands here, in a collection with the given margin. -/
def blockScalar (margin : Nat) (folding : Bool) (c : Cursor) : Option (List Char × Cursor) := do
  let (header, rest) ← BlockHeader.read (c.rest.drop 1)
  let c ← headerEnd (c.skip (c.rest.length - rest.length))
  let known := header.indent.map (· + (margin - 1))
  let (leading, widest, c) ← emptyLines known (c.rest.length + 1) 0 c
  let indent := known.getD (max widest (max margin 1))
  let (lines, c) ← blockLines indent (c.rest.length + 1) c
  let kept := if lines.isEmpty && header.chomping ≠ .keep then [] else leading
  some (kept ++ BlockLine.joined folding header.chomping lines, c)

end StreamPlan.Yaml
