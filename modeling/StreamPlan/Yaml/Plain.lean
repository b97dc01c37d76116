import StreamPlan.Yaml.Cursor

/-! Plain scalars: text without quotes, which ends where other parts of the document may begin. -/
namespace StreamPlan.Yaml

def isFlowMark (c : Char) : Bool := c = ',' || c = '[' || c = ']' || c = '\x7b' || c = '\x7d'

/-- Characters that open something other than a plain scalar. -/
def isIndicator (c : Char) : Bool := "-?:,[]\x7b\x7d#&*!|>\x27\"%@\x60".toList.contains c

/-- A plain scalar starts with no indicator, except where a dash, question mark or colon is part of a
word. -/
def startsPlain (inFlow : Bool) (c : Char) (rest : List Char) : Bool :=
  !(isGap c || isIndicator c) || (c = '-' && !rest.head?.any isSpace) ||
    (!inFlow && (c = '?' || c = ':') && !endsWord rest)

def isColonClash (c : Char) : Bool := c = '?' || isFlowMark c

/-- The text without blanks that starts here. Inside brackets, a colon before a bracket, comma or
question mark is refused. -/
def chunk (inFlow : Bool) : List Char → Option (List Char)
  | [] => some []
  | c :: rest =>
    if isGap c then some []
    else if inFlow && c = ':' && rest.head?.any isColonClash then none
    else if (c = ':' && endsWord rest) || (inFlow && isFlowMark c) then some []
    else (chunk inFlow rest).map (c :: ·)

/-- A plain scalar with the cursor past the blanks after it, and whether a line ended among those. -/
structure Plain where
  text : List Char
  broken : Bool
  after : Cursor
deriving DecidableEq, Repr

namespace Plain

/-- Reads on in further lines as long as they are indented up to the margin. -/
def read (inFlow : Bool) (margin : Nat) : Nat → Bool → Cursor → Option Plain
  | 0, broken, c => some ⟨[], broken, c⟩
  | bound + 1, broken, c =>
    if c.atDocumentMark || c.rest.head? = some '#' then some ⟨[], broken, c⟩
    else do
      let text ← chunk inFlow c.rest
      let c := c.skip text.length
      let gap ← Gap.ofCursor margin false c
      if gap.after.offset = c.offset then some ⟨text, broken && text.isEmpty, c⟩
      else
        let broken := !gap.breaks.isEmpty
        if !inFlow && gap.after.column < margin then some ⟨text, broken, gap.after⟩
        else
          let more ← read inFlow margin bound broken gap.after
          some { more with text := text ++ if more.text.isEmpty then [] else gap.folded ++ more.text }

def ofCursor (inFlow : Bool) (margin : Nat) (c : Cursor) : Option Plain :=
  read inFlow margin c.rest.length false c

end Plain
end StreamPlan.Yaml
