import StreamPlan.Json.Reader
import StreamPlan.Yaml.Cursor

/-! Quoted scalars. Lines are folded in both kinds; only quotation marks know escapes, among them the
escaped line break, which leaves nothing behind. -/
namespace StreamPlan.Yaml

def escapes : List (Char × Char) := [
  ('0', '\x00'), ('a', '\x07'), ('b', '\x08'), ('t', '\t'), ('\t', '\t'), ('n', '\n'), ('v', '\x0b'),
  ('f', '\x0c'), ('r', '\r'), ('e', '\x1b'), (' ', ' '), ('"', '"'), ('/', '/'), ('\\', '\\'),
  ('N', '\x85'), ('_', '\xa0'), ('L', '\u2028'), ('P', '\u2029')]

/-- How many hexadecimal digits follow the letter of a numeric escape. -/
def digitsAfter (letter : Char) : Option Nat :=
  if letter = 'x' then some 2 else if letter = 'u' then some 4 else if letter = 'U' then some 8 else none

def hexNumber (digits : List Char) : Option Nat :=
  digits.foldlM (fun n c => (Json.hexValue c).map (16 * n + ·)) 0

def charOf (code : Nat) : Option Char := if code.isValidChar then some (Char.ofNat code) else none

/-- The character an escape stands for, and how many characters follow the backslash. -/
def escape? : List Char → Option (Char × Nat)
  | [] => none
  | letter :: rest =>
    match digitsAfter letter with
    | some n =>
      if rest.length < n then none
      else do some (← charOf (← hexNumber (rest.take n)), n + 1)
    | none => (escapes.lookup letter).map fun c => (c, 1)

abbrev Scalar := List Char × Cursor

def prepend (front : List Char) (scalar : Scalar) : Scalar := (front ++ scalar.1, scalar.2)

/-- The text up to the closing apostrophe; two apostrophes stand for one. -/
def singleQuoted : Nat → Cursor → Option Scalar
  | 0, _ => none
  | bound + 1, c =>
    if c.atDocumentMark then none
    else match c.rest with
      | '\x27' :: '\x27' :: _ => (singleQuoted bound (c.skip 2)).map (prepend ['\x27'])
      | '\x27' :: _ => some ([], c.skip 1)
      | first :: _ =>
        if isGap first then do
          let gap ← Gap.ofCursor 0 false c
          (singleQuoted bound gap.after).map (prepend gap.folded)
        else (singleQuoted bound (c.skip 1)).map (prepend [first])
      | [] => none

/-- The text up to the closing quotation mark. -/
def doubleQuoted : Nat → Cursor → Option Scalar
  | 0, _ => none
  | bound + 1, c =>
    if c.atDocumentMark then none
    else match c.rest with
      | '"' :: _ => some ([], c.skip 1)
      | '\\' :: escaped =>
        match (c.skip 1).break? with
        | some (_, next) => do
          let gap ← Gap.ofCursor 0 true next
          (doubleQuoted bound gap.after).map (prepend gap.breaks)
        | none => do
          let (plain, n) ← escape? escaped
          (doubleQuoted bound (c.skip (n + 1))).map (prepend [plain])
      | first :: _ =>
        if isGap first then do
          let gap ← Gap.ofCursor 0 false c
          (doubleQuoted bound gap.after).map (prepend gap.folded)
        else (doubleQuoted bound (c.skip 1)).map (prepend [first])
      | [] => none

/-- The scalar whose opening quote stands here. -/
def quotedScalar (mark : Char) (c : Cursor) : Option Scalar :=
  if mark = '"' then doubleQuoted c.rest.length (c.skip 1) else singleQuoted c.rest.length (c.skip 1)

end StreamPlan.Yaml
