import StreamPlan.Json.Number
import StreamPlan.Json.Quoted

/-! What of a JSON text is read. An outline names the parts of a record that are asked for; the others
are passed over, which asks of them nothing but to be written as JSON, however deep or wide they are. -/
namespace StreamPlan.Json

inductive Outline where
  | whole
  | list (item : Outline)
  | record (fields : List (String × Outline))
deriving Repr, Inhabited

namespace Outline

/-- The outline of the part of that name, if it is asked for. -/
def field? (name : String) : Outline → Option Outline
  | .whole => some .whole
  | .list _ => none
  | .record fields => fields.lookup name

/-- The outline of an item of a list, which may stand for a record. -/
def item (place : Nat) : Outline → Outline
  | .whole => .whole
  | .list item => item
  | .record fields => (fields[place]?.map (·.2)).getD .whole

end Outline

def isSpace (c : Char) : Bool := c = ' ' || c = '\n' || c = '\r' || c = '\t'
def skipSpace (cs : List Char) : List Char := cs.dropWhile isSpace

inductive Bracket where
  | list
  | object
deriving DecidableEq, Repr

def Bracket.closing : Bracket → Char
  | .list => ']'
  | .object => '\x7d'

/-- Past a name and the colon after it. -/
def passName (cs : List Char) : Option (List Char) := do
  match skipSpace cs with
  | '"' :: rest =>
    match skipSpace (← passString rest) with
    | ':' :: rest => some rest
    | _ => none
  | _ => none

/-- After a value inside the given brackets, innermost first: past those that close here, up to where
the next value is due. Without brackets none is due. -/
def passEnd : List Bracket → List Char → Option (List Bracket × List Char)
  | [], cs => some ([], cs)
  | bracket :: outer, cs =>
    match skipSpace cs with
    | ',' :: rest =>
      if bracket = .object then (passName rest).map (bracket :: outer, ·) else some (bracket :: outer, rest)
    | c :: rest => if c = bracket.closing then passEnd outer rest else none
    | [] => none

def passAtom : List Char → Option (List Char)
  | 'n' :: 'u' :: 'l' :: 'l' :: rest => some rest
  | 't' :: 'r' :: 'u' :: 'e' :: rest => some rest
  | 'f' :: 'a' :: 'l' :: 's' :: 'e' :: rest => some rest
  | '"' :: rest => passString rest
  | cs => (Numeral.read cs).map (·.2)

/-- Into the list or object that begins here, or past the value. -/
def passStart (brackets : List Bracket) (cs : List Char) : Option (List Bracket × List Char) := do
  match skipSpace cs with
  | '[' :: rest =>
    match skipSpace rest with
    | ']' :: rest => passEnd brackets rest
    | rest => some (.list :: brackets, rest)
  | '\x7b' :: rest =>
    match skipSpace rest with
    | '\x7d' :: rest => passEnd brackets rest
    | rest => (passName rest).map (.object :: brackets, ·)
  | rest => passEnd brackets (← passAtom rest)

def passFrom : Nat → List Bracket → List Char → Option (List Char)
  | 0, _, _ => none
  | bound + 1, brackets, cs =>
    match passStart brackets cs with
    | some ([], rest) => some rest
    | some (brackets, rest) => passFrom bound brackets rest
    | none => none

/-- Past a value. -/
def pass (cs : List Char) : Option (List Char) := passFrom cs.length [] cs

end StreamPlan.Json
