import StreamPlan.Fields
import StreamPlan.Json.Value

/-! The shapes in which JSON carries structured data: records by name or by position, variants by
an outer name, and variants by a tag among their own fields. -/
namespace StreamPlan.Json

def text? : Json → Option String
  | .text s => some s
  | _ => none

def bool? : Json → Option Bool
  | .bool b => some b
  | _ => none

def list? : Json → Option (List Json)
  | .list items => some items
  | _ => none

/-- A whole number from `low` up to and including `high`. -/
def within? (low high : Int) : Json → Option Int
  | .whole n => if low ≤ n ∧ n ≤ high then some n else none
  | _ => none

/-- A whole number that is not negative and fits 64 bits. -/
def count? (j : Json) : Option Nat := (j.within? 0 UInt64.size.pred).map Int.toNat

/-- The values of the named fields, in that order: an object may hold others as well, and a list
gives them by position and must not be longer. -/
def record? (names : List String) : Json → Option (List (Option Json))
  | .object fields => Fields.byName names fields
  | .list items => Fields.byPlace names items
  | _ => none

/-- How variants may be written. Beside a tag the rules are free: the fields of a variant may be given by
position, nothing may be an empty object, and a tag may be the place of its name among all names. -/
inductive Manner where
  | strict
  | free
deriving DecidableEq, Repr

/-- The fields that belong to a variant. -/
def parts? (manner : Manner) (names : List String) (j : Json) : Option (List (Option Json)) :=
  match manner, j with
  | .strict, .list _ => none
  | _, j => j.record? names

/-- A name alone, or an object whose only field is the name with what belongs to it. -/
def variant? : Json → Option (String × Option Json)
  | .text name => some (name, none)
  | .object [(name, value)] => some (name, some value)
  | _ => none

/-- One of several names, or its place among them. -/
def word? (manner : Manner) (names : List String) : Json → Option String
  | .text name => some name
  | .whole n => if manner = .free ∧ 0 ≤ n then names[n.toNat]? else none
  | _ => none

/-- The tag and all that stands beside it: a field of that name, or the first item of a list. -/
def tagged? (tag : String) (word : Json → Option String) : Json → Option (String × Json)
  | .object fields => do
    let name ← (← Fields.once tag fields) >>= word
    some (name, .object (fields.filter fun field => field.1 ≠ tag))
  | .list (name :: items) => (word name).map (·, .list items)
  | _ => none

/-- Nothing belongs to the variant: its name alone, or with null. -/
def isBare (manner : Manner) : Option Json → Bool
  | none | some .null => true
  | some (.object []) => manner = .free
  | _ => false

end StreamPlan.Json
