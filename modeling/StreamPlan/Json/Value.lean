/-! JSON values. Whole numbers and floating-point numbers are told apart, and an object keeps its
fields in the order they were written, repeated names included. -/
namespace StreamPlan

inductive Json where
  | null
  | bool (value : Bool)
  | whole (value : Int)
  | real (value : Float)
  | single (value : Float32)
  | text (value : String)
  | list (items : List Json)
  | object (fields : List (String × Json))
deriving Repr, BEq, Inhabited

namespace Json

/-- Puts a field into a list sorted by name, in place of a field of the same name. -/
def putField (name : String) (value : Json) : List (String × Json) → List (String × Json)
  | [] => [(name, value)]
  | (other, old) :: rest =>
    if name = other then (name, value) :: rest
    else if name < other then (name, value) :: (other, old) :: rest
    else (other, old) :: putField name value rest

mutual
/-- Every object sorted by name, the last field of a name standing for all of them. -/
def sorted : Json → Json
  | .list items => .list (sortedItems items)
  | .object fields => .object ((sortedFields fields).foldl (fun done field => putField field.1 field.2 done) [])
  | other => other
def sortedItems : List Json → List Json
  | [] => []
  | item :: rest => sorted item :: sortedItems rest
def sortedFields : List (String × Json) → List (String × Json)
  | [] => []
  | (name, value) :: rest => (name, sorted value) :: sortedFields rest
end

end Json
end StreamPlan
