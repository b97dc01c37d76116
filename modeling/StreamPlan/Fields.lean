/-! The parts of a record, given by name or by place. -/
namespace StreamPlan.Fields

/-- The value of a name that must not be repeated. -/
def once (name : String) (fields : List (String × α)) : Option (Option α) :=
  match fields.filter (fun field => field.1 = name) with
  | [] => some none
  | [field] => some (some field.2)
  | _ => none

/-- The values of the names, in that order; there may be others as well. -/
def byName (names : List String) (fields : List (String × α)) : Option (List (Option α)) :=
  names.mapM fun name => once name fields

/-- The values by place, of which there must not be more than names. -/
def byPlace (names : List String) (items : List α) : Option (List (Option α)) :=
  if items.length ≤ names.length then
    some (items.map some ++ List.replicate (names.length - items.length) none)
  else none

/-- A part that is missing has the standard value. -/
def orStandard [Pure f] (standard : β) (read : α → f β) : Option α → f β
  | none => pure standard
  | some a => read a

end StreamPlan.Fields
