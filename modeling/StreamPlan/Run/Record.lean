import StreamPlan.Scalar.Basic

/-! Keyed records, and tables of them: one record a key, in the order in which keys first came. -/
namespace StreamPlan

structure Record where
  key : String
  row : Row
deriving DecidableEq, BEq, Repr, Inhabited

def Record.display (record : Record) : String := s!"{record.key} | {record.row.display}"

/-- Puts a record in the place of the one with its key, or at the end. -/
def upsert (table : List Record) (record : Record) : List Record :=
  match table with
  | [] => [record]
  | first :: rest => if first.key = record.key then record :: rest else first :: upsert rest record

def latestPerKey (records : List Record) : List Record := records.foldl upsert []

/-- The row of a key; the last one where a key comes more than once. -/
def rowOfKey (table : List Record) (key : String) : Option Row :=
  (table.reverse.find? fun record => record.key = key).map (·.row)

end StreamPlan
