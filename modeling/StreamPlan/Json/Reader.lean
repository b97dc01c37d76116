import StreamPlan.Json.Outline

/-! JSON text read into values. The depth of nesting is bounded, which is also what the recursion
runs on; every list of members is read with the number of characters left as its bound. The bound on
nesting does not concern what is passed over. -/
namespace StreamPlan.Json

/-- Lists and objects may stand in one another this deep. -/
def nestingLimit : Nat := 127

abbrev Reads (α : Type) := List Char → Option (α × List Char)

/-- Items up to the closing bracket, the first of them due now. -/
def itemsFrom (item : Nat → Reads Json) : Nat → Nat → Reads (List Json)
  | 0, _, _ => none
  | bound + 1, place, cs => do
    let (first, rest) ← item place cs
    match skipSpace rest with
    | ',' :: rest => do
      let (others, rest) ← itemsFrom item bound (place + 1) rest
      some (first :: others, rest)
    | ']' :: rest => some ([first], rest)
    | _ => none

/-- A field, where its part is asked for. -/
def fieldOf (part : String → Option (Reads Json)) (cs : List Char) :
    Option (Option (String × Json) × List Char) := do
  match skipSpace cs with
  | '"' :: rest => do
    let (name, rest) ← stringBody rest
    match skipSpace rest, part (String.ofList name) with
    | ':' :: rest, some value => do
      let (value, rest) ← value rest
      some (some (String.ofList name, value), rest)
    | ':' :: rest, none => do some (none, ← pass rest)
    | _, _ => none
  | _ => none

/-- Fields up to the closing brace, the first of them due now. -/
def fieldsFrom (part : String → Option (Reads Json)) : Nat → Reads (List (String × Json))
  | 0, _ => none
  | bound + 1, cs => do
    let (first, rest) ← fieldOf part cs
    match skipSpace rest with
    | ',' :: rest => do
      let (others, rest) ← fieldsFrom part bound rest
      some (first.toList ++ others, rest)
    | '\x7d' :: rest => some (first.toList, rest)
    | _ => none

def listOf (item : Nat → Reads Json) (cs : List Char) : Option (Json × List Char) :=
  match skipSpace cs with
  | ']' :: rest => some (.list [], rest)
  | rest => (itemsFrom item rest.length 0 rest).map fun (items, rest) => (.list items, rest)

def objectOf (part : String → Option (Reads Json)) (cs : List Char) : Option (Json × List Char) :=
  match skipSpace cs with
  | '\x7d' :: rest => some (.object [], rest)
  | rest => (fieldsFrom part rest.length rest).map fun (fields, rest) => (.object fields, rest)

def atom : Reads Json
  | 'n' :: 'u' :: 'l' :: 'l' :: rest => some (.null, rest)
  | 't' :: 'r' :: 'u' :: 'e' :: rest => some (.bool true, rest)
  | 'f' :: 'a' :: 'l' :: 's' :: 'e' :: rest => some (.bool false, rest)
  | '"' :: rest => (stringBody rest).map fun (body, rest) => (.text (String.ofList body), rest)
  | cs => number cs

/-- A value, read along the outline. -/
def value (depth : Nat) (outline : Outline) (cs : List Char) : Option (Json × List Char) :=
  match depth, skipSpace cs with
  | 0, '[' :: _ => none
  | 0, '\x7b' :: _ => none
  | deeper + 1, '[' :: rest => listOf (fun place => value deeper (outline.item place)) rest
  | deeper + 1, '\x7b' :: rest => objectOf (fun name => (outline.field? name).map (value deeper)) rest
  | _, rest => atom rest

/-- What an outline asks for of a whole text, with objects as written. -/
def readAlong (outline : Outline) (text : String) : Option Json := do
  let (value, rest) ← value nestingLimit outline text.toList
  if skipSpace rest = [] then some value else none

/-- The value of a whole text, with every object sorted and the last of repeated names kept. -/
def read (text : String) : Option Json := (readAlong .whole text).map sorted

end StreamPlan.Json
