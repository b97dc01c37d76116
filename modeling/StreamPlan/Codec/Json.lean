import StreamPlan.Codec.Basic
import StreamPlan.Json.Shape

/-! Codecs as JSON: a record tagged with its format. A stage writes its codec beside the format of
the key, which is always a string. -/
namespace StreamPlan.Codec

def toJson : Codec → Json
  | .json => .object [("format", .text "json")]
  | .delimited delimiter => .object [("format", .text "delimited"), ("delimiter", .text delimiter.toString)]
  | .avro schema => .object [("format", .text "avro"), ("schema", .text schema)]

/-- A text of exactly one character. -/
def char? (j : Json) : Option Char := do
  match (← j.text?).toList with
  | [c] => some c
  | _ => none

def ofJson? (manner : Json.Manner) (j : Json) : Option Codec := do
  match ← j.tagged? "format" (Json.word? manner ["json", "delimited", "avro"]) with
  | ("json", .object _) => some .json
  | ("json", .list []) => some .json
  | ("delimited", content) =>
    match ← content.record? ["delimiter"] with
    | [some delimiter] => (char? delimiter).map .delimited
    | _ => some (.delimited ',')
  | ("avro", content) =>
    match ← content.record? ["schema"] with
    | [some schema] => schema.text?.map .avro
    | _ => none
  | _ => none

def withKeyToJson (codec : Codec) : Json := .object [("key", .text "String"), ("value", codec.toJson)]

def withKeyOfJson? (manner : Json.Manner) (j : Json) : Option Codec := do
  match ← j.record? ["key", "value"] with
  | [some key, some value] =>
    match ← key.variant? with
    | ("String", content) => if Json.isBare manner content then ofJson? manner value else none
    | _ => none
  | _ => none

end StreamPlan.Codec
