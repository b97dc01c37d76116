import StreamPlan.Text.Blank
import StreamPlan.Text.Quoted

/-! How record values are written to and read from a topic, and which ways a deployment admits. -/
namespace StreamPlan

inductive Codec where
  | json
  | delimited (delimiter : Char)
  | avro (schema : String)
deriving DecidableEq, Repr, Inhabited

namespace Codec

def formatName : Codec → String
  | .json => "json"
  | .delimited _ => "delimited"
  | .avro _ => "avro"

def display : Codec → String
  | .json => "JSON"
  | .delimited delimiter => s!"DELIMITED({Text.quoted delimiter})"
  | .avro schema => s!"AVRO({schema})"

end Codec

inductive CodecError where
  | unsupportedFormat (name : String)
  | noSchema
  | separatorDelimiter (delimiter : Char)
deriving DecidableEq, Repr

def CodecError.message : CodecError → String
  | .unsupportedFormat name => s!"unsupported serialization format '{name}'"
  | .noSchema => "invalid codec: avro codec without a schema reference"
  | .separatorDelimiter delimiter =>
    s!"invalid codec: delimiter {Text.quoted delimiter} collides with the record separator"

/-- The formats a deployment knows, by name. -/
structure Registry where
  formats : List String
deriving DecidableEq, Repr

namespace Registry

def standard : Registry := ⟨["json", "delimited", "avro"]⟩
def supports (registry : Registry) (format : String) : Bool := registry.formats.contains format

/-- Why a codec cannot be used, if it cannot. -/
def refusal (registry : Registry) (codec : Codec) : Option CodecError :=
  if !registry.supports codec.formatName then some (.unsupportedFormat codec.formatName)
  else match codec with
    | .avro schema => if Text.allBlank schema then some .noSchema else none
    | .delimited delimiter =>
      if delimiter = '\n' ∨ delimiter = '\r' then some (.separatorDelimiter delimiter) else none
    | .json => none

end Registry
end StreamPlan
