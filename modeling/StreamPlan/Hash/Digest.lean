import StreamPlan.Hash.Blake3
import StreamPlan.Json.Writer
import StreamPlan.Scalar.Basic

/-! Content digests: of bytes, of text, and of a value through its JSON text. -/
namespace StreamPlan

structure Digest where
  bytes : List UInt8
deriving DecidableEq, Repr

namespace Digest

def ofBytes (bytes : List UInt8) : Digest := ⟨Blake3.hash bytes⟩
def ofText (text : String) : Digest := ofBytes text.toUTF8.toList
def ofJson (j : Json) : Digest := ofText j.render

def hex (digest : Digest) : String := String.ofList (digest.bytes.flatMap Scalar.hexDigits)
/-- The first twelve digits, for people. -/
def short (digest : Digest) : String := String.ofList ((digest.bytes.flatMap Scalar.hexDigits).take 12)

end Digest
end StreamPlan
