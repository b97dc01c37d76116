import StreamPlan.Hash.Digest

/-! The account of one run: what was run, when, and how many rows went in and out. -/
namespace StreamPlan

def engineVersion : String := "0.1.0"

structure Manifest where
  topology : Digest
  version : String
  rowsIn : Nat
  rowsOut : Nat
  started : Nat
  finished : Nat
deriving DecidableEq, Repr

namespace Manifest

def start (topology : Digest) (time : Nat) : Manifest := ⟨topology, engineVersion, 0, 0, time, time⟩
def finish (manifest : Manifest) (time rowsIn rowsOut : Nat) : Manifest :=
  { manifest with finished := time, rowsIn := rowsIn, rowsOut := rowsOut }

/-- Zero when the clock went backwards. -/
def duration (manifest : Manifest) : Nat := manifest.finished - manifest.started

end Manifest
end StreamPlan
