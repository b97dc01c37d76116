/-! The BLAKE3 hash with its standard 32 bytes of output. The text is cut into chunks of 1024 bytes,
each compressed block by block; the results are joined in pairs, level by level, an odd one out
moving up unchanged, and the last compression of all carries the root flag. -/
namespace StreamPlan.Blake3

abbrev Words (n : Nat) := Vector UInt32 n

def initial : Words 8 := #v[0x6A09E667, 0xBB67AE85, 0x3C6EF372, 0xA54FF53A, 0x510E527F, 0x9B05688C,
  0x1F83D9AB, 0x5BE0CD19]

def chunkStart : UInt32 := 1
def chunkEnd : UInt32 := 2
def parentFlag : UInt32 := 4
def rootFlag : UInt32 := 8

def rotateRight (x n : UInt32) : UInt32 := (x >>> n) ||| (x <<< (32 - n))

/-- Mixes two message words into a column or diagonal of the state. -/
def mix (v : Words 16) (a b c d : Fin 16) (x y : UInt32) : Words 16 :=
  let va := v[a] + v[b] + x
  let vd := rotateRight (v[d] ^^^ va) 16
  let vc := v[c] + vd
  let vb := rotateRight (v[b] ^^^ vc) 12
  let va := va + vb + y
  let vd := rotateRight (vd ^^^ va) 8
  let vc := vc + vd
  let vb := rotateRight (vb ^^^ vc) 7
  (((v.set a va).set b vb).set c vc).set d vd

def round (v m : Words 16) : Words 16 :=
  let v := mix v 0 4 8 12 m[0] m[1]
  let v := mix v 1 5 9 13 m[2] m[3]
  let v := mix v 2 6 10 14 m[4] m[5]
  let v := mix v 3 7 11 15 m[6] m[7]
  let v := mix v 0 5 10 15 m[8] m[9]
  let v := mix v 1 6 11 12 m[10] m[11]
  let v := mix v 2 7 8 13 m[12] m[13]
  mix v 3 4 9 14 m[14] m[15]

def permute (m : Words 16) : Words 16 :=
  #v[m[2], m[6], m[3], m[10], m[7], m[0], m[4], m[13], m[1], m[11], m[12], m[5], m[9], m[14], m[15], m[8]]

def rounds : Nat → Words 16 → Words 16 → Words 16
  | 0, v, _ => v
  | n + 1, v, m => rounds n (round v m) (permute m)

/-- A compression that is still to be done, so that the root flag can be added to the last one. -/
structure Pending where
  chaining : Words 8
  block : Words 16
  counter : Nat
  length : Nat
  flags : UInt32

def Pending.compress (p : Pending) (extra : UInt32) : Words 8 :=
  let h := p.chaining
  let i := initial
  let v := rounds 7 #v[h[0], h[1], h[2], h[3], h[4], h[5], h[6], h[7], i[0], i[1], i[2], i[3],
    UInt32.ofNat p.counter, UInt32.ofNat (p.counter / UInt32.size), UInt32.ofNat p.length, p.flags ||| extra] p.block
  #v[v[0] ^^^ v[8], v[1] ^^^ v[9], v[2] ^^^ v[10], v[3] ^^^ v[11], v[4] ^^^ v[12], v[5] ^^^ v[13],
    v[6] ^^^ v[14], v[7] ^^^ v[15]]

/-- Little-endian words; what is missing is zero. -/
def wordAt (bytes : Array UInt8) (position : Nat) : UInt32 :=
  let byte (k : Nat) : UInt32 := (bytes.getD (position + k) 0).toUInt32
  byte 0 ||| (byte 1 <<< 8) ||| (byte 2 <<< 16) ||| (byte 3 <<< 24)

def blockOf (bytes : List UInt8) : Words 16 :=
  let array := bytes.toArray
  Vector.ofFn fun k => wordAt array (4 * k.val)

/-- Pieces of the given size, the last one shorter; no text is one empty piece. -/
def pieces (size : Nat) : Nat → List UInt8 → List (List UInt8)
  | 0, bytes => [bytes]
  | bound + 1, bytes =>
    if bytes.length ≤ size then [bytes] else bytes.take size :: pieces size bound (bytes.drop size)

def blocks (counter : Nat) (flags : UInt32) (chaining : Words 8) : List (List UInt8) → Pending
  | [] => ⟨chaining, blockOf [], counter, 0, flags ||| chunkEnd⟩
  | [last] => ⟨chaining, blockOf last, counter, last.length, flags ||| chunkEnd⟩
  | block :: rest =>
    blocks counter 0 (Pending.compress ⟨chaining, blockOf block, counter, block.length, flags⟩ 0) rest

def chunk (counter : Nat) (bytes : List UInt8) : Pending :=
  blocks counter chunkStart initial (pieces 64 16 bytes)

def parent (left right : Words 8) : Pending :=
  ⟨initial, (left ++ right).cast rfl, 0, 64, parentFlag⟩

def joinPairs : List Pending → List Pending
  | left :: right :: rest => parent (left.compress 0) (right.compress 0) :: joinPairs rest
  | rest => rest

def joinAll : Nat → Pending → List Pending → Pending
  | 0, first, _ => first
  | bound + 1, first, rest =>
    match joinPairs (first :: rest) with
    | [] => first
    | [last] => last
    | first :: rest => joinAll bound first rest

def root (bytes : List UInt8) : Words 8 :=
  match (pieces 1024 bytes.length bytes).mapIdx chunk with
  | [] => initial
  | first :: rest => (joinAll rest.length first rest).compress rootFlag

def wordBytes (w : UInt32) : List UInt8 :=
  [w.toUInt8, (w >>> 8).toUInt8, (w >>> 16).toUInt8, (w >>> 24).toUInt8]

def hash (bytes : List UInt8) : List UInt8 := (root bytes).toList.flatMap wordBytes

end StreamPlan.Blake3
