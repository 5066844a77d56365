/-!
# The digest SHA-256

A message is padded to blocks of sixteen words. Each block is spread over a schedule of sixty-four
words, whose rounds are mixed into a state of eight words; the state behind the last block is the
digest.
-/

namespace NodeIdGen.Digest

/-- The first 32 bits of the fractional parts of the cube roots of the first 64 primes. -/
def roundConstants : List UInt32 :=
  [0x428a2f98, 0x71374491, 0xb5c0fbcf, 0xe9b5dba5, 0x3956c25b, 0x59f111f1, 0x923f82a4, 0xab1c5ed5,
   0xd807aa98, 0x12835b01, 0x243185be, 0x550c7dc3, 0x72be5d74, 0x80deb1fe, 0x9bdc06a7, 0xc19bf174,
   0xe49b69c1, 0xefbe4786, 0x0fc19dc6, 0x240ca1cc, 0x2de92c6f, 0x4a7484aa, 0x5cb0a9dc, 0x76f988da,
   0x983e5152, 0xa831c66d, 0xb00327c8, 0xbf597fc7, 0xc6e00bf3, 0xd5a79147, 0x06ca6351, 0x14292967,
   0x27b70a85, 0x2e1b2138, 0x4d2c6dfc, 0x53380d13, 0x650a7354, 0x766a0abb, 0x81c2c92e, 0x92722c85,
   0xa2bfe8a1, 0xa81a664b, 0xc24b8b70, 0xc76c51a3, 0xd192e819, 0xd6990624, 0xf40e3585, 0x106aa070,
   0x19a4c116, 0x1e376c08, 0x2748774c, 0x34b0bcb5, 0x391c0cb3, 0x4ed8aa4a, 0x5b9cca4f, 0x682e6ff3,
   0x748f82ee, 0x78a5636f, 0x84c87814, 0x8cc70208, 0x90befffa, 0xa4506ceb, 0xbef9a3f7, 0xc67178f2]

/-- The eight words that the rounds mix. -/
structure State where
  a : UInt32
  b : UInt32
  c : UInt32
  d : UInt32
  e : UInt32
  f : UInt32
  g : UInt32
  h : UInt32
  deriving DecidableEq, Repr

/-- The first 32 bits of the fractional parts of the square roots of the first 8 primes. -/
def State.initial : State :=
  ⟨0x6a09e667, 0xbb67ae85, 0x3c6ef372, 0xa54ff53a, 0x510e527f, 0x9b05688c, 0x1f83d9ab, 0x5be0cd19⟩

def rotateRight (x : UInt32) (n : UInt32) : UInt32 :=
  (x >>> n) ||| (x <<< (32 - n))

/-- One round with its constant and its word of the schedule. -/
def State.round (s : State) (k w : UInt32) : State :=
  let bigE := rotateRight s.e 6 ^^^ rotateRight s.e 11 ^^^ rotateRight s.e 25
  let chosen := (s.e &&& s.f) ^^^ ((~~~ s.e) &&& s.g)
  let t := s.h + bigE + chosen + k + w
  let bigA := rotateRight s.a 2 ^^^ rotateRight s.a 13 ^^^ rotateRight s.a 22
  let majority := (s.a &&& s.b) ^^^ (s.a &&& s.c) ^^^ (s.b &&& s.c)
  ⟨t + bigA + majority, s.a, s.b, s.c, s.d + t, s.e, s.f, s.g⟩

/-- The sum of two states, word by word. -/
def State.add (s t : State) : State :=
  ⟨s.a + t.a, s.b + t.b, s.c + t.c, s.d + t.d, s.e + t.e, s.f + t.f, s.g + t.g, s.h + t.h⟩

/-- The next `n` words of a schedule of which the last sixteen, last first, are given. -/
def scheduleRest : Nat → List UInt32 → List UInt32
  | 0, _ => []
  | n + 1, last =>
    let w2 := last[1]?.getD 0
    let w7 := last[6]?.getD 0
    let w15 := last[14]?.getD 0
    let w16 := last[15]?.getD 0
    let s0 := rotateRight w15 7 ^^^ rotateRight w15 18 ^^^ (w15 >>> 3)
    let s1 := rotateRight w2 17 ^^^ rotateRight w2 19 ^^^ (w2 >>> 10)
    let w := w16 + s0 + w7 + s1
    w :: scheduleRest n (w :: last.take 15)

def schedule (block : List UInt32) : List UInt32 :=
  block ++ scheduleRest 48 block.reverse

/-- The state behind one more block. -/
def State.absorb (s : State) (block : List UInt32) : State :=
  s.add ((roundConstants.zip (schedule block)).foldl (fun t (k, w) => t.round k w) s)

/-- The big-endian bytes of a number. -/
def bigEndian : Nat → Nat → List UInt8
  | 0, _ => []
  | n + 1, v => bigEndian n (v / 256) ++ [(v % 256).toUInt8]

/-- The words of the bytes; there are four bytes to each. -/
def words : List UInt8 → List UInt32
  | a :: b :: c :: d :: rest =>
    ((a.toUInt32 <<< 24) ||| (b.toUInt32 <<< 16) ||| (c.toUInt32 <<< 8) ||| d.toUInt32) ::
      words rest
  | _ => []

/-- What follows a message of so many bytes: a one bit, zeros, and the number of bits. -/
def padding (size : Nat) : List UInt8 :=
  0x80 :: (List.replicate ((119 - size % 64) % 64) 0 ++ bigEndian 8 (8 * size))

/-- The state behind the words, sixteen at a time; the first argument bounds the blocks. -/
def absorbAll : Nat → State → List UInt32 → State
  | 0, s, _ => s
  | n + 1, s, ws =>
    if ws.isEmpty then s else absorbAll n (s.absorb (ws.take 16)) (ws.drop 16)

def State.toList (s : State) : List UInt32 :=
  [s.a, s.b, s.c, s.d, s.e, s.f, s.g, s.h]

def sha256 (message : List UInt8) : List UInt8 :=
  let ws := words (message ++ padding message.length)
  (absorbAll (ws.length / 16 + 1) .initial ws).toList.flatMap fun w => bigEndian 4 w.toNat

/-- Two hexadecimal digits for each byte. -/
def toHex (bytes : List UInt8) : String :=
  String.ofList (bytes.flatMap fun b =>
    [Nat.digitChar (b.toNat / 16), Nat.digitChar (b.toNat % 16)])

def sha256Hex (message : ByteArray) : String :=
  toHex (sha256 message.toList)

end NodeIdGen.Digest
