/-!
# UTF-8 with stray bytes

Bytes as characters, with `none` for each byte that belongs to no character.
-/

namespace NodeIdGen.Text

/-- The payload of a byte that continues a character. -/
def continuation? (b : UInt8) : Option Nat :=
  if b.toNat / 64 = 2 then some (b.toNat % 64) else none

/-- The character of a lead byte and so many continuations, if it could not be written shorter. -/
def wideChar? (lead least : Nat) (following : List UInt8) (n : Nat) : Option Char :=
  let parts := (following.take n).filterMap continuation?
  let point := parts.foldl (fun v p => 64 * v + p) lead
  if parts.length = n ∧ least ≤ point ∧ point.isValidChar then some (Char.ofNat point) else none

/-- The first character of the bytes behind a first byte, and how many of them it takes. -/
def firstChar? (b : UInt8) (following : List UInt8) : Option (Char × Nat) :=
  let n := b.toNat
  if n < 0x80 then some (Char.ofNat n, 0)
  else if n / 32 = 6 then (wideChar? (n % 32) 0x80 following 1).map (·, 1)
  else if n / 16 = 14 then (wideChar? (n % 16) 0x800 following 2).map (·, 2)
  else if n / 8 = 30 then (wideChar? (n % 8) 0x10000 following 3).map (·, 3)
  else none

/-- The characters of the bytes; the first argument bounds their number. -/
def decodeUtf8 : Nat → List UInt8 → List (Option Char)
  | 0, _ => []
  | _ + 1, [] => []
  | n + 1, b :: bs =>
    match firstChar? b bs with
    | some (c, k) => some c :: decodeUtf8 n (bs.drop k)
    | none => none :: decodeUtf8 n bs

/-- The characters of the bytes, with `none` for each stray byte. -/
def charsOfBytes (bytes : ByteArray) : List (Option Char) :=
  match String.fromUTF8? bytes with
  | some s => s.toList.map some
  | none => decodeUtf8 bytes.size bytes.toList

end NodeIdGen.Text
