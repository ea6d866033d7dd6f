import Parley.Rehearsal.Bytes

/-!
# Parley.Rehearsal.Digest.Checksum

Checksums of texts.

* `Digest.crc`: the remainder of a division of polynomials, of the text and its length.
* `Digest.turning`: a sum of 16 bits that is turned before each byte.
* `Digest.folded`: a sum of bytes with its carries folded in.
-/

namespace Parley
namespace Rehearsal
namespace Digest

/-- Divides by the polynomial for one more bit. -/
def crcBit (r : UInt32) : UInt32 :=
  if r &&& 0x80000000 != 0 then (r <<< 1) ^^^ 0x04c11db7 else r <<< 1

/-- Divides for one more byte. -/
def crcByte (r : UInt32) (b : UInt8) : UInt32 :=
  (List.range 8).foldl (fun r _ => crcBit r) (r ^^^ (b.toUInt32 <<< 24))

/-- The bytes of a length, the lowest first, without zeros at the end. -/
def lengthBytes : Nat → Nat → Bytes
  | 0, _ => []
  | fuel + 1, n => if n == 0 then [] else UInt8.ofNat n :: lengthBytes fuel (n / 256)

def crc (bs : Bytes) : Nat :=
  (~~~((bs ++ lengthBytes 8 bs.length).foldl crcByte 0)).toNat

/-- The same as bytes, the highest first. -/
def crcBytes (bs : Bytes) : Bytes :=
  [24, 16, 8, 0].map fun shift => UInt8.ofNat (crc bs >>> shift)

def turning (bs : Bytes) : Nat :=
  bs.foldl (fun n b => (n / 2 + n % 2 * Nat.pow 2 15 + b.toNat) % Nat.pow 2 16) 0

def folded (bs : Bytes) : Nat :=
  let sum := (bs.map UInt8.toNat).foldl (· + ·) 0 % Nat.pow 2 32
  let once := sum % Nat.pow 2 16 + sum / Nat.pow 2 16
  once % Nat.pow 2 16 + once / Nat.pow 2 16

end Digest
end Rehearsal
end Parley
