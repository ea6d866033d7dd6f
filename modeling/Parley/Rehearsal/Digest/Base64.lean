import Parley.Rehearsal.Bytes

/-!
# Parley.Rehearsal.Digest.Base64

Bytes as letters of which each stands for six bits.

* `Digest.Base64.encode`: the letters of some bytes.
* `Digest.Base64.decode`: the bytes of some letters.
-/

namespace Parley
namespace Rehearsal
namespace Digest
namespace Base64

/-- The letter of a number below 64. -/
def letter (n : UInt8) : UInt8 :=
  if n < 26 then 65 + n
  else if n < 52 then 71 + n
  else if n < 62 then n - 4
  else if n == 62 then 43 else 47

/-- The number of a letter. -/
def value? (b : UInt8) : Option UInt8 :=
  if 65 ≤ b && b ≤ 90 then some (b - 65)
  else if 97 ≤ b && b ≤ 122 then some (b - 71)
  else if 48 ≤ b && b ≤ 57 then some (b + 4)
  else if b == 43 then some 62
  else if b == 47 then some 63 else none

def isLetter (b : UInt8) : Bool := (value? b).isSome

/-- The mark that fills up the last group. -/
def filler : UInt8 := 61

def encode : Bytes → Bytes
  | [] => []
  | [a] => [letter (a / 4), letter (a % 4 * 16), filler, filler]
  | [a, b] => [letter (a / 4), letter (a % 4 * 16 + b / 16), letter (b % 16 * 4), filler]
  | a :: b :: c :: rest =>
    letter (a / 4) :: letter (a % 4 * 16 + b / 16) :: letter (b % 16 * 4 + c / 64) ::
      letter (c % 64) :: encode rest

/-- The bytes of a group of four, and whether it is whole and right. -/
def group (bs : Bytes) : Bytes × Bool :=
  match bs.map value? with
  | some a :: some b :: rest =>
    let first := a * 4 + b / 16
    match rest, bs.drop 2 with
    | [some c, some d], _ => ([first, b % 16 * 16 + c / 4, c % 4 * 64 + d], true)
    | some c :: _, m => ([first, b % 16 * 16 + c / 4], m.drop 1 == [filler])
    | _, m => ([first], m == [filler, filler])
  | _ => ([], false)

/-- The bytes of some letters up to the first group that is wrong, and whether there is none. -/
def decodeFrom : Nat → Bytes → Bytes × Bool
  | 0, _ => ([], true)
  | fuel + 1, bs =>
    if bs.isEmpty then ([], true)
    else
      match group (bs.take 4) with
      | (out, false) => (out, false)
      | (out, true) =>
        let (more, good) := decodeFrom fuel (bs.drop 4)
        (out ++ more, good)

def decode (bs : Bytes) : Bytes × Bool := decodeFrom bs.length bs

end Base64
end Digest
end Rehearsal
end Parley
