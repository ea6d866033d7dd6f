import Parley.Rehearsal.Bytes

/-!
# Parley.Rehearsal.Digest.Blocks

Texts as blocks of words, from which digests are made.

* `Digest.blocks`: the blocks of a text with its mark and its length behind it.
* `Digest.toBytes`: the bytes of a word.
-/

namespace Parley
namespace Rehearsal
namespace Digest

/-- The bytes of a number, so many of them, the highest first. -/
def toBytes (n size : Nat) : Bytes :=
  (List.range size).reverse.map fun i => UInt8.ofNat (n >>> (8 * i))

/-- The number that bytes stand for, the highest first. -/
def ofBytes (bs : Bytes) : Nat := bs.foldl (fun n b => n * 256 + b.toNat) 0

/-- Pieces of a list, each with so many members. -/
def pieces {α : Type} (size : Nat) : Nat → List α → List (List α)
  | 0, _ => []
  | _ + 1, [] => []
  | fuel + 1, xs => xs.take size :: pieces size fuel (xs.drop size)

/-- How the words of a digest lie in bytes. -/
structure Form where
  /-- The bytes of one word; a block has sixteen words. -/
  wordSize : Nat
  /-- Whether the highest byte of a word is the first. -/
  bigFirst : Bool

namespace Form

/-- The bytes of a number in the order of a form. -/
def write (f : Form) (n size : Nat) : Bytes :=
  if f.bigFirst then toBytes n size else (toBytes n size).reverse

/-- The number of some bytes in the order of a form. -/
def read (f : Form) (bs : Bytes) : Nat := ofBytes (if f.bigFirst then bs else bs.reverse)

/-- A text with a mark behind it, and with its length in bits at the end of the last block. -/
def padded (f : Form) (bs : Bytes) : Bytes :=
  let block := 16 * f.wordSize
  let room := 2 * f.wordSize
  let used := (bs.length + 1 + room) % block
  let gap := if used == 0 then 0 else block - used
  bs ++ [128] ++ List.replicate gap 0 ++ f.write (8 * bs.length) room

/-- The blocks of a text, each with its words. -/
def blocks (f : Form) (bs : Bytes) : List (List Nat) :=
  let text := f.padded bs
  (pieces (16 * f.wordSize) text.length text).map fun block =>
    (pieces f.wordSize 16 block).map f.read

end Form

/-- Bytes in digits of base sixteen. -/
def hexadecimal (bs : Bytes) : Bytes :=
  let digit (n : UInt8) : UInt8 := if n < 10 then 48 + n else 87 + n
  bs.flatMap fun b => [digit (b / 16), digit (b % 16)]

end Digest
end Rehearsal
end Parley
