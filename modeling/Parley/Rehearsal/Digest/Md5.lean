import Parley.Rehearsal.Digest.Blocks

/-!
# Parley.Rehearsal.Digest.Md5

The digest MD5.

* `Digest.md5`: the digest of a text.
-/

namespace Parley
namespace Rehearsal
namespace Digest
namespace Md5

abbrev Word := BitVec 32

structure State where
  a : Word
  b : Word
  c : Word
  d : Word

def initial : State := ⟨0x67452301, 0xefcdab89, 0x98badcfe, 0x10325476⟩

/-- What is added in each step: digits of the sines of whole numbers. -/
def sines : List Word :=
  [0xd76aa478, 0xe8c7b756, 0x242070db, 0xc1bdceee, 0xf57c0faf, 0x4787c62a, 0xa8304613, 0xfd469501,
   0x698098d8, 0x8b44f7af, 0xffff5bb1, 0x895cd7be, 0x6b901122, 0xfd987193, 0xa679438e, 0x49b40821,
   0xf61e2562, 0xc040b340, 0x265e5a51, 0xe9b6c7aa, 0xd62f105d, 0x02441453, 0xd8a1e681, 0xe7d3fbc8,
   0x21e1cde6, 0xc33707d6, 0xf4d50d87, 0x455a14ed, 0xa9e3e905, 0xfcefa3f8, 0x676f02d9, 0x8d2a4c8a,
   0xfffa3942, 0x8771f681, 0x6d9d6122, 0xfde5380c, 0xa4beea44, 0x4bdecfa9, 0xf6bb4b60, 0xbebfbc70,
   0x289b7ec6, 0xeaa127fa, 0xd4ef3085, 0x04881d05, 0xd9d4d039, 0xe6db99e5, 0x1fa27cf8, 0xc4ac5665,
   0xf4292244, 0x432aff97, 0xab9423a7, 0xfc93a039, 0x655b59c3, 0x8f0ccc92, 0xffeff47d, 0x85845dd1,
   0x6fa87e4f, 0xfe2ce6e0, 0xa3014314, 0x4e0811a1, 0xf7537e82, 0xbd3af235, 0x2ad7d2bb, 0xeb86d391]

/-- By how much each step turns its word. -/
def turns : List Nat :=
  [[7, 12, 17, 22], [5, 9, 14, 20], [4, 11, 16, 23], [6, 10, 15, 21]].flatMap fun row =>
    (List.replicate 4 row).flatten

/-- How a step mixes three words, and which word of the block it takes. -/
def mixed (s : State) (i : Nat) : Word × Nat :=
  if i < 16 then ((s.b &&& s.c) ||| (~~~s.b &&& s.d), i)
  else if i < 32 then ((s.d &&& s.b) ||| (~~~s.d &&& s.c), 5 * i + 1)
  else if i < 48 then (s.b ^^^ s.c ^^^ s.d, 3 * i + 5)
  else (s.c ^^^ (s.b ||| ~~~s.d), 7 * i)

def step (block : List Nat) (s : State) (i : Nat) (sine : Word) (turn : Nat) : State :=
  let (f, k) := mixed s i
  let sum := s.a + f + sine + BitVec.ofNat 32 (block.getD (k % 16) 0)
  ⟨s.d, s.b + sum.rotateLeft turn, s.b, s.c⟩

/-- Takes one block into account. -/
def absorb (s : State) (block : List Nat) : State :=
  let t := ((sines.zip turns).zipIdx).foldl (fun t x => step block t x.2 x.1.1 x.1.2) s
  ⟨s.a + t.a, s.b + t.b, s.c + t.c, s.d + t.d⟩

def form : Form := ⟨4, false⟩

end Md5

/-- The digest of a text. -/
def md5 (bs : Bytes) : Bytes :=
  let s := (Md5.form.blocks bs).foldl Md5.absorb Md5.initial
  [s.a, s.b, s.c, s.d].flatMap fun w => Md5.form.write w.toNat 4

end Digest
end Rehearsal
end Parley
