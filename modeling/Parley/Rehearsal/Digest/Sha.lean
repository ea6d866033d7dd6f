import Parley.Rehearsal.Digest.Blocks

/-!
# Parley.Rehearsal.Digest.Sha

The digests of the SHA family. The second generation is written once, for words of any width; its
constants are digits of the roots of primes.

* `Digest.sha1`: the first one.
* `Digest.sha224`, `sha256`, `sha384`, `sha512`: the second generation.
-/

namespace Parley
namespace Rehearsal
namespace Digest
namespace Sha

/-! ## The first one -/

/-- Words behind those of a block: each comes from four before it. Newer words stand in front. -/
def extendFirst : Nat → List (BitVec 32) → List (BitVec 32)
  | 0, ws => ws
  | n + 1, ws =>
    let word (i : Nat) : BitVec 32 := ws.getD (i - 1) 0
    extendFirst n ((word 3 ^^^ word 8 ^^^ word 14 ^^^ word 16).rotateLeft 1 :: ws)

structure First where
  a : BitVec 32
  b : BitVec 32
  c : BitVec 32
  d : BitVec 32
  e : BitVec 32

def First.initial : First := ⟨0x67452301, 0xefcdab89, 0x98badcfe, 0x10325476, 0xc3d2e1f0⟩

/-- How a step mixes three words, and what it adds. -/
def First.mixed (s : First) (i : Nat) : BitVec 32 × BitVec 32 :=
  if i < 20 then ((s.b &&& s.c) ||| (~~~s.b &&& s.d), 0x5a827999)
  else if i < 40 then (s.b ^^^ s.c ^^^ s.d, 0x6ed9eba1)
  else if i < 60 then ((s.b &&& s.c) ||| (s.b &&& s.d) ||| (s.c &&& s.d), 0x8f1bbcdc)
  else (s.b ^^^ s.c ^^^ s.d, 0xca62c1d6)

def First.step (s : First) (i : Nat) (w : BitVec 32) : First :=
  let (f, k) := s.mixed i
  ⟨s.a.rotateLeft 5 + f + s.e + k + w, s.a, s.b.rotateLeft 30, s.c, s.d⟩

/-- Takes one block into account. -/
def First.absorb (s : First) (block : List Nat) : First :=
  let ws := (extendFirst 64 (block.map (BitVec.ofNat 32)).reverse).reverse
  let t := ws.zipIdx.foldl (fun t w => t.step w.2 w.1) s
  ⟨s.a + t.a, s.b + t.b, s.c + t.c, s.d + t.d, s.e + t.e⟩

/-! ## The second generation -/

def isPrime (n : Nat) : Bool := 2 ≤ n && (List.range n).all fun d => d < 2 || n % d != 0

/-- The first eighty primes. -/
def primes : List Nat := (List.range 410).filter isPrime

/-- The whole part of a root. -/
def root (degree n : Nat) : Nat :=
  (List.range 72).reverse.foldl (fun r i =>
    if Nat.pow (r + Nat.pow 2 i) degree ≤ n then r + Nat.pow 2 i else r) 0

/-- The first 64 binary places of a root, behind the point. -/
def places (degree p : Nat) : Nat := root degree (p * Nat.pow 2 (64 * degree)) % Nat.pow 2 64

/-- What is added in each step: places of the cube roots of primes. -/
def cubes : List Nat := primes.map (places 3)

/-- Places of the square roots of eight primes. -/
def squares (skip : Nat) : List Nat := ((primes.drop skip).take 8).map (places 2)

/-- How words of one width are turned and shifted, and how many steps there are. -/
structure Manner (width : Nat) where
  steps : Nat
  /-- The turns of the two sums that mix the state. -/
  upper : Nat × Nat × Nat
  lower : Nat × Nat × Nat
  /-- Two turns and a shift for each of the two sums that extend a block. -/
  near : Nat × Nat × Nat
  far : Nat × Nat × Nat

def short : Manner 32 := ⟨64, (2, 13, 22), (6, 11, 25), (7, 18, 3), (17, 19, 10)⟩

def long : Manner 64 := ⟨80, (28, 34, 39), (14, 18, 41), (1, 8, 7), (19, 61, 6)⟩

def turned {w : Nat} (ways : Nat × Nat × Nat) (x : BitVec w) : BitVec w :=
  x.rotateRight ways.1 ^^^ x.rotateRight ways.2.1 ^^^ x.rotateRight ways.2.2

def spread {w : Nat} (ways : Nat × Nat × Nat) (x : BitVec w) : BitVec w :=
  x.rotateRight ways.1 ^^^ x.rotateRight ways.2.1 ^^^ x >>> ways.2.2

/-- Words behind those of a block. Newer words stand in front. -/
def Manner.extend {w : Nat} (m : Manner w) : Nat → List (BitVec w) → List (BitVec w)
  | 0, ws => ws
  | n + 1, ws =>
    let word (i : Nat) : BitVec w := ws.getD (i - 1) 0
    m.extend n ((spread m.far (word 2) + word 7 + spread m.near (word 15) + word 16) :: ws)

structure Second (w : Nat) where
  a : BitVec w
  b : BitVec w
  c : BitVec w
  d : BitVec w
  e : BitVec w
  f : BitVec w
  g : BitVec w
  h : BitVec w

namespace Second

variable {w : Nat}

def ofList (ws : List (BitVec w)) : Second w :=
  ⟨ws.getD 0 0, ws.getD 1 0, ws.getD 2 0, ws.getD 3 0, ws.getD 4 0, ws.getD 5 0, ws.getD 6 0,
    ws.getD 7 0⟩

def toList (s : Second w) : List (BitVec w) := [s.a, s.b, s.c, s.d, s.e, s.f, s.g, s.h]

def step (m : Manner w) (s : Second w) (k x : BitVec w) : Second w :=
  let choice := (s.e &&& s.f) ^^^ (~~~s.e &&& s.g)
  let most := (s.a &&& s.b) ^^^ (s.a &&& s.c) ^^^ (s.b &&& s.c)
  let one := s.h + turned m.lower s.e + choice + k + x
  let two := turned m.upper s.a + most
  ⟨one + two, s.a, s.b, s.c, s.d + one, s.e, s.f, s.g⟩

/-- Takes one block into account. -/
def absorb (m : Manner w) (ks : List (BitVec w)) (s : Second w) (block : List Nat) : Second w :=
  let ws := (m.extend (m.steps - 16) (block.map (BitVec.ofNat w)).reverse).reverse
  let t := (ks.zip ws).foldl (fun t x => step m t x.1 x.2) s
  ofList (List.zipWith (· + ·) s.toList t.toList)

/-- The bytes of the state behind a text. -/
def digest (m : Manner w) (ks initial : List (BitVec w)) (bs : Bytes) : Bytes :=
  let f : Form := ⟨w / 8, true⟩
  let s := (f.blocks bs).foldl (absorb m ks) (ofList initial)
  s.toList.flatMap fun x => toBytes x.toNat (w / 8)

end Second

/-- The upper half of a word. -/
def upperHalf (n : Nat) : BitVec 32 := BitVec.ofNat 32 (n >>> 32)

def shortCubes : List (BitVec 32) := (cubes.take 64).map upperHalf

def longCubes : List (BitVec 64) := cubes.map (BitVec.ofNat 64)

end Sha

open Sha

def sha1 (bs : Bytes) : Bytes :=
  let f : Form := ⟨4, true⟩
  let s := (f.blocks bs).foldl First.absorb First.initial
  [s.a, s.b, s.c, s.d, s.e].flatMap fun x => toBytes x.toNat 4

def sha256 (bs : Bytes) : Bytes := Second.digest short shortCubes ((squares 0).map upperHalf) bs

def sha224 (bs : Bytes) : Bytes :=
  (Second.digest short shortCubes ((squares 8).map (BitVec.ofNat 32)) bs).take 28

def sha512 (bs : Bytes) : Bytes :=
  Second.digest long longCubes ((squares 0).map (BitVec.ofNat 64)) bs

def sha384 (bs : Bytes) : Bytes :=
  (Second.digest long longCubes ((squares 8).map (BitVec.ofNat 64)) bs).take 48

end Digest
end Rehearsal
end Parley
