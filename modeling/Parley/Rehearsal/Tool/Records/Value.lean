import Parley.Number.Arithmetic
import Parley.Rehearsal.Format
import Parley.Rehearsal.Tool.Records.Syntax

/-!
# Parley.Rehearsal.Tool.Records.Value

The values of scripts for records: numbers, texts, and texts from outside that may be both.

* `Records.Value`: a value, with `Value.amount` and `Value.bytes` as what it stands for.
* `Records.Store`: values under keys, in the order in which a loop goes through them.
-/

namespace Parley
namespace Rehearsal
namespace Records

inductive Value
  | number (x : Binary64)
  | text (bs : Bytes)
  /-- A text that came from outside and looks like a number. -/
  | outer (bs : Bytes) (x : Binary64)
  | unset
deriving Inhabited

/-! ## Numbers -/

/-- The number at the front of a text; zero if there is none. -/
def numberAt (bs : Bytes) : Binary64 :=
  ((Number.leading? (letters bs)).map (·.1)).getD (.zero false)

def isSpace (b : UInt8) : Bool := b == 32 || b == 9

/-- A text from outside: it is a number too if nothing but blanks stands around a number that ends
with a digit or a point. -/
def Value.ofOuter (bs : Bytes) : Value :=
  let core := ((bs.dropWhile isSpace).reverse.dropWhile isSpace).reverse
  let digit (b : UInt8) : Bool := 48 ≤ b && b ≤ 57
  let endsWell := core.getLast?.any fun b => digit b || b == 46
  let beginsWell := core.head?.any fun b => digit b || b == 46 || b == 43 || b == 45
  if endsWell && beginsWell then
    match Number.leading? (letters core) with
    | some (x, []) => if x.isFinite then .outer bs x else .text bs
    | _ => .text bs
  else .text bs

/-- A number as a text: whole numbers have all their digits, others are laid out. -/
def numberText (layout : Binary64 → Bytes) (x : Binary64) : Bytes :=
  if x.isWhole then
    let i := x.toInt
    if -(Int.pow 2 63) ≤ i && i < Int.pow 2 64 then bytesOf (toString i)
    else if i == Int.pow 2 64 then bytesOf (toString (i - 1))
    else layout x
  else
    match x with
    | .nan => bytesOf "-nan"
    | .infinite negative => bytesOf (if negative then "-inf" else "inf")
    | x => layout x

namespace Value

def ofNat (n : Nat) : Value := .number (.ofInt n)

def ofInt (i : Int) : Value := .number (.ofInt i)

def ofBool (b : Bool) : Value := ofNat (if b then 1 else 0)

def amount : Value → Binary64
  | .number x => x
  | .text bs => numberAt bs
  | .outer _ x => x
  | .unset => .zero false

def bytes (layout : Binary64 → Bytes) : Value → Bytes
  | .number x => numberText layout x
  | .text bs => bs
  | .outer bs _ => bs
  | .unset => []

/-- Whether a value counts as true. -/
def isTrue : Value → Bool
  | .number x => !x.isZero
  | .text bs => !bs.isEmpty
  | .outer _ x => !x.isZero
  | .unset => false

/-- Whether a value is compared as a number. -/
def isNumeric : Value → Bool
  | .text _ => false
  | _ => true

end Value

/-- The order of two values: as numbers if both may be numbers, else as texts. What has no order
counts as equal. -/
def Value.compare (layout : Binary64 → Bytes) (a b : Value) : Ordering :=
  if a.isNumeric && b.isNumeric then (a.amount.compare? b.amount).getD .eq
  else compareBytes (a.bytes layout) (b.bytes layout)

def Comparison.holds : Comparison → Ordering → Bool
  | .less, o => o == .lt
  | .atMost, o => o != .gt
  | .equal, o => o == .eq
  | .different, o => o != .eq
  | .more, o => o == .gt
  | .atLeast, o => o != .lt

def Arithmetic.apply (op : Arithmetic) (x y : Binary64) : Binary64 :=
  match op with
  | .add => x.add y
  | .subtract => x.sub y
  | .multiply => x.mul y
  | .divide => x.div y
  | .remainder => x.remainder y
  | .power => .ofFloat (x.toFloat ^ y.toFloat)

/-! ## Stores -/

/-- What a value is kept under: a whole number, or a text. -/
inductive Key
  | whole (i : Int)
  | text (bs : Bytes)
deriving DecidableEq

def Key.bytes : Key → Bytes
  | .whole i => bytesOf (toString i)
  | .text bs => bs

/-- The key that a value stands for. -/
def Key.ofValue (layout : Binary64 → Bytes) : Value → Key
  | .number x =>
    if x.isWhole && (x.toInt.natAbs < Nat.pow 2 53 : Bool) then .whole x.toInt
    else .text (numberText layout x)
  | v => .text (v.bytes layout)

/-- Something under a key. -/
structure Entry where
  key : Bytes
  value : Value
  /-- Whether it has been found by a whole number. -/
  byNumber : Bool := false

/-- Values under keys, those that were used last in front. As long as all keys are whole numbers,
they are kept by them. -/
structure Store where
  numbered : List (Int × Value) := []
  entries : List Entry := []
  /-- Whether entries are kept by texts. -/
  hasTexts : Bool := false

/-- A number that is made from a text, so that texts that differ have mostly different ones. -/
def scatter (bs : Bytes) : Nat :=
  (bs.foldl (fun (h : UInt32) b => (h ^^^ UInt32.ofNat b.toNat) * 16777619) 2166136261).toNat

namespace Store

def size (s : Store) : Nat := s.numbered.length + s.entries.length

/-- How many drawers a store has that holds so many values. -/
def drawersFor (size : Nat) : Nat → Nat → Nat
  | 0, n => n
  | fuel + 1, n => if n * 12 < size then drawersFor size fuel (2 * n) else n

def drawers (s : Store) : Nat := drawersFor s.size 20 64

/-- Keeps all values by texts. -/
def byTexts (s : Store) : Store :=
  if s.hasTexts then s
  else
    let n := s.drawers
    let sorted := s.numbered.mergeSort fun a b => decide (a.1 % n ≤ b.1 % n)
    { numbered := [], hasTexts := true
      entries := sorted.foldl (fun es e =>
        { key := bytesOf (toString e.1), value := e.2, byNumber := true } :: es) s.entries }

/-- Finds what is kept under a text, and puts it in front. -/
def findText? (s : Store) (key : Bytes) (byNumber : Bool) : Option (Value × Store) :=
  let s := s.byTexts
  match s.entries.find? fun e => e.key == key with
  | none => none
  | some e =>
    if byNumber && e.byNumber then some (e.value, s)
    else
      let e := { e with byNumber := e.byNumber || byNumber }
      some (e.value, { s with entries := e :: s.entries.filter fun f => f.key != key })

def find? (s : Store) (k : Key) : Option (Value × Store) :=
  match k with
  | .text bs => if s.size == 0 then none else s.findText? bs false
  | .whole i =>
    if s.hasTexts then s.findText? k.bytes true
    else
      match s.numbered.lookup i with
      | none => none
      | some v => some (v, { s with numbered := (i, v) :: s.numbered.filter fun e => e.1 != i })

/-- Puts a value under a key. -/
def insert (s : Store) (k : Key) (v : Value) : Store :=
  match s.find? k with
  | some (_, s) =>
    { s with
      numbered := s.numbered.map fun e => if k == .whole e.1 then (e.1, v) else e
      entries := s.entries.map fun e => if e.key == k.bytes then { e with value := v } else e }
  | none =>
    match k with
    | .whole i =>
      if s.hasTexts then
        { s with entries := { key := k.bytes, value := v, byNumber := true } :: s.entries }
      else { s with numbered := (i, v) :: s.numbered }
    | .text bs =>
      let s := s.byTexts
      { s with entries := { key := bs, value := v } :: s.entries }

def erase (s : Store) (k : Key) : Store :=
  match s.find? k with
  | none => s
  | some (_, s) =>
    let s := { s with
      numbered := s.numbered.filter fun e => k != .whole e.1
      entries := s.entries.filter fun e => e.key != k.bytes }
    if s.size == 0 then {} else s

/-- The keys in the order of a loop: by their drawers, and in each the one that was used last
first. -/
def keys (s : Store) : List Bytes × Store :=
  if s.size == 0 then ([], s)
  else
    let s := s.byTexts
    let n := s.drawers
    let placed := s.entries.map fun e => (scatter e.key % n, e.key)
    ((placed.mergeSort fun a b => decide (a.1 ≤ b.1)).map (·.2), s)

/-- Values under the numbers from one on. -/
def ofList (vs : List Value) : Store :=
  { numbered := (vs.zipIdx.map fun v => ((v.2 : Int) + 1, v.1)).reverse }

end Store

end Records
end Rehearsal
end Parley
