/-!
# Parley.Unicode.CodeSet

Sets of code points as closed ranges. The ranges of a set ascend and neither overlap nor touch, so
membership is a binary search and two sets with the same members are the same value.

* `CodeSet.ofRanges`: any ranges, in any order, brought to that form.
* `CodeSet.ofText`: a table written as hexadecimal ranges, `41-5A 61-7A AA`.
* `contains`, `union`, `complement`, `inter`, `diff`: the set operations.
-/

namespace Parley
namespace Unicode

/-- The largest code point. -/
def maxCode : Nat := 0x10FFFF

/-- A set of code points, as ascending closed ranges with gaps between them. -/
structure CodeSet where
  ranges : Array (Nat × Nat)
deriving DecidableEq, Repr

namespace CodeSet

def empty : CodeSet := ⟨#[]⟩

def isEmpty (s : CodeSet) : Bool := s.ranges.isEmpty

/-- Joins ascending ranges that overlap or touch; `acc` holds those done, the last one first. -/
def joinInto (acc : List (Nat × Nat)) : List (Nat × Nat) → List (Nat × Nat)
  | [] => acc.reverse
  | (lo, hi) :: rest =>
    match acc with
    | (lo', hi') :: done =>
      if lo ≤ hi' + 1 then joinInto ((lo', max hi hi') :: done) rest
      else joinInto ((lo, hi) :: acc) rest
    | [] => joinInto [(lo, hi)] rest

/-- The code points of some ranges, given in any order. -/
def ofRanges (ranges : List (Nat × Nat)) : CodeSet :=
  let ascending := (ranges.filter fun r => r.1 ≤ r.2).mergeSort fun a b => a.1 ≤ b.1
  ⟨(joinInto [] ascending).toArray⟩

def range (lo hi : Nat) : CodeSet := ofRanges [(lo, hi)]

def single (c : Nat) : CodeSet := ⟨#[(c, c)]⟩

/-- Whether one of the ranges from `lo` up to `hi`, exclusive, holds the code point. -/
def search (ranges : Array (Nat × Nat)) (c lo hi : Nat) : Bool :=
  if _h : lo < hi then
    let mid := (lo + hi) / 2
    match ranges[mid]? with
    | some (first, last) =>
      if c < first then search ranges c lo mid
      else if last < c then search ranges c (mid + 1) hi
      else true
    | none => false
  else false
termination_by hi - lo

def contains (s : CodeSet) (c : Nat) : Bool := search s.ranges c 0 s.ranges.size

def union (s t : CodeSet) : CodeSet := ofRanges (s.ranges.toList ++ t.ranges.toList)

def unions (sets : List CodeSet) : CodeSet := ofRanges (sets.flatMap (·.ranges.toList))

/-- The gaps between ascending ranges, from `start` on. -/
def gaps (start : Nat) : List (Nat × Nat) → List (Nat × Nat)
  | [] => if start ≤ maxCode then [(start, maxCode)] else []
  | (lo, hi) :: rest =>
    if start < lo then (start, lo - 1) :: gaps (hi + 1) rest else gaps (hi + 1) rest

def complement (s : CodeSet) : CodeSet := ⟨(gaps 0 s.ranges.toList).toArray⟩

def inter (s t : CodeSet) : CodeSet := (s.complement.union t.complement).complement

def diff (s t : CodeSet) : CodeSet := s.inter t.complement

/-- The code points in one of the two sets, and not in both. -/
def symmDiff (s t : CodeSet) : CodeSet := (s.diff t).union (t.diff s)

def hexDigit? (c : Char) : Option Nat :=
  if '0' ≤ c ∧ c ≤ '9' then some (c.toNat - '0'.toNat)
  else if 'a' ≤ c ∧ c ≤ 'f' then some (c.toNat - 'a'.toNat + 10)
  else if 'A' ≤ c ∧ c ≤ 'F' then some (c.toNat - 'A'.toNat + 10)
  else none

/-- What a table has shown so far: ranges, the start of a range that is open, digits being read. -/
structure TableReader where
  done : List (Nat × Nat) := []
  first : Option Nat := none
  value : Option Nat := none

namespace TableReader

/-- Ends the entry that is being read. -/
def finish (r : TableReader) : TableReader :=
  match r.value with
  | none => r
  | some v => { done := (r.first.getD v, v) :: r.done }

def read (r : TableReader) (c : Char) : TableReader :=
  if c == '-' then { r with first := r.value, value := none }
  else
    match hexDigit? c with
    | some d => { r with value := some (r.value.getD 0 * 16 + d) }
    | none => r.finish

end TableReader

/-- The code points that a table names: hexadecimal numbers and ranges, with blanks or line breaks
between. -/
def ofText (table : String) : CodeSet :=
  ofRanges (table.toList.foldl TableReader.read {}).finish.done.reverse

end CodeSet

/-- A property name with what loose matching ignores taken away: case, blanks, `_`, `-`, and a
leading `is`. The short name `isc` keeps its first letters, since `c` alone names something else. -/
def looseName (name : String) : String :=
  let cs := name.toList
  let stripped := match cs with
    | 'i' :: 's' :: r | 'I' :: 's' :: r | 'i' :: 'S' :: r | 'I' :: 'S' :: r => r
    | r => r
  let plain (cs : List Char) : List Char :=
    (cs.filter fun c => !(c == ' ' || c == '_' || c == '-') && c.toNat < 128).map Char.toLower
  if stripped.length < cs.length && plain stripped == ['c'] then "isc"
  else String.ofList (plain stripped)

end Unicode
end Parley
