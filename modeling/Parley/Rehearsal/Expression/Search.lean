import Parley.Rehearsal.Bytes

/-!
# Parley.Rehearsal.Expression.Search

Regular expressions over bytes, as tools search for them: the leftmost place counts, there the
longest text, and within that the longest text for each part from the left.

* `Expression`: an expression.
* `Expression.ends`: where an expression may end that begins at a place.
* `Expression.find?`: the first place at which an expression stands.
-/

namespace Parley
namespace Rehearsal

/-- A condition on a place in a text. -/
inductive Edge
  | start
  | finish
  | textStart
  | textEnd
  | wordStart
  | wordEnd
  | boundary
  | inner
deriving DecidableEq, Repr

inductive Expression
  | nothing
  /-- One byte that is in one of the ranges, or in none of them. -/
  | byte (excluded : Bool) (ranges : List (UInt8 × UInt8))
  | edge (e : Edge)
  | group (n : Nat) (e : Expression)
  /-- What a group stands for. -/
  | same (n : Nat)
  | both (a b : Expression)
  | either (a b : Expression)
  /-- An expression any number of times. -/
  | many (e : Expression)
  /-- An expression at least and at most so many times. -/
  | counted (e : Expression) (low high : Nat)
deriving Repr

namespace Expression

/-- A text in which expressions are searched for. -/
structure Subject where
  bytes : Array UInt8
  ignoresCase : Bool := false
  /-- Whether lines begin and end within the text. -/
  hasLines : Bool := false
  /-- Whether the beginning of the text begins a line. -/
  beginsLine : Bool := true

def Subject.ofBytes (bs : Bytes) (ignoresCase : Bool) : Subject :=
  { bytes := bs.toArray, ignoresCase }

def lower (b : UInt8) : UInt8 := if 65 ≤ b && b ≤ 90 then b + 32 else b
def upper (b : UInt8) : UInt8 := if 97 ≤ b && b ≤ 122 then b - 32 else b

def isWordByte (b : UInt8) : Bool :=
  (48 ≤ b && b ≤ 57) || (65 ≤ b && b ≤ 90) || (97 ≤ b && b ≤ 122) || b == 95

namespace Subject

def at? (s : Subject) (i : Nat) : Option UInt8 := s.bytes[i]?

def isWordAt (s : Subject) (i : Nat) : Bool := (s.at? i).any isWordByte

def isWordBefore (s : Subject) (i : Nat) : Bool := i != 0 && s.isWordAt (i - 1)

/-- The bytes between two places. -/
def slice (s : Subject) (start stop : Nat) : Bytes := (s.bytes.extract start stop).toList

/-- Whether a place meets a condition. -/
def meets (s : Subject) (i : Nat) : Edge → Bool
  | .start => (i == 0 && s.beginsLine) || (s.hasLines && i != 0 && s.at? (i - 1) == some 10)
  | .finish => i == s.bytes.size || (s.hasLines && s.at? i == some 10)
  | .textStart => i == 0
  | .textEnd => i == s.bytes.size
  | .wordStart => !s.isWordBefore i && s.isWordAt i
  | .wordEnd => s.isWordBefore i && !s.isWordAt i
  | .boundary => s.isWordBefore i != s.isWordAt i
  | .inner => s.isWordBefore i == s.isWordAt i

end Subject

/-- Whether a byte is one of some ranges, or none of them. -/
def isAmong (excluded : Bool) (ranges : List (UInt8 × UInt8)) (b : UInt8) : Bool :=
  ranges.any (fun r => r.1 ≤ b && b ≤ r.2) != excluded

/-- Whether a byte stands for one of some ranges, whatever its case. -/
def takes (ignoresCase excluded : Bool) (ranges : List (UInt8 × UInt8)) (b : UInt8) : Bool :=
  if ignoresCase then
    let found := isAmong false ranges (lower b) || isAmong false ranges (upper b)
    found != excluded
  else isAmong excluded ranges b

/-- What groups stand for, the last one first. -/
abbrev Groups := List (Nat × Nat × Nat)

/-- A place at which an expression ends, with its groups. -/
abbrev Ending := Nat × Groups

def putGroup (n start stop : Nat) (gs : Groups) : Groups :=
  (n, start, stop) :: gs.filter fun g => g.1 != n

/-- The endings with the latest first; of two at one place the first counts, unless the groups may
matter for what follows. -/
def ranked (exact : Bool) (es : List Ending) : List Ending :=
  match es with
  | [] => []
  | [e] => [e]
  | es =>
    let sorted := es.mergeSort fun a b => decide (b.1 ≤ a.1)
    (sorted.foldl (fun (acc : List Ending) e =>
      match acc with
      | [] => [e]
      | last :: _ =>
        if last.1 == e.1 && (!exact || last.2 == e.2) then acc else e :: acc) []).reverse

/-- All endings that steps lead to, each reached by the longest steps first. -/
def reach (exact : Bool) (step : Ending → List Ending) :
    Nat → List Ending → List Ending → List Ending
  | 0, seen, _ => seen.reverse
  | _ + 1, seen, [] => seen.reverse
  | fuel + 1, seen, e :: rest =>
    if seen.any fun s => s.1 == e.1 && (!exact || s.2 == e.2) then reach exact step fuel seen rest
    else
      reach exact step fuel (e :: seen) ((step e).filter (fun f => e.1 < f.1) ++ rest)

/-- The endings behind so many steps. -/
def behind (exact : Bool) (step : Ending → List Ending) : Nat → List Ending → List Ending
  | 0, es => es
  | n + 1, es => behind exact step n (ranked exact (es.flatMap step))

/-- The endings behind at most so many steps. -/
def within (exact : Bool) (step : Ending → List Ending) : Nat → List Ending → List Ending
  | 0, es => es
  | n + 1, es =>
    if es.isEmpty then [] else es ++ within exact step n (ranked exact (es.flatMap step))

/-- How many bytes from a place on pass a test. -/
def runLength (s : Subject) (test : UInt8 → Bool) : Nat → Nat → Nat
  | 0, _ => 0
  | fuel + 1, i =>
    match s.at? i with
    | some b => if test b then runLength s test fuel (i + 1) + 1 else 0
    | none => 0

/-- The endings of an expression that begins at a place, the best one first. -/
def ends (s : Subject) (exact : Bool) : Expression → Ending → List Ending
  | nothing, e => [e]
  | byte excluded ranges, (i, gs) =>
    match s.at? i with
    | some b => if takes s.ignoresCase excluded ranges b then [(i + 1, gs)] else []
    | none => []
  | edge k, (i, gs) => if s.meets i k then [(i, gs)] else []
  | group n a, (i, gs) => (ends s exact a (i, gs)).map fun e => (e.1, putGroup n i e.1 e.2)
  | same n, (i, gs) =>
    match gs.lookup n with
    | none => []
    | some (start, stop) =>
      let text := s.slice start stop
      let here := s.slice i (i + (stop - start))
      let isSame := if s.ignoresCase then text.map lower == here.map lower else text == here
      if isSame then [(i + (stop - start), gs)] else []
  | both a b, e => ranked exact ((ends s exact a e).flatMap (ends s exact b))
  | either a b, e => ranked exact (ends s exact a e ++ ends s exact b e)
  | many (byte excluded ranges), (i, gs) =>
    let n := runLength s (takes s.ignoresCase excluded ranges) (s.bytes.size - i) i
    ((List.range (n + 1)).map fun k => (i + (n - k), gs))
  | many a, e =>
    let n := s.bytes.size + 2
    ranked exact (reach exact (ends s exact a) (n * n * if exact then n else 1) [] [e])
  | counted a low high, e =>
    let step := ends s exact a
    ranked exact (within exact step (high - low) (behind exact step low [e]))

/-- Whether a part of an expression stands for what a group stands for. -/
def hasSame : Expression → Bool
  | same _ => true
  | group _ a => hasSame a
  | both a b => hasSame a || hasSame b
  | either a b => hasSame a || hasSame b
  | many a => hasSame a
  | counted a _ _ => hasSame a
  | _ => false

/-- Where an expression stands in a text. -/
structure Found where
  start : Nat
  stop : Nat
  groups : Groups := []
deriving Repr

/-- The bytes of a text from one place to another for which a group stands. -/
def Found.group (f : Found) (s : Subject) (n : Nat) : Bytes :=
  if n == 0 then s.slice f.start f.stop
  else
    match f.groups.lookup n with
    | some (start, stop) => s.slice start stop
    | none => []

/-- The first ending at or behind a place that passes a test. -/
def findFrom (s : Subject) (e : Expression) (exact : Bool) (test : Nat → Nat → Bool) :
    Nat → Nat → Option Found
  | 0, _ => none
  | fuel + 1, i =>
    match (ends s exact e (i, [])).find? fun x => test i x.1 with
    | some (stop, groups) => some { start := i, stop, groups }
    | none => findFrom s e exact test fuel (i + 1)

/-- The first place at which an expression stands, from a place on. -/
def find? (e : Expression) (s : Subject) (i : Nat) : Option Found :=
  findFrom s e e.hasSame (fun _ _ => true) (s.bytes.size + 1 - i) i

/-- The first place at which an expression stands that passes a test. -/
def findWhere? (e : Expression) (s : Subject) (test : Nat → Nat → Bool) (i : Nat) : Option Found :=
  findFrom s e e.hasSame test (s.bytes.size + 1 - i) i

/-- The ending of an expression that begins at a place. -/
def endingAt? (e : Expression) (s : Subject) (i : Nat) : Option Found :=
  ((ends s e.hasSame e (i, [])).head?).map fun x => { start := i, stop := x.1, groups := x.2 }

/-- Whether an expression stands anywhere in a text. -/
def isIn (e : Expression) (s : Subject) : Bool := (e.find? s 0).isSome

/-- An expression at least so often, and at most as often as is said. -/
def repeated (e : Expression) (low : Nat) (high : Option Nat) : Expression :=
  match low, high with
  | 0, none => many e
  | low, none => both (counted e low low) (many e)
  | low, some high => counted e low high

/-- The expression that stands for a text alone. -/
def ofText (bs : Bytes) : Expression :=
  bs.foldr (fun b e => both (byte false [(b, b)]) e) nothing

end Expression
end Rehearsal
end Parley
