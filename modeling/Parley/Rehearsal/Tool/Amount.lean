import Parley.Number.Leading
import Parley.Rehearsal.Tool.Call

/-!
# Parley.Rehearsal.Tool.Amount

Numbers among the words of tools: counts with units, and spans of time.

* `Amount.read?`: a count, as in `10`, `2k` or `1MB`.
* `Amount.time?`: a span of time, as in `1.5` or `2m`.
-/

namespace Parley
namespace Rehearsal
namespace Amount

/-- What a unit behind a count stands for. -/
def unit? : List Char → Option Nat
  | [] => some 1
  | ['b'] => some 512
  | c :: rest =>
    let power := match c with
      | 'k' => some 1
      | 'K' => some 1
      | 'M' => some 2
      | 'G' => some 3
      | 'T' => some 4
      | 'P' => some 5
      | 'E' => some 6
      | _ => none
    match power, rest with
    | some n, [] => some (Nat.pow 1024 n)
    | some n, ['i', 'B'] => some (Nat.pow 1024 n)
    | some n, ['B'] => some (Nat.pow 1000 n)
    | _, _ => none

/-- A count with its unit. -/
def readList? (cs : List Char) : Option Nat :=
  let ds := cs.takeWhile Char.isDigit
  match ds, unit? (cs.drop ds.length) with
  | [], some n => if cs.isEmpty || n == 1 then none else some n
  | ds, some n => some (Number.digitsValue ds * n)
  | _, none => none

def read? (w : Bytes) : Option Nat := readList? (letters w)

/-- A number in digits alone. -/
def plain? (w : Bytes) : Option Nat :=
  let cs := letters w
  if cs.isEmpty || !cs.all Char.isDigit then none else some (Number.digitsValue cs)

/-- How long a time is that takes no end. -/
def forever : Duration := ⟨Nat.pow 10 27⟩

/-- A span of time in seconds, or in a unit that follows. -/
def time? (w : Bytes) : Option Duration :=
  match Number.leading? (letters w) with
  | none => none
  | some (x, rest) =>
    let scale := match rest with
      | [] => some 1
      | ['s'] => some 1
      | ['m'] => some 60
      | ['h'] => some 3600
      | ['d'] => some 86400
      | _ => none
    match scale with
    | none => none
    | some n =>
      if x == .nan || x.isNegative && x != .zero true then none
      else
        match Duration.ofSeconds? x with
        | some d => some ⟨d.nanos * n⟩
        | none => some forever

end Amount
end Rehearsal
end Parley
