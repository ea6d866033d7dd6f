import Parley.Number.Binary64

/-!
# Parley.Number.Shortest

The text of a number with the fewest digits that read back as the same number. All numbers that
round to a given one lie in an interval around it; its ends belong to it if the mantissa is even.
For one digit, then two, and so on, the two neighbours of the number with that many digits are
tried; the first count of digits with a neighbour inside wins, and of two the nearer, or the larger
if both are as near.

* `Shortest.digits`: those digits and their power of ten.
* `Binary64.text`: the number written without a power of ten.
* `Binary64.textWithPoint`: the same, with `.0` behind a whole number.
-/

namespace Parley
namespace Shortest

/-- A positive number and the ends of its interval, in quarters of the unit `2 ^ exponent`, all
multiplied by `num / den`. -/
structure Span where
  low : Nat
  value : Nat
  high : Nat
  closed : Bool
  num : Nat
  den : Nat

def span (mantissa : Nat) (exponent : Int) : Span :=
  let (num, den) := scaleTwo 1 1 (exponent - 2)
  let narrow := mantissa == Nat.pow 2 52 && Binary64.minExponent < exponent
  { low := 4 * mantissa - (if narrow then 1 else 2)
    value := 4 * mantissa
    high := 4 * mantissa + 2
    closed := mantissa % 2 == 0
    num, den }

namespace Span

/-- Whether `n * 10 ^ p` lies in the interval. -/
def holds (s : Span) (n : Nat) (p : Int) : Bool :=
  let (a, b) := scaleTen n 1 p
  let point := a * s.den
  let low := s.low * s.num * b
  let high := s.high * s.num * b
  if s.closed then low ≤ point && point ≤ high else low < point && point < high

/-- The number divided by `10 ^ p`, as a fraction. -/
def quotient (s : Span) (p : Int) : Nat × Nat :=
  scaleTen (s.value * s.num) s.den (-p)

end Span

/-- The number of digits before the point, at most one too many. -/
def placesGuess (s : Span) : Int :=
  let bits : Int := (Nat.log2 (s.value * s.num) : Int) - (Nat.log2 s.den : Int) + 1
  if 0 ≤ bits then bits * 30103 / 100000 + 1 else -((-bits) * 30102 / 100000) + 1

/-- Tries the neighbours on the grids `10 ^ p`, each ten times finer than the one before. -/
def tryGrids (s : Span) : Nat → Int → Nat × Int
  | 0, p =>
    let (a, b) := s.quotient p
    (divHalfEven a b, p)
  | n + 1, p =>
    let (a, b) := s.quotient p
    let below := a / b
    let belowIn := 0 < below && s.holds below p
    let aboveIn := s.holds (below + 1) p
    if belowIn && aboveIn then (if 2 * (a % b) < b then below else below + 1, p)
    else if belowIn then (below, p)
    else if aboveIn then (below + 1, p)
    else tryGrids s n (p - 1)

/-- The fewest digits and their power of ten. -/
def digits (mantissa : Nat) (exponent : Int) : Nat × Int :=
  let s := span mantissa exponent
  tryGrids s 20 (placesGuess s)

/-- Digits times a power of ten, written out without trailing zeros behind the point. -/
def positional (digits : Nat) (p : Int) : String :=
  let ds := Nat.toDigits 10 digits
  if 0 ≤ p then String.ofList (ds ++ List.replicate p.toNat '0')
  else
    let places := (-p).toNat
    let padded := List.replicate (places + 1 - ds.length) '0' ++ ds
    let whole := padded.take (padded.length - places)
    let part := ((padded.drop (padded.length - places)).reverse.dropWhile (· == '0')).reverse
    String.ofList (if part.isEmpty then whole else whole ++ '.' :: part)

end Shortest

namespace Binary64

/-- A number with the fewest digits that read back, all of them in place. -/
def text : Binary64 → String
  | nan => "NaN"
  | infinite negative => if negative then "-inf" else "inf"
  | finite negative m e =>
    let body := if m == 0 then "0"
      else
        let (d, p) := Shortest.digits m e
        Shortest.positional d p
    if negative then "-" ++ body else body

/-- The same, with `.0` behind a whole number. -/
def textWithPoint (x : Binary64) : String :=
  if x.isFinite && !x.text.toList.contains '.' then x.text ++ ".0" else x.text

end Binary64
end Parley
