import Parley.Number.Binary64

/-!
# Parley.Number.Places

Numbers with a given count of decimal places: positional, with a power of ten, or whichever of the
two is shorter. The value is rounded once, exactly, and from half way to the even digit.

* `Binary64.fixed`, `Binary64.scientific`, `Binary64.general`: the digits of a number without its
  sign.
-/

namespace Parley
namespace Places

def padded (width : Nat) (n : Nat) : List Char :=
  let ds := (toString n).toList
  List.replicate (width - ds.length) '0' ++ ds

/-- Digits with a point in front of the last ones; none stands alone unless it is wanted. -/
def pointed (places : Nat) (keepPoint : Bool) (n : Nat) : List Char :=
  let ds := padded (places + 1) n
  let whole := ds.take (ds.length - places)
  let part := ds.drop (ds.length - places)
  if part.isEmpty && !keepPoint then whole else whole ++ '.' :: part

/-- A value as a fraction. -/
def fraction (mantissa : Nat) (exponent : Int) : Nat × Nat := scaleTwo mantissa 1 exponent

/-- The value in so many places. -/
def fixed (mantissa : Nat) (exponent : Int) (places : Nat) (keepPoint : Bool) : List Char :=
  let (n, d) := fraction mantissa exponent
  pointed places keepPoint (divHalfEven (n * Nat.pow 10 places) d)

/-- The power of ten of the first digit of a fraction that is not zero. -/
def power (n d : Nat) : Int :=
  if d ≤ n then ((toString (n / d)).length : Int) - 1
  else
    let k := (toString (d / n)).length
    if d ≤ n * Nat.pow 10 (k - 1) then -((k : Int) - 1) else -(k : Int)

/-- The digits of a value, one before the point and so many behind it, and the power of ten. -/
def digits (mantissa : Nat) (exponent : Int) (places : Nat) : Nat × Int :=
  if mantissa == 0 then (0, 0)
  else
    let (n, d) := fraction mantissa exponent
    let e := power n d
    let (n, d) := scaleTen n d ((places : Int) - e)
    let all := divHalfEven n d
    if Nat.pow 10 (places + 1) ≤ all then (all / 10, e + 1) else (all, e)

def powerText (mark : Char) (e : Int) : List Char :=
  mark :: (if e < 0 then '-' else '+') :: padded 2 e.natAbs

def scientific (mantissa : Nat) (exponent : Int) (places : Nat) (keepPoint : Bool) (mark : Char) :
    List Char :=
  let (all, e) := digits mantissa exponent places
  pointed places keepPoint all ++ powerText mark e

/-- Without zeros at the end behind a point. -/
def trimmed (cs : List Char) : List Char :=
  if cs.contains '.' then
    let cs := (cs.reverse.dropWhile (· == '0')).reverse
    if cs.getLast? == some '.' then cs.dropLast else cs
  else cs

/-- So many digits in all, positional unless the power of ten is far from zero. -/
def general (mantissa : Nat) (exponent : Int) (count : Nat) (keepZeros : Bool) (mark : Char) :
    List Char :=
  let count := max count 1
  let (all, e) := digits mantissa exponent (count - 1)
  if e < -4 || (count : Int) ≤ e then
    let ds := pointed (count - 1) keepZeros all
    (if keepZeros then ds else trimmed ds) ++ powerText mark e
  else
    let ds := fixed mantissa exponent ((count : Int) - 1 - e).toNat keepZeros
    if keepZeros then ds else trimmed ds

/-- In base sixteen with a power of two. -/
def hexadecimal (mantissa : Nat) (exponent : Int) (mark power : Char) : List Char :=
  if mantissa == 0 then ['0', mark, '0', power, '+', '0']
  else
    let shift := 52 - Nat.log2 mantissa
    let m := mantissa * Nat.pow 2 shift
    let e := exponent - shift + 52
    let part := Nat.toDigits 16 (m % Nat.pow 2 52)
    let part := List.replicate (13 - part.length) '0' ++ part
    let part := (part.reverse.dropWhile (· == '0')).reverse
    let part := if mark == 'X' then part.map Char.toUpper else part
    ['0', mark, '1'] ++ (if part.isEmpty then [] else '.' :: part) ++
      [power, if e < 0 then '-' else '+'] ++ (toString e.natAbs).toList

end Places
end Parley
