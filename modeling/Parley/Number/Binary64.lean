/-!
# Parley.Number.Binary64

Numbers in the binary format of 64 bits: a sign, a mantissa below `2 ^ 53` and a power of two,
besides two infinities and a value that is no number. Nothing here rounds but `Binary64.round`, and
it rounds an exact fraction once, to the nearest number and from half way to the even one.

* `divHalfEven`: the nearest whole number to a fraction.
* `Binary64.round`: the nearest number to a fraction.
* `Binary64.ofDecimal`, `Binary64.ofInt`: the nearest number to a decimal and to a whole number.
-/

namespace Parley

/-- A number of 64 bits. The value of `finite` is `mantissa * 2 ^ exponent`, negated if so said. -/
inductive Binary64
  | nan
  | infinite (negative : Bool)
  | finite (negative : Bool) (mantissa : Nat) (exponent : Int)
deriving DecidableEq, Repr

/-- The whole number nearest to a fraction; from half way the even neighbour. -/
def divHalfEven (num den : Nat) : Nat :=
  let q := num / den
  let twice := 2 * (num % den)
  if twice < den then q
  else if den < twice then q + 1
  else if q % 2 == 0 then q else q + 1

/-- A fraction times a power of two, as a fraction. -/
def scaleTwo (num den : Nat) (e : Int) : Nat × Nat :=
  if 0 ≤ e then (num * Nat.pow 2 e.toNat, den) else (num, den * Nat.pow 2 (-e).toNat)

/-- A fraction times a power of ten, as a fraction. -/
def scaleTen (num den : Nat) (e : Int) : Nat × Nat :=
  if 0 ≤ e then (num * Nat.pow 10 e.toNat, den) else (num, den * Nat.pow 10 (-e).toNat)

namespace Binary64

/-- The least power of two that a number is counted in. -/
def minExponent : Int := -1074

/-- The greatest power of two that a number is counted in. -/
def maxExponent : Int := 971

def zero (negative : Bool) : Binary64 := finite negative 0 minExponent

/-- The power of two that leaves a quotient of 53 binary digits, or the least one. -/
def unitExponent (num den : Nat) : Int :=
  let guess : Int := (Nat.log2 num : Int) - (Nat.log2 den : Int) - 52
  let (n, d) := scaleTwo num den (-guess)
  max minExponent (if n < d * Nat.pow 2 52 then guess - 1 else guess)

/-- The number nearest to a fraction. -/
def round (negative : Bool) (num den : Nat) : Binary64 :=
  if num == 0 then zero negative
  else
    let e := unitExponent num den
    let (n, d) := scaleTwo num den (-e)
    let m := divHalfEven n d
    let (m, e) := if m == Nat.pow 2 53 then (Nat.pow 2 52, e + 1) else (m, e)
    if maxExponent < e then infinite negative else finite negative m e

/-- The number nearest to `digits * 10 ^ exponent`. Beyond four hundred places either way the answer
is known without the power. -/
def ofDecimal (negative : Bool) (digits : Nat) (exponent : Int) : Binary64 :=
  if digits == 0 then zero negative
  else
    let places : Int := (Nat.log2 digits : Int) * 3 / 10 + exponent
    if 400 < places then infinite negative
    else if places < -400 then zero negative
    else
      let (n, d) := scaleTen digits 1 exponent
      round negative n d

def ofInt (i : Int) : Binary64 := round (i < 0) i.natAbs 1

/-- Whether a number is less than zero; neither zero is. -/
def isNegative : Binary64 → Bool
  | nan => false
  | infinite negative => negative
  | finite negative m _ => negative && m != 0

def isFinite : Binary64 → Bool
  | finite .. => true
  | _ => false

end Binary64

end Parley
