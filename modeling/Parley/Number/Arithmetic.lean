import Parley.Number.Binary64

/-!
# Parley.Number.Arithmetic

Arithmetic in the binary format of 64 bits: every result is the number nearest to the exact one.

* `Binary64.add`, `sub`, `mul`, `div`, `remainder`: with two numbers.
* `Binary64.compare?`: the order of two numbers; none if one is no number.
* `Binary64.truncate`: the whole part.
-/

namespace Parley
namespace Binary64

def negate : Binary64 → Binary64
  | nan => nan
  | infinite negative => infinite !negative
  | finite negative m e => finite (!negative) m e

def signed (negative : Bool) (n : Nat) : Int := if negative then -(n : Int) else n

/-- Two numbers counted in the smaller of their units. -/
def aligned (m₁ : Nat) (e₁ : Int) (m₂ : Nat) (e₂ : Int) : Nat × Nat × Int :=
  let e := min e₁ e₂
  (m₁ * Nat.pow 2 (e₁ - e).toNat, m₂ * Nat.pow 2 (e₂ - e).toNat, e)

/-- The number nearest to a whole number of units. -/
def ofUnits (i e : Int) : Binary64 :=
  let (n, d) := scaleTwo i.natAbs 1 e
  round (i < 0) n d

def add (x y : Binary64) : Binary64 :=
  match x, y with
  | nan, _ => nan
  | _, nan => nan
  | infinite a, infinite b => if a == b then infinite a else nan
  | infinite a, _ => infinite a
  | _, infinite b => infinite b
  | finite s₁ m₁ e₁, finite s₂ m₂ e₂ =>
    let (a, b, e) := aligned m₁ e₁ m₂ e₂
    let sum := signed s₁ a + signed s₂ b
    if sum == 0 then zero (s₁ && s₂) else ofUnits sum e

def sub (x y : Binary64) : Binary64 := add x y.negate

def mul (x y : Binary64) : Binary64 :=
  match x, y with
  | nan, _ => nan
  | _, nan => nan
  | infinite a, infinite b => infinite (a != b)
  | infinite a, finite s m _ => if m == 0 then nan else infinite (a != s)
  | finite s m _, infinite a => if m == 0 then nan else infinite (a != s)
  | finite s₁ m₁ e₁, finite s₂ m₂ e₂ =>
    let (n, d) := scaleTwo (m₁ * m₂) 1 (e₁ + e₂)
    round (s₁ != s₂) n d

def div (x y : Binary64) : Binary64 :=
  match x, y with
  | nan, _ => nan
  | _, nan => nan
  | infinite _, infinite _ => nan
  | infinite a, finite s _ _ => infinite (a != s)
  | finite s _ _, infinite a => zero (a != s)
  | finite s₁ m₁ e₁, finite s₂ m₂ e₂ =>
    if m₂ == 0 then (if m₁ == 0 then nan else infinite (s₁ != s₂))
    else
      let (n, d) := scaleTwo m₁ m₂ (e₁ - e₂)
      round (s₁ != s₂) n d

/-- What is left of a number when another one is taken away as often as it goes; it has the sign of
the first. -/
def remainder (x y : Binary64) : Binary64 :=
  match x, y with
  | nan, _ => nan
  | _, nan => nan
  | infinite _, _ => nan
  | x, infinite _ => x
  | finite s₁ m₁ e₁, finite _ m₂ e₂ =>
    if m₂ == 0 then nan
    else
      let (a, b, e) := aligned m₁ e₁ m₂ e₂
      let (n, d) := scaleTwo (a % b) 1 e
      round s₁ n d

/-- The whole part of a number. -/
def truncate (x : Binary64) : Binary64 :=
  match x with
  | finite s m e =>
    let (n, d) := scaleTwo m 1 e
    round s (n / d) 1
  | x => x

/-- The whole part as a whole number; what is none counts as zero. -/
def toInt (x : Binary64) : Int :=
  match x with
  | finite s m e =>
    let (n, d) := scaleTwo m 1 e
    signed s (n / d)
  | _ => 0

def isWhole (x : Binary64) : Bool :=
  match x with
  | finite _ m e =>
    let parts := scaleTwo m 1 e
    parts.1 % parts.2 == 0
  | _ => false

def isZero (x : Binary64) : Bool :=
  match x with
  | finite _ m _ => m == 0
  | _ => false

def compare? (x y : Binary64) : Option Ordering :=
  match x, y with
  | nan, _ => none
  | _, nan => none
  | infinite a, infinite b => some (if a == b then .eq else if a then .lt else .gt)
  | infinite a, _ => some (if a then .lt else .gt)
  | _, infinite b => some (if b then .gt else .lt)
  | finite s₁ m₁ e₁, finite s₂ m₂ e₂ =>
    let (a, b, _) := aligned m₁ e₁ m₂ e₂
    some (compare (signed s₁ a) (signed s₂ b))

/-- The number as the processor holds it. -/
def toFloat (x : Binary64) : Float :=
  match x with
  | nan => 0.0 / 0.0
  | infinite negative => if negative then -1.0 / 0.0 else 1.0 / 0.0
  | finite negative m e =>
    let f := Float.ofScientific m false 0
    let f := f.scaleB e
    if negative then -f else f

/-- The number that the processor holds. -/
def ofFloat (f : Float) : Binary64 :=
  let bits : Nat := f.toBits.toNat
  let negative : Bool := decide (Nat.pow 2 63 ≤ bits)
  let exponent : Nat := bits / Nat.pow 2 52 % 2048
  let part := bits % Nat.pow 2 52
  if exponent == 2047 then (if part == 0 then infinite negative else nan)
  else if exponent == 0 then finite negative part minExponent
  else finite negative (part + Nat.pow 2 52) ((exponent : Int) - 1075)

end Binary64
end Parley
