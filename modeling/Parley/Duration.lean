import Parley.Number.Reader
import Parley.Number.Shortest

/-!
# Parley.Duration

Spans of time, in whole nanoseconds, and the same for moments on a clock that only goes on.

* `Duration.ofSeconds?`: a number of seconds, rounded to the nearest nanosecond and from half way to
  the even one; none below zero and none from `2 ^ 64` seconds on.
* `Duration.ofText?`: seconds as text, if they make a span that is not empty.
* `Duration.text`: a span in the largest unit that it fills, with the fewest digits.
-/

namespace Parley

structure Duration where
  nanos : Nat
deriving DecidableEq, Repr, Ord

namespace Duration

def zero : Duration := ⟨0⟩

def ofMillis (n : Nat) : Duration := ⟨n * 1000000⟩

def ofSecs (n : Nat) : Duration := ⟨n * 1000000000⟩

def secs (d : Duration) : Nat := d.nanos / 1000000000

/-- The nanoseconds beyond the whole seconds. -/
def subsecNanos (d : Duration) : Nat := d.nanos % 1000000000

def isZero (d : Duration) : Bool := d.nanos == 0

instance : LE Duration := ⟨fun a b => a.nanos ≤ b.nanos⟩
instance : LT Duration := ⟨fun a b => a.nanos < b.nanos⟩
instance (a b : Duration) : Decidable (a ≤ b) := inferInstanceAs (Decidable (a.nanos ≤ b.nanos))
instance (a b : Duration) : Decidable (a < b) := inferInstanceAs (Decidable (a.nanos < b.nanos))
instance : Add Duration := ⟨fun a b => ⟨a.nanos + b.nanos⟩⟩
/-- What is left of a span after another; nothing is left of a shorter one. -/
instance : Sub Duration := ⟨fun a b => ⟨a.nanos - b.nanos⟩⟩

/-- The nanoseconds nearest to a number of seconds. -/
def nanosOf (mantissa : Nat) (exponent : Int) : Nat :=
  let (n, d) := scaleTwo (mantissa * 1000000000) 1 exponent
  divHalfEven n d

/-- The span of a number of seconds, if it has one. -/
def ofSeconds? : Binary64 → Option Duration
  | .nan => none
  | .infinite _ => none
  | .finite negative m e =>
    let (n, d) := scaleTwo m 1 e
    if negative && m != 0 then none
    else if Nat.pow 2 64 * d ≤ n then none
    else some ⟨nanosOf m e⟩

/-- A span that is not empty, from a number of seconds. -/
def positive? (x : Binary64) : Option Duration := (ofSeconds? x).filter (!·.isZero)

/-- A span that is not empty, from seconds as text. -/
def ofText? (s : String) : Option Duration := (Binary64.ofText? s).bind positive?

/-- A count of units, of which `part` in `10 ^ places` are over, and the name of the unit. -/
def inUnit (whole part places : Nat) (unit : String) : String :=
  Shortest.positional (whole * Nat.pow 10 places + part) (-(places : Int)) ++ unit

/-- A span as messages write it. -/
def text (d : Duration) : String :=
  if 1000000000 ≤ d.nanos then inUnit d.secs d.subsecNanos 9 "s"
  else if 1000000 ≤ d.nanos then inUnit (d.nanos / 1000000) (d.nanos % 1000000) 6 "ms"
  else if 1000 ≤ d.nanos then inUnit (d.nanos / 1000) (d.nanos % 1000) 3 "µs"
  else toString d.nanos ++ "ns"

end Duration

end Parley
