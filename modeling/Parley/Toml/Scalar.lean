import Parley.Number.Reader

/-!
# Parley.Toml.Scalar

Values that are written as one word: numbers, truth values, dates and times. A word ends where no
letter, digit, sign, point, colon or underscore follows, so a word is read as a whole or refused.

* `Scalar.ofWord?`: what a word stands for.
* `Scalar.dateAndTime?`: a date and a time that stand apart.
-/

namespace Parley
namespace Toml

inductive Scalar
  | integer (value : Int)
  | float (value : Binary64)
  | boolean (value : Bool)
  | datetime (text : String)
deriving DecidableEq, Repr

namespace Scalar

def isWordChar (c : Char) : Bool :=
  c.isAlphanum || c == '+' || c == '-' || c == '_' || c == '.' || c == ':'

/-! ## Numbers -/

/-- The digits that follow others, each with at most one underscore before it; `acc` holds those
read, the last one first. -/
def moreDigits (isDigit : Char → Bool) (acc : List Char) : List Char → List Char × List Char
  | '_' :: d :: rest =>
    if isDigit d then moreDigits isDigit (d :: acc) rest else (acc.reverse, '_' :: d :: rest)
  | d :: rest =>
    if isDigit d then moreDigits isDigit (d :: acc) rest else (acc.reverse, d :: rest)
  | [] => (acc.reverse, [])

/-- One digit or more. -/
def digits (isDigit : Char → Bool) : List Char → Option (List Char × List Char)
  | d :: rest => if isDigit d then some (moreDigits isDigit [d] rest) else none
  | [] => none

/-- The digits of a decimal number, of which only the number zero begins with zero. -/
def wholeDigits : List Char → Option (List Char × List Char)
  | '0' :: rest => some (['0'], rest)
  | cs => digits Char.isDigit cs

def digitValue (c : Char) : Nat :=
  if c.isDigit then c.toNat - 48
  else if c.toNat < 97 then c.toNat - 55 else c.toNat - 87

def valueInBase (base : Nat) (ds : List Char) : Nat :=
  ds.foldl (fun n d => n * base + digitValue d) 0

def isHexDigit (c : Char) : Bool :=
  c.isDigit || ('a' ≤ c && c ≤ 'f') || ('A' ≤ c && c ≤ 'F')

/-- A whole number, if it has at most 64 bits. -/
def bounded (i : Int) : Option Scalar :=
  if -(Int.pow 2 63) ≤ i && i < Int.pow 2 63 then some (integer i) else none

/-- A whole number in another base than ten. -/
def inBase (base : Nat) (isDigit : Char → Bool) (cs : List Char) : Option Scalar :=
  match digits isDigit cs with
  | some (ds, []) => bounded (valueInBase base ds)
  | _ => none

/-- The power of ten at the end of a number. -/
def power? : List Char → Option Int
  | [] => some 0
  | e :: rest =>
    if e == 'e' || e == 'E' then
      let (negative, rest) := Number.readSign rest
      match digits Char.isDigit rest with
      | some (ds, []) =>
        let n : Int := Number.digitsValue ds
        some (if negative then -n else n)
      | _ => none
    else none

/-- A number with a point or a power. It may be too small but not too large to be told from zero and
infinity. -/
def fraction (negative : Bool) (whole part : List Char) (rest : List Char) : Option Scalar :=
  (power? rest).bind fun power =>
    let x := Binary64.ofDecimal negative (Number.digitsValue (whole ++ part)) (power - part.length)
    if x == .infinite false then none else some (float x)

def decimal? (cs : List Char) : Option Scalar :=
  let (negative, cs) := Number.readSign cs
  match wholeDigits cs with
  | some (ds, []) =>
    let n : Int := Number.digitsValue ds
    bounded (if negative then -n else n)
  | some (ds, '.' :: rest) =>
    (digits Char.isDigit rest).bind fun (part, rest) => fraction negative ds part rest
  | some (ds, rest) => fraction negative ds [] rest
  | none => none

/-- A number that has a name. -/
def named? (cs : List Char) : Option Scalar :=
  let (negative, cs) := Number.readSign cs
  match cs with
  | ['i', 'n', 'f'] => some (float (.infinite negative))
  | ['n', 'a', 'n'] => some (float .nan)
  | _ => none

/-! ## Dates and times -/

/-- Two digits as a number within bounds. -/
def twoDigits? (low high : Nat) (a b : Char) : Option Nat :=
  if a.isDigit && b.isDigit then
    let n := Number.digitsValue [a, b]
    if low ≤ n && n ≤ high then some n else none
  else none

def daysIn (year month : Nat) : Nat :=
  let leap := year % 4 == 0 && (year % 100 != 0 || year % 400 == 0)
  if month == 2 then (if leap then 29 else 28)
  else if month == 4 || month == 6 || month == 9 || month == 11 then 30 else 31

/-- A date, as it is written, and what follows it. -/
def date? : List Char → Option (List Char × List Char)
  | y₁ :: y₂ :: y₃ :: y₄ :: '-' :: m₁ :: m₂ :: '-' :: d₁ :: d₂ :: rest => do
    if !([y₁, y₂, y₃, y₄].all Char.isDigit) then none
    let month ← twoDigits? 1 12 m₁ m₂
    let _ ← twoDigits? 1 (daysIn (Number.digitsValue [y₁, y₂, y₃, y₄]) month) d₁ d₂
    return ([y₁, y₂, y₃, y₄, '-', m₁, m₂, '-', d₁, d₂], rest)
  | _ => none

/-- The part of a second, of at most nine digits and without zeros at its end. -/
def secondPart (ds : List Char) : List Char :=
  let part := ((ds.take 9).reverse.dropWhile (· == '0')).reverse
  if part.isEmpty then [] else '.' :: part

/-- A time of day, and what follows it. A minute may have a leap second. -/
def time? : List Char → Option (List Char × List Char)
  | h₁ :: h₂ :: ':' :: m₁ :: m₂ :: ':' :: s₁ :: s₂ :: rest => do
    let _ ← twoDigits? 0 23 h₁ h₂
    let _ ← twoDigits? 0 59 m₁ m₂
    let _ ← twoDigits? 0 60 s₁ s₂
    let clock := [h₁, h₂, ':', m₁, m₂, ':', s₁, s₂]
    match rest with
    | '.' :: rest =>
      let part := rest.takeWhile Char.isDigit
      if part.isEmpty then none
      else return (clock ++ secondPart part, rest.drop part.length)
    | rest => return (clock, rest)
  | _ => none

/-- The distance from world time, at the end of a time; none is left out. -/
def offset? : List Char → Option (List Char)
  | [] => some []
  | ['Z'] => some ['Z']
  | ['z'] => some ['Z']
  | [sign, h₁, h₂, ':', m₁, m₂] => do
    if sign != '+' && sign != '-' then none
    let h ← twoDigits? 0 23 h₁ h₂
    let m ← twoDigits? 0 59 m₁ m₂
    return (if h == 0 && m == 0 then '+' else sign) :: [h₁, h₂, ':', m₁, m₂]
  | _ => none

/-- A time of day with its distance from world time. -/
def timeAndOffset? (cs : List Char) : Option (List Char) :=
  (time? cs).bind fun (time, rest) => (offset? rest).map (time ++ ·)

def dateAndTime? (date time : List Char) : Option Scalar :=
  match date? date with
  | some (d, []) =>
    (timeAndOffset? time).map fun t => datetime (String.ofList (d ++ 'T' :: t))
  | _ => none

def moment? (cs : List Char) : Option Scalar :=
  match date? cs with
  | some (d, []) => some (datetime (String.ofList d))
  | some (d, t :: rest) => if t == 'T' || t == 't' then dateAndTime? d rest else none
  | none =>
    match time? cs with
    | some (t, []) => some (datetime (String.ofList t))
    | _ => none

/-- Whether a word is a date without a time. -/
def isDate (cs : List Char) : Bool :=
  match date? cs with
  | some (_, []) => true
  | _ => false

/-! ## Words -/

def ofWord? (cs : List Char) : Option Scalar :=
  match cs with
  | ['t', 'r', 'u', 'e'] => some (boolean true)
  | ['f', 'a', 'l', 's', 'e'] => some (boolean false)
  | '0' :: 'x' :: rest => inBase 16 isHexDigit rest
  | '0' :: 'o' :: rest => inBase 8 (fun c => '0' ≤ c && c ≤ '7') rest
  | '0' :: 'b' :: rest => inBase 2 (fun c => c == '0' || c == '1') rest
  | cs => ((moment? cs).or (decimal? cs)).or (named? cs)

end Scalar
end Toml
end Parley
