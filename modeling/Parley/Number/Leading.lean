import Parley.Number.Reader

/-!
# Parley.Number.Leading

The number that a text begins with: a decimal with or without a power of ten, one in base sixteen
with a power of two, or a name.

* `Number.leading?`: the number, and what follows it.
* `Number.leadingInt?`: a whole number in base ten, eight or sixteen, by how it is written.
-/

namespace Parley
namespace Number

def hexValue? (c : Char) : Option Nat :=
  if c.isDigit then some (c.toNat - 48)
  else if 'a' ≤ c ∧ c ≤ 'f' then some (c.toNat - 87)
  else if 'A' ≤ c ∧ c ≤ 'F' then some (c.toNat - 55)
  else none

def isHex (c : Char) : Bool := (hexValue? c).isSome

def hexOf (ds : List Char) : Nat := ds.foldl (fun n d => n * 16 + (hexValue? d).getD 0) 0

/-- A power behind one of two letters, if digits follow; else nothing is taken. -/
def leadingPower (small large : Char) (cs : List Char) : Int × List Char :=
  match cs with
  | e :: rest =>
    if e == small || e == large then
      let (negative, ds) := readSign rest
      let run := ds.takeWhile Char.isDigit
      if run.isEmpty then (0, cs)
      else
        let n : Int := digitsValue run
        (if negative then -n else n, ds.drop run.length)
    else (0, cs)
  | [] => (0, [])

/-- Digits with a point, and what follows them; none if there is no digit. -/
def leadingDigits? (test : Char → Bool) (cs : List Char) :
    Option (List Char × List Char × List Char) :=
  let whole := cs.takeWhile test
  let rest := cs.drop whole.length
  match rest with
  | '.' :: more =>
    let part := more.takeWhile test
    if whole.isEmpty && part.isEmpty then none else some (whole, part, more.drop part.length)
  | rest => if whole.isEmpty then none else some (whole, [], rest)

def leadingDecimal? (negative : Bool) (cs : List Char) : Option (Binary64 × List Char) :=
  (leadingDigits? Char.isDigit cs).map fun (whole, part, rest) =>
    let (power, rest) := leadingPower 'e' 'E' rest
    (.ofDecimal negative (digitsValue (whole ++ part)) (power - part.length), rest)

def leadingHex? (negative : Bool) (cs : List Char) : Option (Binary64 × List Char) :=
  (leadingDigits? isHex cs).map fun (whole, part, rest) =>
    let (power, rest) := leadingPower 'p' 'P' rest
    let (n, d) := scaleTwo (hexOf (whole ++ part)) 1 (power - 4 * part.length)
    (.round negative n d, rest)

/-- A name at the front of a text, in any case. -/
def leadingName? (negative : Bool) (cs : List Char) : Option (Binary64 × List Char) :=
  let low := cs.map Char.toLower
  if "infinity".toList.isPrefixOf low then some (.infinite negative, cs.drop 8)
  else if "inf".toList.isPrefixOf low then some (.infinite negative, cs.drop 3)
  else if "nan".toList.isPrefixOf low then some (.nan, cs.drop 3)
  else none

def isBlank (c : Char) : Bool := " \t\n\x0b\x0c\r".toList.contains c

/-- The number that a text begins with behind blanks, and what follows it. -/
def leading? (cs : List Char) : Option (Binary64 × List Char) :=
  let (negative, rest) := readSign (cs.dropWhile isBlank)
  let hex := match rest with
    | '0' :: x :: digits => if x == 'x' || x == 'X' then leadingHex? negative digits else none
    | _ => none
  match hex with
  | some r => some r
  | none =>
    match leadingDecimal? negative rest with
    | some r => some r
    | none => leadingName? negative rest

/-- The whole number that a text begins with behind blanks, and what follows it: sixteen is the base
behind `0x`, eight behind another zero, ten otherwise. -/
def leadingInt? (cs : List Char) : Option (Int × List Char) :=
  let (negative, rest) := readSign (cs.dropWhile isBlank)
  let signed (n : Nat) : Int := if negative then -(n : Int) else n
  let octal (rest : List Char) : Option (Int × List Char) :=
    let run := rest.takeWhile fun c => '0' ≤ c && c ≤ '7'
    some (signed (run.foldl (fun n d => n * 8 + (d.toNat - 48)) 0), rest.drop run.length)
  match rest with
  | '0' :: x :: digits =>
    if (x == 'x' || x == 'X') && (digits.head?.map isHex).getD false then
      let run := digits.takeWhile isHex
      some (signed (hexOf run), digits.drop run.length)
    else octal rest
  | rest =>
    let run := rest.takeWhile Char.isDigit
    if run.isEmpty then none else some (signed (digitsValue run), rest.drop run.length)

end Number
end Parley
