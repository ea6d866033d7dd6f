import Parley.Number.Binary64

/-!
# Parley.Number.Reader

Reads a number from text: a sign, digits with a point among them or at either end, and a power of
ten after `e`; or `inf`, `infinity` or `nan`, in any case. There are no blanks, no separators and no
other base.

* `Binary64.ofText?`: the number nearest to what is written.
-/

namespace Parley
namespace Number

def digitsValue (ds : List Char) : Nat := ds.foldl (fun n d => n * 10 + (d.toNat - 48)) 0

/-- A sign, and what follows it. -/
def readSign : List Char → Bool × List Char
  | '-' :: rest => (true, rest)
  | '+' :: rest => (false, rest)
  | rest => (false, rest)

/-- The power of ten at the end of a number; no text is the power zero. -/
def readPower : List Char → Option Int
  | [] => some 0
  | e :: rest =>
    if e == 'e' || e == 'E' then
      let (negative, ds) := readSign rest
      if ds.isEmpty || !ds.all Char.isDigit then none
      else
        let n : Int := digitsValue ds
        some (if negative then -n else n)
    else none

/-- Digits with a point and a power, without a sign. -/
def readUnsigned (negative : Bool) (cs : List Char) : Option Binary64 :=
  let whole := cs.takeWhile Char.isDigit
  let rest := cs.drop whole.length
  let (part, rest) := match rest with
    | '.' :: rest =>
      let part := rest.takeWhile Char.isDigit
      (part, rest.drop part.length)
    | rest => ([], rest)
  if whole.isEmpty && part.isEmpty then none
  else
    (readPower rest).map fun power =>
      Binary64.ofDecimal negative (digitsValue (whole ++ part)) (power - part.length)

/-- A number by name. -/
def readNamed (negative : Bool) (cs : List Char) : Option Binary64 :=
  match String.ofList (cs.map Char.toLower) with
  | "inf" | "infinity" => some (.infinite negative)
  | "nan" => some .nan
  | _ => none

end Number

def Binary64.ofText? (s : String) : Option Binary64 :=
  let (negative, rest) := Number.readSign s.toList
  match Number.readUnsigned negative rest with
  | some x => some x
  | none => Number.readNamed negative rest

end Parley
