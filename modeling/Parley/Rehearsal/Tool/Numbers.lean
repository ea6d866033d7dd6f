import Parley.Rehearsal.Format
import Parley.Rehearsal.Tool.Saying

/-!
# Parley.Rehearsal.Tool.Numbers

Tools about numbers.

* `Numbers.seq`: numbers from one to another.
* `Numbers.factor`: the primes that a number is a product of.
-/

namespace Parley
namespace Rehearsal
namespace Numbers

open Call

/-! ## Sequences -/

/-- A decimal number: a whole number over a power of ten, with the width and the places with which
it is written. -/
structure Decimal where
  value : Int
  places : Nat
  width : Int
  precision : Nat

/-- A whole number at another count of places, which is not smaller. -/
def Decimal.at (d : Decimal) (places : Nat) : Int :=
  d.value * (Nat.pow 10 (places - d.places) : Nat)

/-- The width of a decimal number without its power of ten. -/
def writtenWidth (sign whole part : List Char) (hasPoint : Bool) (power : Int) (hasPower : Bool) :
    Int :=
  let length : Int := sign.length + whole.length + part.length + if hasPoint then 1 else 0
  let pointed := if !hasPoint then length
    else if part.isEmpty then length - 1
    else if whole.isEmpty then length + 1 else length
  if !hasPower then pointed
  else if power < 0 then
    (if hasPoint then (if part.isEmpty then pointed + 1 else pointed) else pointed + 1) - power
  else
    let precision := part.length - power.toNat
    (if hasPoint && precision == 0 && !part.isEmpty then pointed - 1 else pointed) +
      ((power.toNat - part.length : Nat) : Int)

/-- The decimal number of a word. -/
def decimal? (w : Bytes) : Option Decimal :=
  let cs := (letters w).dropWhile fun c => Number.isBlank c || c == '+'
  let (negative, rest) := Number.readSign cs
  let sign : List Char := if negative then ['-'] else []
  let signed (n : Nat) : Int := if negative then -(n : Int) else n
  match rest with
  | '0' :: x :: ds =>
    if x == 'x' || x == 'X' then
      if ds.isEmpty || !ds.all Number.isHex then none
      else some { value := signed (Number.hexOf ds), places := 0, width := 0, precision := 0 }
    else plain sign signed rest
  | rest => plain sign signed rest
where
  plain (sign : List Char) (signed : Nat → Int) (rest : List Char) : Option Decimal :=
    match Number.leadingDigits? Char.isDigit rest with
    | none => none
    | some (whole, part, behind) =>
      let hasPoint := rest.contains '.'
      let (power, behind') := Number.leadingPower 'e' 'E' behind
      if !behind'.isEmpty then none
      else
        let hasPower := !behind.isEmpty
        let n := Number.digitsValue (whole ++ part)
        let raised := n * Nat.pow 10 (power - part.length).toNat
        some { value := signed raised, places := (part.length - power).toNat
               width := writtenWidth sign whole part hasPoint power hasPower
               precision := (part.length - power).toNat }

/-- A decimal number with so many places. -/
def fixed (value : Int) (places : Nat) : List Char :=
  let ds := (toString value.natAbs).toList
  let ds := List.replicate (places + 1 - ds.length) '0' ++ ds
  let whole := ds.take (ds.length - places)
  (if value < 0 then ['-'] else []) ++ whole ++
    if places == 0 then [] else '.' :: ds.drop whole.length

/-- A number with zeros in front of its digits up to a width. -/
def zeroFilled (width : Nat) (cs : List Char) : List Char :=
  match cs with
  | '-' :: ds => '-' :: (List.replicate (width - cs.length) '0' ++ ds)
  | ds => List.replicate (width - cs.length) '0' ++ ds

/-- The common width of numbers. -/
def commonWidth (first last : Decimal) (places : Nat) : Nat :=
  let adjusted (d : Decimal) : Int :=
    d.width + ((places : Int) - d.precision) + if d.precision == 0 && places != 0 then 1 else 0
  let lastWidth := adjusted last - if last.precision != 0 && places == 0 then 1 else 0
  (max (adjusted first) lastWidth).toNat

/-- How many numbers are written at most. -/
def mostNumbers : Nat := 4000000

/-- How many numbers there are from one to another. -/
def countOf (first step last : Int) : Nat :=
  if step == 0 then 0
  else if 0 < step then (if last < first then 0 else ((last - first) / step + 1).toNat)
  else if first < last then 0
  else ((first - last) / (-step) + 1).toNat

/-- What is wrong with a format of numbers, if something is. -/
def formatFault? (format : List Char) (text : String) : Option String :=
  let named := "format " ++ cited (bytesOf text) ++ " "
  let rec find : Nat → List Char → Option (List Char)
    | 0, _ => none
    | _ + 1, [] => none
    | fuel + 1, '%' :: '%' :: rest => find fuel rest
    | _ + 1, '%' :: rest => some rest
    | fuel + 1, _ :: rest => find fuel rest
  match find (format.length + 1) format with
  | none => some (named ++ "has no % directive")
  | some rest =>
    let rest := rest.dropWhile fun c => "-+#0 '".toList.contains c
    let rest := rest.dropWhile Char.isDigit
    let rest := match rest with
      | '.' :: rest => rest.dropWhile Char.isDigit
      | rest => rest
    match rest.dropWhile (· == 'L') with
    | [] => some (named ++ "ends in %")
    | c :: rest =>
      if !"efgaEFGA".toList.contains c then
        some (named ++ "has unknown %" ++ String.ofList [c] ++ " directive")
      else if (find (rest.length + 1) rest).isSome then some (named ++ "has too many % directives")
      else none

/-- A number in a format. -/
def inFormat (format : Bytes) (value : Int) (places : Nat) : Bytes :=
  let format := ofLetters ((letters format).filter (· != 'L'))
  (Format.printf .program format [ofLetters (fixed value places)]).bytes

/-- Options in front of numbers; a negative number is none. -/
def seqWords (acc : List Bytes) : List Bytes → List Bytes × List Bytes
  | [] => (acc.reverse, [])
  | w :: rest =>
    match letters w with
    | '-' :: c :: _ =>
      if c == '.' || c.isDigit then (acc.reverse, w :: rest)
      else if w == [45, 45] then (acc.reverse, rest)
      else if ["-f", "-s", "--format", "--separator"].contains (wordOf w) then
        match rest with
        | v :: rest => seqWords (v :: w :: acc) rest
        | [] => ((w :: acc).reverse, [])
      else seqWords (w :: acc) rest
    | _ => (acc.reverse, w :: rest)

def seq (c : Call) : Launch :=
  let (options, numbers) := seqWords [] c.arguments
  let k : Known := known "f:s:w" [("equal-width", .bare, "w"), ("format", .valued, "f"),
    ("separator", .valued, "s")]
  { c with arguments := options }.options k 1 fun p =>
    let bad := numbers.take 3 |>.find? fun w => (decimal? w).isNone
    match numbers, bad with
    | [], _ => c.misuse "missing operand" 1
    | _ :: _ :: _ :: w :: _, _ => c.misuse ("extra operand " ++ cited w) 1
    | _, some w =>
      let name := wordOf w
      if name.toLower == "nan" then
        c.misuse ("invalid 'not-a-number' argument: " ++ cited (bytesOf name)) 1
      else c.misuse ("invalid floating point argument: " ++ cited (bytesOf name)) 1
    | words, none =>
      let unit : Decimal := { value := 1, places := 0, width := 1, precision := 0 }
      let (first, step, last) := match words.filterMap decimal? with
        | [a, b, d] => (a, b, d)
        | [a, d] => (a, unit, d)
        | [d] => (unit, unit, d)
        | _ => (unit, unit, unit)
      if step.value == 0 then
        c.misuse ("invalid Zero increment value: " ++ cited (words.getD 1 [])) 1
      else
        match (p.value? "f").bind fun f => formatFault? (letters f) (wordOf f) with
        | some text => c.fail text 1
        | none =>
          if p.has "f" && p.has "w" then
            c.misuse "format string may not be specified when printing equal width strings" 1
          else
            let scale := max first.places (max step.places last.places)
            let places := max first.precision step.precision
            let count := min mostNumbers (countOf (first.at scale) (step.at scale) (last.at scale))
            let width := if p.has "w" then commonWidth first last places else 0
            let values := (List.range count).map fun (i : Nat) =>
              first.at places + (i : Int) * step.at places
            let texts := values.map fun v =>
              match p.value? "f" with
              | some f => inFormat f v places
              | none => ofLetters (zeroFilled width (fixed v places))
            let separator := (p.value? "s").getD [10]
            .print (if texts.isEmpty then [] else joinWith separator texts ++ [10])

/-! ## Primes -/

/-- The primes of a number from some divisor on. Each turn of the count takes a prime or goes on to
the next divisor. -/
def primesFrom (acc : List Nat) (d n : Nat) : Nat → List Nat
  | 0 => (n :: acc).reverse
  | turns + 1 =>
    if n ≤ 1 then acc.reverse
    else if n < d * d then (n :: acc).reverse
    else if n % d == 0 then primesFrom (d :: acc) d (n / d) turns
    else primesFrom acc (if d == 2 then 3 else d + 2) n turns

def primes (n : Nat) : List Nat := primesFrom [] 2 n 4000000

/-- The line of a number: its primes, or powers of them. -/
def factorLine (powers : Bool) (n : Nat) : String :=
  let ps := primes n
  let texts := if !powers then ps.map toString
    else ps.eraseDups.map fun q =>
      let k := ps.count q
      if k == 1 then toString q else toString q ++ "^" ++ toString k
  toString n ++ ":" ++ String.join (texts.map (" " ++ ·)) ++ "\n"

def factorAll (c : Call) (powers : Bool) (words : List Bytes) : Outcome :=
  let number? (w : Bytes) : Option Nat :=
    match letters w with
    | '+' :: ds => if !ds.isEmpty && ds.all Char.isDigit then some (Number.digitsValue ds) else none
    | ds => if !ds.isEmpty && ds.all Char.isDigit then some (Number.digitsValue ds) else none
  let output := words.filterMap number? |>.map (factorLine powers)
  let errors := (words.filter fun w => (number? w).isNone).map fun w =>
    c.complaint (cited w ++ " is not a valid positive integer")
  { output := bytesOf (String.join output), errors := bytesOf (String.join errors)
    code := some (if errors.isEmpty then 0 else 1) }

def factor (c : Call) : Launch :=
  c.options (known "h" [("exponents", .bare, "h")]) 1 fun p =>
    if !p.operands.isEmpty then .outcome (factorAll c (p.has "h") p.operands)
    else
      .whole fun bs =>
        let words := ((wordOf bs).map fun ch => if Number.isBlank ch then ' ' else ch).splitOn " "
        factorAll c (p.has "h") ((words.filter (· != "")).map bytesOf)

end Numbers
end Rehearsal
end Parley
