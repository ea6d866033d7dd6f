import Parley.Rehearsal.Tool.Records.Value

/-!
# Parley.Rehearsal.Tool.Records.Layout

How values are laid out by a format.

* `Records.laidOut`: a format with its values.
-/

namespace Parley
namespace Rehearsal
namespace Records

/-- What is wrong with a format. -/
inductive LayoutFault
  | fewValues
  /-- The directive with this number is none. -/
  | noDirective (number : Nat)

/-- A number without its fraction, within 64 bits. -/
def clamped (x : Binary64) : Int :=
  match x with
  | .nan => -(Int.pow 2 63)
  | .infinite negative => if negative then -(Int.pow 2 63) else Int.pow 2 63 - 1
  | x => max (-(Int.pow 2 63)) (min (Int.pow 2 63 - 1) x.toInt)

/-- The same for a number that is not below zero. -/
def clampedUp (x : Binary64) : Int :=
  match x with
  | .infinite false => Int.pow 2 64 - 1
  | .finite false .. => min (Int.pow 2 64 - 1) x.toInt
  | x => clamped x

/-- A width or a precision at the front of a format: digits, or the next value. -/
def measure (cs : List Char) (vs : List Value) :
    Except LayoutFault (Option Int × List Char × List Value) :=
  match cs with
  | '*' :: rest =>
    match vs with
    | [] => .error .fewValues
    | v :: vs => .ok (some (clamped v.amount), rest, vs)
  | cs =>
    let run := cs.takeWhile Char.isDigit
    if run.isEmpty then .ok (none, cs, vs)
    else .ok (some (Number.digitsValue run), cs.drop run.length, vs)

/-- The layout behind a percent sign. -/
def layoutAt (cs : List Char) (vs : List Value) :
    Except LayoutFault (Format.Layout × List Char × List Value) := do
  let (l, cs) := Format.flags {} cs
  let (width, cs, vs) ← measure cs vs
  let width := width.getD 0
  let l := { l with width := width.natAbs, left := l.left || width < 0 }
  match cs with
  | '.' :: rest =>
    let (precision, rest, vs) ← measure rest vs
    let precision := precision.getD 0
    return ({ l with precision := if precision < 0 then none else some precision.toNat }, rest, vs)
  | cs => return (l, cs, vs)

/-- What one directive makes of a value; none if there is no such directive. -/
def directed (layout : Binary64 → Bytes) (l : Format.Layout) (kind : Char) (v : Value) :
    Option (List Char) :=
  match kind with
  | 'c' =>
    let single (bs : Bytes) : List Char := Format.fill l (letters (bs.take 1))
    let numbered (x : Binary64) : List Char :=
      Format.fill l [Char.ofNat (clamped x % 256).toNat]
    match v with
    | .number x => some (numbered x)
    | .outer _ x => some (numbered x)
    | .text [] => some (Format.fill l ['\x00'])
    | .text bs => some (single bs)
    | .unset => some (Format.fill l ['\x00'])
  | 's' => some (Format.text l (letters (v.bytes layout)))
  | 'd' => some (Format.signed l (clamped v.amount))
  | 'i' => some (Format.signed l (clamped v.amount))
  | kind =>
    if "ouxX".toList.contains kind then some (Format.counted l kind (clampedUp v.amount))
    else if "eEfFgGaA".toList.contains kind then some (Format.real l kind v.amount)
    else none

/-- One directive behind a percent sign: what it makes of the next value, and what follows it. -/
def directiveAt (layout : Binary64 → Bytes) (number : Nat) (cs : List Char) (vs : List Value) :
    Except LayoutFault (List Char × List Char × List Value) := do
  let (l, rest, vs) ← layoutAt cs vs
  match rest.dropWhile fun c => c == 'h' || c == 'l' with
  | [] => throw (.noDirective number)
  | kind :: rest =>
    if !("cdiouxXeEfFgGaAs".toList.contains kind) then throw (.noDirective number)
    match vs with
    | [] => throw .fewValues
    | v :: vs =>
      match directed layout l kind v with
      | none => throw (.noDirective number)
      | some cs => return (cs, rest, vs)

/-- Goes through a format with the values that are left. -/
def laidOutFrom (layout : Binary64 → Bytes) (number : Nat) (acc : List Char) :
    Nat → List Char → List Value → List Char × Option LayoutFault
  | 0, _, _ => (acc.reverse, none)
  | _ + 1, [], _ => (acc.reverse, none)
  | fuel + 1, '%' :: '%' :: rest, vs => laidOutFrom layout number ('%' :: acc) fuel rest vs
  | _ + 1, ['%'], _ => (('%' :: acc).reverse, none)
  | fuel + 1, '%' :: rest, vs =>
    match directiveAt layout number rest vs with
    | .error fault => (acc.reverse, some fault)
    | .ok (cs, rest, vs) => laidOutFrom layout (number + 1) (cs.reverse ++ acc) fuel rest vs
  | fuel + 1, c :: rest, vs => laidOutFrom layout number (c :: acc) fuel rest vs

/-- A format with its values, up to what is wrong with it. -/
def laidOut (layout : Binary64 → Bytes) (format : Bytes) (vs : List Value) :
    Bytes × Option LayoutFault :=
  let (cs, fault) := laidOutFrom layout 1 [] (format.length + 1) (letters format) vs
  (ofLetters cs, fault)

def LayoutFault.text (function : String) (format : Bytes) : LayoutFault → String
  | .fewValues => "not enough arguments passed to " ++ function ++ "(\"" ++ wordOf format ++ "\")"
  | .noDirective n =>
    "improper conversion(number " ++ toString n ++ ") in " ++ function ++ "(\"" ++
      wordOf format ++ "\")"

/-- A number by a format. -/
def numberBy (format : Bytes) (x : Binary64) : Bytes :=
  (laidOut (fun _ => []) format [.number x]).1

end Records
end Rehearsal
end Parley
