import Parley.Rehearsal.Tool.Records.Field
import Parley.Rehearsal.Tool.Records.Layout

/-!
# Parley.Rehearsal.Tool.Records.Built

The functions that scripts for records have from the start, as far as they work on values alone.

* `Records.onValues?`: such a function by its name.
* `Records.substituted`: a text with what is found in it replaced.
-/

namespace Parley
namespace Rehearsal
namespace Records

/-- How numbers become texts. -/
def State.layout (s : State) (x : Binary64) : Bytes := numberBy (s.specialBytes "CONVFMT") x

def textOfValue (v : Value) : Exec Bytes := do return v.bytes (← get).layout

/-- A part of a text from a place on, so long as is asked for; the first place is one. -/
def stretch (bs : Bytes) (start : Binary64) (length : Option Binary64) : Bytes :=
  let first := clamped start
  match length with
  | none => bs.drop (first - 1).toNat
  | some l =>
    let count := clamped l + if first < 0 then -first else 0
    (bs.drop (first - 1).toNat).take count.toNat

/-- The place at which a text stands in another one, or zero. -/
def placeIn (bs wanted : Bytes) : Nat :=
  ((List.range (bs.length + 1)).find? fun i => wanted.isPrefixOf (bs.drop i)).elim 0 (· + 1)

/-! ## Replacements -/

/-- A text in the place of something that was found: a sign stands for what that was. -/
def replacement (found : Bytes) : Bytes → Bytes
  | 92 :: 92 :: 38 :: rest => 92 :: found ++ replacement found rest
  | 92 :: 38 :: rest => 38 :: replacement found rest
  | 38 :: rest => found ++ replacement found rest
  | b :: rest => b :: replacement found rest
  | [] => []

/-- A text with what is found in it replaced, from a place on, and how often that was; `last` is
where something was found before. -/
def substituted (e : Expression) (new : Bytes) (all : Bool) (s : Expression.Subject) :
    Nat → Nat → Option Nat → Bytes × Nat
  | 0, i, _ => (s.slice i s.bytes.size, 0)
  | fuel + 1, i, last =>
    match e.find? s i with
    | none => (s.slice i s.bytes.size, 0)
    | some f =>
      let isEmpty := f.start == f.stop
      if isEmpty && last == some f.start then
        if f.start < s.bytes.size then
          let (rest, n) := substituted e new all s fuel (f.start + 1) last
          (s.slice i (f.start + 1) ++ rest, n)
        else (s.slice i s.bytes.size, 0)
      else
        let front := s.slice i f.start ++ replacement (s.slice f.start f.stop) new
        if !all then (front ++ s.slice f.stop s.bytes.size, 1)
        else if isEmpty then
          if f.stop < s.bytes.size then
            let (rest, n) := substituted e new all s fuel (f.stop + 1) (some f.stop)
            (front ++ s.slice f.stop (f.stop + 1) ++ rest, n + 1)
          else (front, 1)
        else
          let (rest, n) := substituted e new all s fuel f.stop (some f.stop)
          (front ++ rest, n + 1)

/-! ## Functions -/

/-- A function of one number. -/
def ofNumber? (name : String) : Option (Binary64 → Binary64) :=
  let onFloat (f : Float → Float) (x : Binary64) : Binary64 := .ofFloat (f x.toFloat)
  match name with
  | "sin" => some (onFloat Float.sin)
  | "cos" => some (onFloat Float.cos)
  | "exp" => some (onFloat Float.exp)
  | "log" => some (onFloat Float.log)
  | "sqrt" => some (onFloat Float.sqrt)
  | "int" => some Binary64.truncate
  | _ => none

/-- A format with its values, or a complaint. -/
def formatted (function : String) (vs : List Value) : Exec Bytes := do
  match vs with
  | [] => return []
  | f :: vs =>
    let format ← textOfValue f
    match laidOut (← get).layout format vs with
    | (bs, none) => return bs
    | (bs, some fault) =>
      if function == "printf" then put bs
      trouble (fault.text function format)

/-- What a function makes of its values; none if it needs more than values. -/
def onValues? (name : String) (vs : List Value) : Option (Exec Value) :=
  match name, vs with
  | "length", [v] => some do return .ofNat (← textOfValue v).length
  | "substr", [v, start] => some do return .text (stretch (← textOfValue v) start.amount none)
  | "substr", [v, start, length] => some do
    return .text (stretch (← textOfValue v) start.amount (some length.amount))
  | "index", [v, w] => some do return .ofNat (placeIn (← textOfValue v) (← textOfValue w))
  | "sprintf", vs => some do return .text (← formatted "sprintf" vs)
  | "tolower", [v] => some do return .text ((← textOfValue v).map Expression.lower)
  | "toupper", [v] => some do return .text ((← textOfValue v).map Expression.upper)
  | "atan2", [y, x] => some do
    return .number (.ofFloat (Float.atan2 y.amount.toFloat x.amount.toFloat))
  | "rand", [] => some do return .number (.round false 1 2)
  | "srand", vs => some do
    let s ← get
    set { s with seed := vs.headD (.ofNat 0) }
    return s.seed
  | "close", [v] => some do return .ofInt (if ← close (← textOfValue v) then 0 else -1)
  | "fflush", _ => some do
    modify fun s => { s with flushed := s.pieces.length }
    return .ofNat 0
  | "systime", [] => some (return .ofNat 0)
  | "system", [_] => some (return .ofNat 0)
  | name, [v] => (ofNumber? name).map fun f => do return .number (f v.amount)
  | _, _ => none

end Records
end Rehearsal
end Parley
