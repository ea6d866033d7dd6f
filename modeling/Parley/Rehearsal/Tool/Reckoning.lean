import Parley.Rehearsal.Expression.Reader
import Parley.Rehearsal.Tool.Call

/-!
# Parley.Rehearsal.Tool.Reckoning

A tool whose words are an expression: numbers without bounds, texts, and operators between them.

* `Reckoning.value`: the value of some words.
* `Reckoning.expr`: the tool.
-/

namespace Parley
namespace Rehearsal
namespace Reckoning

open Call

inductive Value
  | number (i : Int)
  | text (bs : Bytes)
deriving DecidableEq, Repr

namespace Value

def bytes : Value → Bytes
  | number i => bytesOf (toString i)
  | text bs => bs

/-- A value as a number, if it is written like one. -/
def int? : Value → Option Int
  | number i => some i
  | text bs =>
    match letters bs with
    | '-' :: ds =>
      if !ds.isEmpty && ds.all Char.isDigit then some (-(Number.digitsValue ds)) else none
    | ds => if !ds.isEmpty && ds.all Char.isDigit then some (Number.digitsValue ds) else none

/-- Whether a value counts as none: an empty text, or a number that is zero. -/
def isNull : Value → Bool
  | number i => i == 0
  | text [] => true
  | text (45 :: bs) => !bs.isEmpty && bs.all (· == 48)
  | text bs => bs.all (· == 48)

def ofBool (b : Bool) : Value := number (if b then 1 else 0)

end Value

/-! ## Operators -/

/-- The basic dialect of regular expressions. -/
def dialect : Expression.Dialect where
  extended := false

/-- What an expression at the beginning of a text comes to: its first group, or else its length. -/
def matched (text expression : Bytes) : Except String Value :=
  match Expression.read? dialect expression with
  | .error f => .error f.text
  | .ok e =>
    let s := Expression.Subject.ofBytes text false
    let hasGroup := 0 < Expression.groupsOf e
    match e.endingAt? s 0 with
    | some found => .ok (if hasGroup then .text (found.group s 1) else .number found.stop)
    | none => .ok (if hasGroup then .text [] else .number 0)

/-- The operators by how strongly they bind, the weakest first. -/
def operators : List (List String) :=
  [["|"], ["&"], ["<", "<=", "=", "==", "!=", ">=", ">"], ["+", "-"], ["*", "/", "%"], [":"]]

def compared (a b : Value) : Ordering :=
  match a.int?, b.int? with
  | some i, some j => compare i j
  | _, _ => compare (a.bytes.map UInt8.toNat) (b.bytes.map UInt8.toNat)

/-- The value of an operator between two values. -/
def combine (op : String) (a b : Value) : Except String Value :=
  let o := compared a b
  let arithmetic (f : Int → Int → Except String Int) : Except String Value :=
    match a.int?, b.int? with
    | some i, some j => (f i j).map .number
    | _, _ => .error "non-integer argument"
  let divided (f : Int → Int → Int) : Except String Value :=
    arithmetic fun i j => if j == 0 then .error "division by zero" else .ok (f i j)
  match op with
  | "|" => .ok (if !a.isNull then a else if b.isNull then .number 0 else b)
  | "&" => .ok (if a.isNull || b.isNull then .number 0 else a)
  | "<" => .ok (.ofBool (o == .lt))
  | "<=" => .ok (.ofBool (o != .gt))
  | "=" => .ok (.ofBool (o == .eq))
  | "==" => .ok (.ofBool (o == .eq))
  | "!=" => .ok (.ofBool (o != .eq))
  | ">=" => .ok (.ofBool (o != .lt))
  | ">" => .ok (.ofBool (o == .gt))
  | "+" => arithmetic fun i j => .ok (i + j)
  | "-" => arithmetic fun i j => .ok (i - j)
  | "*" => arithmetic fun i j => .ok (i * j)
  | "/" => divided Int.tdiv
  | "%" => divided Int.tmod
  | _ => matched a.bytes b.bytes

/-- The place of the first byte of a text that is among some others, counted from one. -/
def indexOf (text others : Bytes) : Nat :=
  match text.findIdx? others.contains with
  | some i => i + 1
  | none => 0

/-- A part of a text. -/
def part (text : Bytes) (start length : Value) : Bytes :=
  match start.int?, length.int? with
  | some i, some n => if i ≤ 0 || n ≤ 0 then [] else (text.drop (i.toNat - 1)).take n.toNat
  | _, _ => []

/-! ## Words -/

abbrev Step := Except String (Value × Nat)

/-- What is said where a word is missing. -/
def missing (words : Array Bytes) (i : Nat) : String :=
  "syntax error: missing argument after " ++ cited (words.getD (i - 1) [])

def isAt (words : Array Bytes) (i : Nat) (word : String) : Bool := words[i]? == some (bytesOf word)

mutual

/-- The value of words from a place on, with operators that bind at least so strongly. Only where
`live` says so does a fault in what is computed count. -/
def level (words : Array Bytes) (live : Bool) (n : Nat) : Nat → Nat → Step
  | 0, _ => .error "syntax error"
  | fuel + 1, i =>
    match operators[n]? with
    | none => single words live fuel i
    | some ops => do
      let (a, i) ← level words live (n + 1) fuel i
      more words live n ops a fuel i
termination_by structural fuel => fuel

/-- Goes on behind a value while operators follow. -/
def more (words : Array Bytes) (live : Bool) (n : Nat) (ops : List String) (a : Value) :
    Nat → Nat → Step
  | 0, i => .ok (a, i)
  | fuel + 1, i =>
    match ops.find? (isAt words i) with
    | none => .ok (a, i)
    | some op => do
      let inner := live && (op != "|" || a.isNull) && (op != "&" || !a.isNull)
      let (b, i) ← level words inner (n + 1) fuel (i + 1)
      let value ← if live then combine op a b else pure a
      more words live n ops value fuel i
termination_by structural fuel => fuel

/-- A word, a call or an expression in parentheses. -/
def single (words : Array Bytes) (live : Bool) : Nat → Nat → Step
  | 0, _ => .error "syntax error"
  | fuel + 1, i =>
    match words[i]? with
    | none => .error (missing words i)
    | some w => do
      match wordOf w with
      | "+" =>
        match words[i + 1]? with
        | some v => return (.text v, i + 2)
        | none => throw (missing words (i + 1))
      | "length" =>
        let (a, i) ← single words live fuel (i + 1)
        return (.number a.bytes.length, i)
      | "match" =>
        let (a, i) ← single words live fuel (i + 1)
        let (b, i) ← single words live fuel i
        return (← if live then matched a.bytes b.bytes else pure a, i)
      | "index" =>
        let (a, i) ← single words live fuel (i + 1)
        let (b, i) ← single words live fuel i
        return (.number (indexOf a.bytes b.bytes), i)
      | "substr" =>
        let (a, i) ← single words live fuel (i + 1)
        let (b, i) ← single words live fuel i
        let (c, i) ← single words live fuel i
        return (.text (part a.bytes b c), i)
      | "(" =>
        let (a, i) ← level words live 0 fuel (i + 1)
        match words[i]? with
        | none =>
          throw ("syntax error: expecting ')' after " ++ cited (words.getD (i - 1) []))
        | some v =>
          if v == [41] then return (a, i + 1)
          else throw ("syntax error: expecting ')' instead of " ++ cited v)
      | ")" => throw "syntax error: unexpected ')'"
      | _ => return (.text w, i + 1)
termination_by structural fuel => fuel

end

/-- The value of some words. -/
def value (words : List Bytes) : Except String Value := do
  let words := words.toArray
  let (a, i) ← level words true 0 (16 * words.size + 32) 0
  match words[i]? with
  | none => return a
  | some w => throw ("syntax error: unexpected argument " ++ cited w)

def expr (c : Call) : Launch :=
  let words := if c.arguments.head? == some [45, 45] then c.arguments.drop 1 else c.arguments
  if words.isEmpty then c.misuse "missing operand" 2
  else
    match value words with
    | .error text => c.fail text 2
    | .ok v => .tool (.print (v.bytes ++ [10]) [] (if v.isNull then 1 else 0)) []

end Reckoning
end Rehearsal
end Parley
