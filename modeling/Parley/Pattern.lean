import Parley.Regex.Search
import Parley.Text.Quoted

/-!
# Parley.Pattern

What an expectation waits for: a literal text, a regular expression of any engine, or the end of the
output.

* `Pattern.find?`: where a pattern first stands in a text. The end of the output stands in no text.
-/

namespace Parley

/-- Where a pattern stands in a text, in bytes, and the texts of the groups that took part. -/
structure Occurrence where
  start : Nat
  stop : Nat
  captures : List String := []
deriving DecidableEq, Repr

namespace Occurrence

def length (o : Occurrence) : Nat := o.stop - o.start

def isEmpty (o : Occurrence) : Bool := o.start == o.stop

end Occurrence

inductive Pattern
  | literal (text : String)
  | regex (engine : Regex.Engine)
  | endOfOutput

namespace Pattern

/-- A pattern from the source of a regular expression, searched as `Regex.Search` does. -/
def ofRegex (source : String) : Except Regex.Fault Pattern :=
  (Regex.compile source).map fun e => .regex e.engine

/-- The pattern as a message names it. -/
def name : Pattern → String
  | literal text => text
  | regex e => e.source
  | endOfOutput => "<EOF>"

/-- The pattern by the name of its case. -/
def caseText : Pattern → String
  | literal text => "Literal(" ++ Text.quote text ++ ")"
  | regex e => "Regex(" ++ Text.quote e.source ++ ")"
  | endOfOutput => "Eof"

def isEnd : Pattern → Bool
  | endOfOutput => true
  | _ => false

/-- How many bytes stand before the first place where a literal stands. -/
def literalFrom (literal : List Char) (place : Nat) : List Char → Option Nat
  | [] => if literal.isEmpty then some place else none
  | c :: rest =>
    if literal.isPrefixOf (c :: rest) then some place
    else literalFrom literal (place + c.utf8Size) rest

/-- What is left of a text after some bytes. -/
def afterBytes (bytes : Nat) : List Char → List Char
  | [] => []
  | c :: rest => if bytes == 0 then c :: rest else afterBytes (bytes - c.utf8Size) rest

/-- The characters that fill some bytes; `acc` holds those taken, the last one first. -/
def takeBytes (bytes : Nat) (acc : List Char) : List Char → List Char
  | [] => acc.reverse
  | c :: rest => if bytes == 0 then acc.reverse else takeBytes (bytes - c.utf8Size) (c :: acc) rest

/-- The text between two places. -/
def slice (text : List Char) (start stop : Nat) : String :=
  String.ofList (takeBytes (stop - start) [] (afterBytes start text))

/-- The texts of the groups that took part in a match, in the order of their numbers. -/
def captured (text : List Char) (groups : Nat) (slots : Regex.Slots) : List String :=
  (List.range groups).filterMap fun i =>
    match slots[2 * (i + 1)]?.join, slots[2 * (i + 1) + 1]?.join with
    | some start, some stop => some (slice text start stop)
    | _, _ => none

/-- The first place in a text where a pattern stands. -/
def find? (p : Pattern) (text : List Char) : Option Occurrence :=
  match p with
  | literal l =>
    (literalFrom l.toList 0 text).map fun start => { start, stop := start + l.utf8ByteSize }
  | regex e =>
    match e.search text with
    | none => none
    | some slots =>
      match slots[0]?.join, slots[1]?.join with
      | some start, some stop => some { start, stop, captures := captured text e.groups slots }
      | _, _ => none
  | endOfOutput => none

end Pattern

end Parley
