import Parley.Number.Shortest
import Parley.Text.Quoted
import Parley.Toml.Document

/-!
# Parley.Toml.Mismatch

Why a text does not say what is asked of it: it is no document, or its values are not of the kind
that is asked for. A fault is reported with the line that it is on and a mark under its place.

* `Complaint.text`: what is wrong with a value.
* `Fault.report`: a fault with the place that it points at.
-/

namespace Parley
namespace Toml

inductive Complaint
  | unknownField (name : String) (expected : List String)
  | unknownVariant (name : String) (expected : List String)
  | invalidType (found expected : String)
  | invalidValue (found expected : String)
  /-- A value that cannot stand for a case at all. -/
  | noCase (reason : String)
  | tooFew (found : Nat) (expected : String)
deriving DecidableEq, Repr

namespace Complaint

/-- Names that may stand in a place. -/
def names : List String → String
  | [] => "there are none"
  | [a] => "expected \x60" ++ a ++ "\x60"
  | [a, b] => "expected \x60" ++ a ++ "\x60 or \x60" ++ b ++ "\x60"
  | all => "expected one of " ++ ", ".intercalate (all.map fun n => "\x60" ++ n ++ "\x60")

def text : Complaint → String
  | unknownField name expected => "unknown field \x60" ++ name ++ "\x60, " ++ names expected
  | unknownVariant name expected => "unknown variant \x60" ++ name ++ "\x60, " ++ names expected
  | invalidType found expected => "invalid type: " ++ found ++ ", expected " ++ expected
  | invalidValue found expected => "invalid value: " ++ found ++ ", expected " ++ expected
  | noCase reason => reason
  | tooFew found expected => "invalid length " ++ toString found ++ ", expected " ++ expected

/-- Whether a complaint is about a name or about the kind of a value. -/
def isSpecific : Complaint → Bool
  | noCase _ => false
  | tooFew .. => false
  | _ => true

end Complaint

/-- A complaint about a part of a document. -/
structure Mismatch where
  complaint : Complaint
  span : Option Span := none
deriving DecidableEq, Repr

inductive Fault
  /-- The text is no document; it cannot be read on from a place. -/
  | malformed (place : Nat)
  | mismatch (m : Mismatch)
deriving DecidableEq, Repr

namespace Fault

/-- A place as a line, a column and the text of the line, each counted from zero. -/
structure Position where
  line : Nat
  column : Nat
  text : List Char

/-- Finds the place that is `bytes` behind the start of a line; `column` counts the characters
before it, and `seen` holds them, the last one first. -/
def positionFrom (line column : Nat) (seen : List Char) : Nat → List Char → Position
  | _, [] => ⟨line, column, seen.reverse⟩
  | bytes, c :: rest =>
    if bytes == 0 then
      ⟨line, column, seen.reverse ++ (c :: rest).takeWhile (· != '\n')⟩
    else if c == '\n' then positionFrom (line + 1) 0 [] (bytes - 1) rest
    else positionFrom line (column + 1) (c :: seen) (bytes - c.utf8Size) rest

def position (text : String) (place : Nat) : Position := positionFrom 0 0 [] place text.toList

/-- A message with the line that it is about and a mark under the part that is meant. -/
def pointAt (text : String) (span : Span) (message : String) : String :=
  let p := position text span.start
  let number := toString (p.line + 1)
  let gutter := String.ofList (List.replicate (number.length + 1) ' ') ++ "|"
  let room := p.text.foldl (fun n c => n + c.utf8Size) 0 - p.column
  let marks := max 1 (min (span.stop - span.start) room)
  "TOML parse error at line " ++ number ++ ", column " ++ toString (p.column + 1) ++ "\n" ++
    gutter ++ "\n" ++
    number ++ " | " ++ String.ofList p.text ++ "\n" ++
    gutter ++ String.ofList (List.replicate (p.column + 1) ' ' ++ List.replicate marks '^') ++
    "\n" ++ message ++ "\n"

/-- A fault found in a text, as messages report it. -/
def report (text : String) : Fault → String
  | malformed place => pointAt text ⟨place, place⟩ "invalid document"
  | mismatch m =>
    match m.span with
    | some span => pointAt text span m.complaint.text
    | none => m.complaint.text ++ "\n"

end Fault
end Toml
end Parley
