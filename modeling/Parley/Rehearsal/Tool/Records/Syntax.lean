import Parley.Number.Binary64
import Parley.Rehearsal.Bytes

/-!
# Parley.Rehearsal.Tool.Records.Syntax

A language for texts that are made of records: rules, each with a pattern and an action, and
functions.

* `Records.Term`: an expression.
* `Records.Statement`: something to do.
* `Records.Script`: a whole script.
-/

namespace Parley
namespace Rehearsal
namespace Records

/-- A variable: one of the script, or a parameter of the current function. -/
inductive Name
  | shared (name : String)
  | parameter (index : Nat)
deriving DecidableEq, Repr, Inhabited

inductive Arithmetic
  | add
  | subtract
  | multiply
  | divide
  | remainder
  | power
deriving DecidableEq, Repr

inductive Comparison
  | less
  | atMost
  | equal
  | different
  | more
  | atLeast
deriving DecidableEq, Repr

inductive Term
  | number (x : Binary64)
  | text (bs : Bytes)
  /-- A regular expression, by its text. -/
  | pattern (bs : Bytes)
  | named (n : Name)
  | element (array : Name) (subscripts : List Term)
  | field (index : Term)
  | assign (op : Option Arithmetic) (target value : Term)
  | choose (test yes no : Term)
  | or (a b : Term)
  | and (a b : Term)
  | member (subscripts : List Term) (array : Name)
  | matched (negated : Bool) (a pattern : Term)
  | compare (c : Comparison) (a b : Term)
  | join (a b : Term)
  | arithmetic (op : Arithmetic) (a b : Term)
  | negate (a : Term)
  | plus (a : Term)
  | not (a : Term)
  /-- Adds one to a target or takes it away, before its value is taken or after that. -/
  | step (up before : Bool) (target : Term)
  | call (function : String) (arguments : List Term)
  | built (function : String) (arguments : List Term)
  /-- Reads a line from the input or from a file. -/
  | line (target file : Option Term)
  /-- Terms in parentheses. -/
  | several (terms : List Term)
deriving Inhabited, Repr

/-- Where something is printed. -/
structure Target where
  path : Term
  appends : Bool := false
  isCommand : Bool := false
deriving Inhabited, Repr

inductive Statement
  | block (body : List Statement)
  | term (t : Term)
  | print (terms : List Term) (target : Option Target)
  | printf (terms : List Term) (target : Option Target)
  | branch (test : Term) (yes : Statement) (no : Option Statement)
  | while (test : Term) (body : Statement)
  | until (body : Statement) (test : Term)
  | loop (first : Option Statement) (test : Option Term) (last : Option Statement)
      (body : Statement)
  | each (key : Term) (array : Name) (body : Statement)
  | next
  | nextFile
  | exit (code : Option Term)
  | return (value : Option Term)
  | break
  | continue
  | delete (array : Name) (subscripts : List Term)
deriving Inhabited, Repr

/-- The records for which an action is meant. -/
inductive Choice
  | all
  | those (test : Term)
  /-- From one record to another. -/
  | range (first last : Term)
deriving Inhabited, Repr

structure Rule where
  choice : Choice
  /-- What is done; none stands for printing the record. -/
  action : Option Statement
deriving Inhabited, Repr

structure Function where
  name : String
  parameters : List String
  body : Statement
deriving Inhabited, Repr

structure Script where
  begins : List Statement := []
  rules : List Rule := []
  ends : List Statement := []
  functions : List Function := []
deriving Inhabited, Repr

end Records
end Rehearsal
end Parley
