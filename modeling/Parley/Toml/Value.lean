import Parley.Number.Binary64

/-!
# Parley.Toml.Value

What a TOML document says: tables of keys and values, in the order in which they were written. Each
part keeps its place in the text, so a fault can point at it.

* `Value.within`: changes the table at the end of a path of keys, making the tables on the way.
-/

namespace Parley
namespace Toml

/-- A stretch of a text, in bytes. -/
structure Span where
  start : Nat
  stop : Nat
deriving DecidableEq, Repr

structure Key where
  text : String
  span : Span
deriving DecidableEq, Repr

/-- How a table came to be, which settles what may be added to it later. -/
inductive Origin
  /-- By a header of its own. -/
  | header
  /-- On the way to a table with a header. -/
  | implied
  /-- On the way to a value, by a key with dots. -/
  | dotted
  /-- Between braces. -/
  | braces
deriving DecidableEq, Repr

inductive Value
  | string (span : Span) (text : String)
  | integer (span : Span) (value : Int)
  | float (span : Span) (value : Binary64)
  | boolean (span : Span) (value : Bool)
  | datetime (span : Span) (text : String)
  | array (span : Span) (items : List Value)
  /-- A list of tables, each with a header of its own. -/
  | tables (span : Option Span) (items : List Value)
  | table (span : Option Span) (origin : Origin) (entries : List (Key × Value))

abbrev Entries := List (Key × Value)

namespace Value

def span? : Value → Option Span
  | string s _ => some s
  | integer s _ => some s
  | float s _ => some s
  | boolean s _ => some s
  | datetime s _ => some s
  | array s _ => some s
  | tables s _ => s
  | table s _ _ => s

/-- The stretch from the start of one table to the end of another. -/
def hull : List Value → Option Span
  | [] => none
  | first :: rest =>
    match first.span?, (rest.getLastD first).span? with
    | some a, some b => some ⟨a.start, b.stop⟩
    | _, _ => none

end Value

namespace Entries

def valueOf? (key : String) : Entries → Option Value
  | [] => none
  | (k, v) :: rest => if k.text == key then some v else valueOf? key rest

def without (key : String) (es : Entries) : Entries := es.filter fun e => e.1.text != key

/-- Puts a value in the place of the one that a key has. -/
def exchange (key : String) (v : Value) (es : Entries) : Entries :=
  es.map fun e => if e.1.text == key then (e.1, v) else e

end Entries

/-- Changes the last of some values. -/
def changeLast (f : Value → Option Value) : List Value → Option (List Value)
  | [] => none
  | [v] => (f v).map fun v => [v]
  | v :: w :: rest => (changeLast f (w :: rest)).map (v :: ·)

/-- Changes the table at the end of a path. Tables that are missing on the way are made, as `made`
says. A list of tables stands for its last one. No path leads through another value or through a
table in braces, and where keys with dots make the path, none leads through a table with a header.
-/
def Value.within (made : Origin) (f : Value → Option Value) : List Key → Value → Option Value
  | [], v => f v
  | key :: path, .table span origin es =>
    let next := within made f path
    match Entries.valueOf? key.text es with
    | none =>
      (next (.table none made [])).map fun child => .table span origin (es ++ [(key, child)])
    | some (.table s o sub) =>
      if o == .braces || (made == .dotted && o == .header) then none
      else
        (next (.table s o sub)).map fun child =>
          .table span origin (Entries.exchange key.text child es)
    | some (.tables _ items) =>
      (changeLast next items).map fun items =>
        .table span origin (Entries.exchange key.text (.tables (Value.hull items) items) es)
    | some _ => none
  | _ :: _, _ => none

end Toml
end Parley
