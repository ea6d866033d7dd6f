import Parley.Toml.Mismatch

/-!
# Parley.Toml.Decode

Takes values of a given kind from a document. A record is a table in which every key is known, or a
list of its fields in order; one case of several is named by a string, or by the only key of a
table.

* `Decode.string`, `Decode.path`, `Decode.list`, `Decode.flag`, `Decode.number`, `Decode.count`:
  plain values.
* `Decode.case`: one of some names.
* `Decode.record`, `Decode.strings`: tables.
-/

namespace Parley
namespace Toml

/-- A value of some kind, or what is wrong. -/
abbrev Decoded (α : Type) := Except Mismatch α

namespace Decode

/-- The key under which a date stands for itself where a table is asked for. -/
def momentKey : String := "$__toml_private_datetime"

/-- What a value is, as complaints name it. -/
def describe : Value → String
  | .string _ s => "string " ++ Text.quote s
  | .integer _ i => "integer \x60" ++ toString i ++ "\x60"
  | .float _ x => "floating point \x60" ++ x.textWithPoint ++ "\x60"
  | .boolean _ b => "boolean \x60" ++ toString b ++ "\x60"
  | .datetime .. => "map"
  | .array .. => "sequence"
  | .tables .. => "sequence"
  | .table .. => "map"

def complain {α : Type} (c : Complaint) (span : Option Span) : Decoded α := .error ⟨c, span⟩

def wrongType {α : Type} (expected : String) (v : Value) : Decoded α :=
  complain (.invalidType (describe v) expected) v.span?

/-- Points a complaint that points nowhere at a part of the document. -/
def about {α : Type} (span : Option Span) (d : Decoded α) : Decoded α :=
  d.mapError fun m => { m with span := m.span.or span }

def text (expected : String) : Value → Decoded String
  | .string _ s => .ok s
  | v => wrongType expected v

def string : Value → Decoded String := text "a string"

def path : Value → Decoded String := text "path string"

/-- The items of an array, or of a list of tables. -/
def items? : Value → Option (List Value)
  | .array _ items => some items
  | .tables _ items => some items
  | _ => none

def list {α : Type} (item : Value → Decoded α) (v : Value) : Decoded (List α) :=
  match items? v with
  | some items => items.mapM item
  | none => wrongType "a sequence" v

def flag : Value → Decoded Bool
  | .boolean _ b => .ok b
  | v => wrongType "a boolean" v

/-- A number of 64 bits; a whole number stands for the nearest one. -/
def number : Value → Decoded Binary64
  | .float _ x => .ok x
  | .integer _ i => .ok (.ofInt i)
  | v => wrongType "f64" v

/-- A whole number that is not negative; `kind` names its width. -/
def count (kind : String) (v : Value) : Decoded Nat :=
  match v with
  | .integer span i =>
    if i < 0 then complain (.invalidValue (describe v) kind) (some span) else .ok i.toNat
  | v => wrongType kind v

/-- The case of a name. -/
def named {α : Type} (cases : List (String × α)) (name : String) (span : Option Span) : Decoded α :=
  match cases.lookup name with
  | some a => .ok a
  | none => complain (.unknownVariant name (cases.map (·.1))) span

/-- What is wrong with a value behind the name of a case, where only an empty table or list may
stand. -/
def excess? : Value → Option String
  | .array _ items => if items.isEmpty then none else some "expected empty table"
  | .tables _ items => if items.isEmpty then none else some "expected empty array"
  | .table _ _ es => if es.isEmpty then none else some "expected empty table"
  | .string .. => some "expected table, found string"
  | .integer .. => some "expected table, found integer"
  | .float .. => some "expected table, found float"
  | .boolean .. => some "expected table, found boolean"
  | .datetime .. => some "expected table, found datetime"

def case {α : Type} (cases : List (String × α)) : Value → Decoded α
  | .string span name => named cases name (some span)
  | .table span _ [(key, v)] => do
    let a ← named cases key.text (some key.span)
    match excess? v with
    | none => return a
    | some reason => complain (.noCase reason) (v.span?.or span)
  | .table span _ [] => complain (.noCase "wanted exactly 1 element, found 0 elements") span
  | .table span _ _ => complain (.noCase "wanted exactly 1 element, more than 1 element") span
  | v => complain (.noCase "wanted string or table") v.span?

/-- Adds the entries of a table to a record, one after another. -/
def fields {α : Type} (names : List String) (set : α → String → Value → Decoded α) (a : α) :
    Entries → Decoded α
  | [] => .ok a
  | (key, v) :: rest =>
    if names.contains key.text then do
      let a ← about (some key.span) (set a key.text v)
      fields names set a rest
    else complain (.unknownField key.text names) (some key.span)

/-- Adds the items of a list to a record, the first one as its first field. -/
def positional {α : Type} (set : α → String → Value → Decoded α) (a : α) (found : Nat)
    (expected : String) (span : Option Span) : List String → List Value → Decoded α
  | [], _ => .ok a
  | _ :: _, [] => complain (.tooFew found expected) span
  | name :: names, v :: rest => do
    let a ← set a name v
    positional set a (found + 1) expected span names rest

/-- A record; `title` names its kind, and `names` its fields. -/
def record {α : Type} (title : String) (names : List String)
    (set : α → String → Value → Decoded α) (start : α) (v : Value) : Decoded α :=
  match v with
  | .table span _ es => about span (fields names set start es)
  | .datetime span _ => complain (.unknownField momentKey names) (some span)
  | v =>
    match items? v with
    | some items =>
      positional set start 0
        (title ++ " with " ++ toString names.length ++ " elements") v.span? names items
    | none => wrongType title v

/-- The strings of a table, under their keys. -/
def strings : Value → Decoded (List (String × String))
  | .table span _ es => about span (es.mapM fun (key, v) => do
      return (key.text, ← about (some key.span) (string v)))
  | .datetime _ t => .ok [(momentKey, t)]
  | v => wrongType "a map" v

end Decode
end Toml
end Parley
