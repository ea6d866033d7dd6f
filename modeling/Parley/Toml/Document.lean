import Parley.Toml.Reader

/-!
# Parley.Toml.Document

Reads a whole document: lines with a key and its value, and headers that say to which table the
lines below them belong. A table has one header, and neither a header nor a key with dots adds to a
table that is complete.

* `Document.parse`: the table that a text stands for.
-/

namespace Parley
namespace Toml
namespace Document

/-- A document so far, and the path of the table that lines are added to. -/
structure Draft where
  root : Value := .table none .header []
  current : List Key := []

/-- Opens the table of a header. A table that only stood on the way to another gets its header now,
and moves to the end. -/
def openTable (span : Span) (last : Key) : Value → Option Value
  | .table s origin es =>
    match Entries.valueOf? last.text es with
    | none => some (.table s origin (es ++ [(last, .table (some span) .header [])]))
    | some (.table _ .implied sub) =>
      some (.table s origin
        (Entries.without last.text es ++ [(last, .table (some span) .header sub)]))
    | some _ => none
  | _ => none

/-- Adds a table to a list of tables. -/
def addTable (span : Span) (last : Key) : Value → Option Value
  | .table s origin es =>
    let child := Value.table (some span) .header []
    match Entries.valueOf? last.text es with
    | none => some (.table s origin (es ++ [(last, .tables (some span) [child])]))
    | some (.tables _ items) =>
      let items := items ++ [child]
      some (.table s origin (Entries.exchange last.text (.tables (Value.hull items) items) es))
    | some _ => none
  | _ => none

/-- Adds a value under a key; `direct` says that the key has no dots. A key with dots adds to no
table but one that such keys made. -/
def addValue (direct : Bool) (last : Key) (v : Value) : Value → Option Value
  | .table span origin es =>
    if (origin == .dotted) == direct then none
    else if (Entries.valueOf? last.text es).isSome then none
    else some (.table span origin (es ++ [(last, v)]))
  | _ => none

/-- A table whose stretch of the text goes on to the end of a value. -/
def stretchTo (v : Value) : Value → Value
  | .table (some span) origin es =>
    .table (some ⟨span.start, (v.span?.map Span.stop).getD span.stop⟩) origin es
  | t => t

namespace Draft

def openHeader (d : Draft) (path : List Key) (many : Bool) (span : Span) : Option Draft :=
  path.getLast?.bind fun last =>
    let add := if many then addTable span last else openTable span last
    (Value.within .implied add path.dropLast d.root).map fun root => { root, current := path }

def addEntry (d : Draft) (path : List Key) (v : Value) : Option Draft :=
  path.getLast?.bind fun last =>
    let add := fun table =>
      (Value.within .dotted (addValue (path.length == 1) last v) path.dropLast table).map
        (stretchTo v)
    (Value.within .implied add d.current d.root).map fun root => { d with root }

end Draft

/-- A header: the path of a table between brackets, or of a list of tables between two pairs. -/
def header (d : Draft) : Reader Draft := do
  let start ← Reader.place
  let many ← Reader.tryText ['[', '[']
  if !many then Reader.expect ['[']
  let path ← Reader.keyPath
  Reader.expect (if many then [']', ']'] else [']'])
  let stop ← Reader.place
  Reader.lineEnd
  match d.openHeader path many ⟨start, stop⟩ with
  | some d => return d
  | none => throw start

/-- A key and its value. -/
def entry (d : Draft) : Reader Draft := do
  let start ← Reader.place
  let path ← Reader.keyPath
  Reader.expect ['=']
  Reader.blanks
  let v ← Reader.value Reader.depthLimit (← Reader.enough)
  Reader.lineEnd
  match d.addEntry path v with
  | some d => return d
  | none => throw start

/-- The lines of a document. -/
def lines (d : Draft) : Nat → Reader Value
  | 0 => Reader.stop
  | fuel + 1 => do
    Reader.blanks
    match ← Reader.peek with
    | none => return d.root
    | some '#' =>
      Reader.lineEnd
      lines d fuel
    | some '[' => lines (← header d) fuel
    | some c =>
      if c == '\n' || c == '\r' then
        if ← Reader.tryNewline then lines d fuel else Reader.stop
      else lines (← entry d) fuel

/-- The document of a text, or the place where the text is none. A byte order mark at the start is
passed over. -/
def parse (text : String) : Except Nat Value :=
  let read : Reader Value := do
    let _ ← Reader.tryText ['\uFEFF']
    lines {} (← Reader.enough)
  read.run' { rest := text.toList }

end Document
end Toml
end Parley
