import Parley.Rehearsal.Tool.Call
import Parley.Rehearsal.Tool.Records.Pattern
import Parley.Rehearsal.Tool.Records.Value

/-!
# Parley.Rehearsal.Tool.Records.State

What a script for records works on: its variables, the fields of the record, its texts, and what it
has written. A script stops where it needs a part of its input that has not come yet.

* `Records.State`: a script at work.
* `Records.Exec`: work that may stop.
* `Records.expressionOf`: a regular expression by its text.
-/

namespace Parley
namespace Rehearsal
namespace Records

/-- What a variable holds. -/
inductive Slot
  | value (v : Value)
  | store (id : Nat)
  /-- Nothing yet; it becomes the store with this number once it is used as one. -/
  | unused (id : Nat)

/-- A text that is read by records. -/
inductive Feed
  | input
  | text (rest : Bytes)

/-- What has been written to a file. -/
structure Written where
  path : Bytes
  appends : Bool
  /-- The pieces, the last one first. -/
  pieces : List Bytes
  isClosed : Bool := false

structure State where
  shared : List (String × Slot) := []
  parameters : Array Slot := #[]
  stores : List (Nat × Store) := []
  nextStore : Nat := 0
  record : Value := .unset
  fields : Array Value := #[]
  /-- What has come of the input and has not been read. -/
  input : Bytes := []
  feed : Option Feed := none
  /-- The number of the next argument. -/
  argument : Nat := 1
  /-- Whether a text has been among the arguments. -/
  hasText : Bool := false
  /-- Files that are read by name. -/
  feeds : List (Bytes × Feed) := []
  /-- What has been written, the last piece first. -/
  pieces : List Bytes := []
  /-- How many of these pieces do not wait for more. -/
  flushed : Nat := 0
  errors : List Bytes := []
  written : List Written := []
  /-- The rules whose ranges are open. -/
  openRanges : List Nat := []
  /-- Regular expressions by their texts. -/
  expressions : List (Bytes × Expression) := []
  code : Nat := 0
  seed : Value := .unset

structure Settings where
  script : Script
  /-- Whether all of the input has come. -/
  ended : Bool
  /-- What stands in a file. -/
  source : Bytes → Call.Source
  /-- Why a file cannot be written. -/
  refusal? : Bytes → Option SystemError

/-- Why work stops. -/
inductive Stop
  /-- It needs input that has not come. -/
  | needsInput
  | next
  | nextFile
  | exit
  | return (v : Value)
  | break
  | continue
  | failed (text : String)

abbrev Exec (α : Type) := ExceptT Stop (StateM State) α

/-! ## Variables -/

def assignSlot (name : String) (slot : Slot) : List (String × Slot) → List (String × Slot)
  | [] => [(name, slot)]
  | v :: rest => if v.1 == name then (name, slot) :: rest else v :: assignSlot name slot rest

def State.setSlot (s : State) (n : Name) (slot : Slot) : State :=
  match n with
  | .shared name => { s with shared := assignSlot name slot s.shared }
  | .parameter i => { s with parameters := s.parameters.set! i slot }

def State.slot? (s : State) (n : Name) : Option Slot :=
  match n with
  | .shared name => s.shared.lookup name
  | .parameter i => s.parameters[i]?

def State.value (s : State) (n : Name) : Value :=
  if n == .shared "NF" then .ofNat s.fields.size
  else
    match s.slot? n with
    | some (.value v) => v
    | _ => .unset

def State.special (s : State) (name : String) : Value := s.value (.shared name)

/-- The bytes of a variable that is no number. -/
def State.specialBytes (s : State) (name : String) : Bytes :=
  (s.special name).bytes fun _ => []

def storeOf (id : Nat) : Exec Store := do return ((← get).stores.lookup id).getD {}

def setStore (id : Nat) (store : Store) : Exec Unit :=
  modify fun s => { s with stores := (id, store) :: s.stores.filter fun e => e.1 != id }

/-- The store for which a name stands. -/
def storeNamed (n : Name) : Exec Nat := do
  let s ← get
  match s.slot? n with
  | some (.store id) => return id
  | some (.unused id) =>
    set (s.setSlot n (.store id))
    return id
  | some (.value _) => throw (.failed "type error in array access")
  | none =>
    let id := s.nextStore
    set ({ s with nextStore := id + 1 }.setSlot n (.store id))
    return id

/-- Complains about something with the place that has been reached. -/
def trouble {α : Type} (text : String) : Exec α := do
  let s ← get
  let shown (name : String) : String := wordOf ((s.special name).bytes fun _ => [])
  throw (.failed ("run time error: " ++ text ++ "\n\tFILENAME=\"" ++ shown "FILENAME" ++
    "\" FNR=" ++ shown "FNR" ++ " NR=" ++ shown "NR"))

/-! ## Regular expressions -/

def expressionOf (bs : Bytes) : Exec Expression := do
  match (← get).expressions.lookup bs with
  | some e => return e
  | none =>
    match readPattern bs with
    | .ok e =>
      modify fun s => { s with expressions := (bs, e) :: s.expressions }
      return e
    | .error f => trouble (patternFault bs f)

/-! ## Output -/

def put (bs : Bytes) : Exec Unit :=
  modify fun s => { s with pieces := bs :: s.pieces }

/-- Writes to a file. -/
def putFile (k : Settings) (path : Bytes) (appends : Bool) (bs : Bytes) : Exec Unit := do
  let s ← get
  if path == bytesOf "/dev/stdout" || path == [45] then put bs
  else if path == bytesOf "/dev/stderr" then set { s with errors := bs :: s.errors }
  else
    match s.written.find? fun w => w.path == path with
    | some w =>
      let w := if w.isClosed && !appends then { path, appends, pieces := [bs] }
        else { w with pieces := bs :: w.pieces, isClosed := false }
      set { s with written := w :: s.written.filter fun w => w.path != path }
    | none =>
      match k.refusal? path with
      | some e =>
        throw (.failed ("cannot open \"" ++ wordOf path ++ "\" for output (" ++ e.reason ++ ")"))
      | none => set { s with written := { path, appends, pieces := [bs] } :: s.written }

/-- Lets go of a file; the answer is whether it was in use. -/
def close (path : Bytes) : Exec Bool := do
  let s ← get
  let isWritten := s.written.any fun w => w.path == path && !w.isClosed
  set { s with
    written := s.written.map fun (w : Written) =>
      if w.path == path then { w with isClosed := true } else w
    feeds := s.feeds.filter fun f => f.1 != path }
  return isWritten || s.feeds.any fun f => f.1 == path

end Records
end Rehearsal
end Parley
