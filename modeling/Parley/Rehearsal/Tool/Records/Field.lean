import Parley.Rehearsal.Tool.Records.State

/-!
# Parley.Rehearsal.Tool.Records.Field

How texts come apart: a text into records, and a record into fields.

* `Records.split`: what stands between separators.
* `Records.takeRecord`: the first record of a text.
* `Records.nextRecord?`: the next record of all texts.
-/

namespace Parley
namespace Rehearsal
namespace Records

/-! ## Fields -/

/-- What stands between the places at which an expression is found. -/
def pieces (e : Expression) (s : Expression.Subject) : Nat → Nat → List Bytes
  | 0, i => [s.slice i s.bytes.size]
  | fuel + 1, i =>
    match e.findWhere? s (fun a b => a < b) i with
    | none => [s.slice i s.bytes.size]
    | some f => s.slice i f.start :: pieces e s fuel f.stop

/-- The words of a text. -/
def wordsOf (bs : Bytes) : List Bytes :=
  let (last, ws) := bs.foldr (fun b (word, ws) =>
    if isSpace b || b == 10 then ([], if word.isEmpty then ws else word :: ws)
    else (b :: word, ws)) ([], [])
  if last.isEmpty then ws else last :: ws

/-- What stands between bytes of one kind. -/
def splitAt (edge : UInt8) (bs : Bytes) : List Bytes :=
  let (last, ps) := bs.foldr (fun b (piece, ps) =>
    if b == edge then ([], piece :: ps) else (b :: piece, ps)) (([] : Bytes), ([] : List Bytes))
  last :: ps

/-- Splits a text at a separator: a blank stands for all blanks, another byte for itself, and more
for a regular expression. -/
def split (separator : Bytes) (bs : Bytes) : Exec (List Bytes) := do
  if bs.isEmpty then return []
  match separator with
  | [32] => return wordsOf bs
  | [] => return bs.map fun b => [b]
  | [b] => return splitAt b bs
  | pattern => return pieces (← expressionOf pattern) (.ofBytes bs false) (bs.length + 1) 0

/-- Makes a record of a value. -/
def setRecord (v : Value) (bs : Bytes) : Exec Unit := do
  let s ← get
  let fields ← split (s.specialBytes "FS") bs
  modify fun s => { s with record := v, fields := (fields.map Value.ofOuter).toArray }

/-! ## Records -/

/-- What comes of an attempt to take a record from a text. -/
inductive Taken
  | record (bs rest : Bytes)
  | atEnd
  | needsMore

/-- Takes a record; `isAll` says that nothing comes behind the text. -/
def takeRecord (separator : Bytes) (isAll : Bool) (bs : Bytes) : Exec Taken := do
  let last (bs : Bytes) : Taken :=
    if !isAll then .needsMore else if bs.isEmpty then .atEnd else .record bs []
  match separator with
  | [b] =>
    let front := bs.takeWhile (· != b)
    match bs.drop front.length with
    | [] => return last bs
    | _ :: rest => return .record front rest
  | [] =>
    let bs := bs.dropWhile (· == 10)
    let e := Expression.both (.byte false [(10, 10)]) (.byte false [(10, 10)])
    let s := Expression.Subject.ofBytes bs false
    match e.find? s 0 with
    | some f => return .record (s.slice 0 f.start) (bs.drop f.stop)
    | none => return last (if isAll && bs.getLast? == some 10 then bs.dropLast else bs)
  | pattern =>
    let e ← expressionOf pattern
    let s := Expression.Subject.ofBytes bs false
    match e.findWhere? s (fun a b => a < b) 0 with
    | some f =>
      if f.stop == bs.length && !isAll then return .needsMore
      return .record (s.slice 0 f.start) (bs.drop f.stop)
    | none => return last bs

/-- Takes a record from a text, and what is left of the text. -/
def takeFrom (k : Settings) (f : Feed) : Exec (Option Bytes × Feed) := do
  let s ← get
  let separator := s.specialBytes "RS"
  match f with
  | .input =>
    match ← takeRecord separator k.ended s.input with
    | .record bs rest =>
      modify fun s => { s with input := rest }
      return (some bs, f)
    | .atEnd => return (none, f)
    | .needsMore => throw .needsInput
  | .text bs =>
    match ← takeRecord separator true bs with
    | .record bs rest => return (some bs, .text rest)
    | _ => return (none, f)

/-- The text of a file, or why there is none. -/
def feedOf (k : Settings) (path : Bytes) : Exec (Except SystemError Feed) := do
  match (← get).written.find? fun w => w.path == path with
  | some w => return .ok (.text w.pieces.reverse.flatten)
  | none =>
    if path == [45] || path == bytesOf "/dev/stdin" then return .ok .input
    match k.source path with
    | .input => return .ok .input
    | .bytes bs => return .ok (.text bs)
    | .zeros => return .ok (.text [])
    | .failed e => return .error e
    | .directory => return .error .isDirectory

/-- A word that gives a value to a variable. -/
def assignment? (word : Bytes) : Option (String × Bytes) :=
  let cs := letters word
  let name := cs.takeWhile fun c => c.isAlphanum || c == '_'
  match cs.drop name.length with
  | '=' :: value =>
    if name.head?.any fun c => !c.isDigit then some (String.ofList name, ofLetters value) else none
  | _ => none

/-- Gives a value to a variable of the script. -/
def assignShared (name : String) (v : Value) : Exec Unit :=
  modify fun s => s.setSlot (.shared name) (.value v)

/-- Begins the next text among the arguments; the answer is whether there is one. -/
def nextText (k : Settings) (unescape : Bytes → Bytes) : Nat → Exec Bool
  | 0 => return false
  | fuel + 1 => do
    let s ← get
    let count := (s.special "ARGC").amount.toInt.toNat
    if count ≤ s.argument then
      if s.hasText then return false
      set { s with hasText := true, feed := some .input }
      assignShared "FILENAME" (.text [45])
      return true
    set { s with argument := s.argument + 1 }
    let store ← storeOf (← storeNamed (.shared "ARGV"))
    let word := match store.find? (.whole s.argument) with
      | some (v, _) => v.bytes fun _ => []
      | none => []
    if word.isEmpty then nextText k unescape fuel
    else
      match assignment? word with
      | some (name, value) =>
        assignShared name (.ofOuter (unescape value))
        nextText k unescape fuel
      | none =>
        match ← feedOf k word with
        | .error .isDirectory => throw (.failed "read error (Is a directory)")
        | .error e => throw (.failed ("cannot open \"" ++ wordOf word ++ "\" (" ++ e.reason ++ ")"))
        | .ok f =>
          assignShared "FILENAME" (.text word)
          assignShared "FNR" (.ofNat 0)
          modify fun s => { s with hasText := true, feed := some f }
          return true

/-- Takes the next record of the texts, and counts it. -/
def nextRecord? (k : Settings) (unescape : Bytes → Bytes) : Nat → Exec (Option Bytes)
  | 0 => return none
  | fuel + 1 => do
    let s ← get
    match s.feed with
    | none => if ← nextText k unescape 1000000 then nextRecord? k unescape fuel else return none
    | some f =>
      match ← takeFrom k f with
      | (none, _) =>
        modify fun s => { s with feed := none }
        nextRecord? k unescape fuel
      | (some bs, f) =>
        let count (name : String) : Exec Unit := do
          assignShared name (.number (((← get).special name).amount.add (.ofInt 1)))
        modify fun s => { s with feed := some f }
        count "NR"
        count "FNR"
        return some bs

end Records
end Rehearsal
end Parley
