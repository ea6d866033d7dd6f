import Parley.Rehearsal.Tool.Copying
import Parley.Rehearsal.Tool.Editing.Run

/-!
# Parley.Rehearsal.Tool.Editing

The editor of streams as a tool.

* `Editing.sed`: the tool.
-/

namespace Parley
namespace Rehearsal
namespace Editing

open Call

def sedKnown : Known :=
  known "bsnrzuEe:f:l:i::V:"
    [("binary", .bare, "b"), ("debug", .bare, "debug"), ("expression", .valued, "e"),
      ("file", .valued, "f"), ("follow-symlinks", .bare, "links"), ("in-place", .maybe, "i"),
      ("line-length", .valued, "l"), ("null-data", .bare, "z"), ("quiet", .bare, "n"),
      ("posix", .bare, "posix"), ("regexp-extended", .bare, "E"), ("sandbox", .bare, "sandbox"),
      ("separate", .bare, "s"), ("silent", .bare, "n"), ("unbuffered", .bare, "u"),
      ("zero-terminated", .bare, "z")]

/-- A piece of a script: as a word by its number, or from a file. -/
structure ScriptPart where
  text : Bytes
  file : Option Bytes := none

/-- The pieces of a script; the fault is about a file that cannot be read. -/
def partsOf (c : Call) (p : Parsed) : Except String (List ScriptPart × List Bytes) := do
  let parts ← (p.given.filter fun g => g.1 == "e" || g.1 == "f").mapM fun g =>
    if g.1 == "e" then .ok { text := g.2 }
    else
      match c.sourceOf g.2 with
      | .bytes bs => .ok { text := if bs.getLast? == some 10 then bs.dropLast else bs, file := g.2 }
      | .failed e => .error ("couldn't open file " ++ wordOf g.2 ++ ": " ++ e.reason)
      | _ => .ok { text := [], file := some g.2 }
  if !parts.isEmpty then return (parts, p.operands)
  match p.operands with
  | w :: rest => return ([{ text := w }], rest)
  | [] => return ([], [])

/-- Where in a script a fault is, by what is left behind it. -/
def placeOf (parts : List ScriptPart) (left : Option Nat) : String :=
  let size := (parts.map fun p => p.text.length + 1).foldl (· + ·) 0 - 1
  let spot := size - left.getD 0
  let rec go (number offset : Nat) : List ScriptPart → String
    | [] => "-e expression #1, char 0"
    | p :: rest =>
      let here := spot - offset
      if here ≤ p.text.length || rest.isEmpty then
        match p.file with
        | some name =>
          let line := ((p.text.take here).dropLast).count 10 + 1
          "file " ++ wordOf name ++ " line " ++ toString line
        | none =>
          "-e expression #" ++ toString number ++ ", char " ++
            toString (if left.isSome then here else 0)
      else go (if p.file.isSome then number else number + 1) (offset + p.text.length + 1) rest
  go 1 0 parts

/-- The files that commands read. -/
def filesRead (c : Call) (commands : Array Command) : List (Bytes × Bytes) :=
  commands.toList.filterMap fun k =>
    let read (path : Bytes) : Option (Bytes × Bytes) :=
      match c.source path with
      | .bytes bs => some (path, bs)
      | _ => none
    match k.action with
    | .readFile path => read path
    | .readLine path => read path
    | _ => none

/-- The lines of texts one after another. -/
def linesOfTexts (ending : UInt8) (texts : List Text) : List Line :=
  texts.flatMap fun t =>
    let pieces := (t.content.toOption.getD []).foldr (fun b (acc : List Bytes) =>
      if b == ending then [] :: acc
      else
        match acc with
        | p :: rest => (b :: p) :: rest
        | [] => [[b]]) [[]]
    let whole := pieces.dropLast.map fun l => { text := l, name := t.name : Line }
    match pieces.getLast? with
    | some (b :: bs) => whole ++ [{ text := b :: bs, ended := false, name := t.name }]
    | _ => whole

/-- What has been written to each file. -/
def filesWritten (written : List (Bytes × Bytes)) : List (Bytes × Bytes) :=
  let names := (written.map (·.1)).eraseDups
  names.map fun n => (n, ((written.filter fun w => w.1 == n).map (·.2)).reverse.flatten)

/-- A disk on which a file has a text. -/
def putText (c : Call) (d : Disk) (path bs : Bytes) : Disk :=
  d.writeText c.directory c.mask (wordOf path) false bs

/-- The code of an editor that could not read some texts: a directory counts for more than what is
not there. -/
def failureCode (texts : List Text) : Nat :=
  let isDirectory (t : Text) : Bool :=
    match t.content with
    | .error e => e == .isDirectory
    | .ok _ => false
  let isMissing (t : Text) : Bool :=
    match t.content with
    | .error _ => true
    | .ok _ => false
  if texts.any isDirectory then 4 else if texts.any isMissing then 2 else 0

/-- What comes of some lines; `hurries` says that no output waits for more. -/
def outcomeOf (c : Call) (hurries : Bool) (errors : Bytes) (failure : Nat) (r : Result)
    (s : State) : Outcome :=
  match r with
  | .waiting =>
    let output := s.output
    { output, flushed := if hurries then output.length else 0, errors, code := none }
  | .ended code =>
    { output := s.output, errors
      files := (filesWritten s.written).map fun w => (w.1, false, w.2)
      code := some (if code == 0 then failure else code) }
  | .failed text =>
    { output := s.output, errors := errors ++ bytesOf (c.complaint ("-e expression #1, char 0: " ++
        text)), code := some 1 }

/-- Complaints about texts that cannot be read. -/
def unread (c : Call) (texts : List Text) : Bytes :=
  texts.flatMap fun t =>
    match t.content with
    | .ok _ => []
    | .error .isDirectory =>
      bytesOf (c.complaint ("read error on " ++ wordOf t.name ++ ": Is a directory"))
    | .error e => bytesOf (c.complaint ("can't read " ++ wordOf t.name ++ ": " ++ e.reason))

/-- Changes files where they are. -/
def inPlace (c : Call) (k : Settings) (texts : List Text) : Launch :=
  let start : Disk × Bytes × Bytes := (c.disk, [], [])
  let (disk, output, errors) := texts.foldl (fun (disk, output, errors) t =>
    match t.content with
    | .error .isDirectory =>
      (disk, output, errors ++
        bytesOf (c.complaint ("couldn't edit " ++ wordOf t.name ++ ": not a regular file")))
    | .error e =>
      (disk, output, errors ++
        bytesOf (c.complaint ("can't read " ++ wordOf t.name ++ ": " ++ e.reason)))
    | .ok _ =>
      let (_, s) := run { k with ended := true } (linesOfTexts k.ending [t])
      let disk := (filesWritten s.written).foldl (fun d w => putText c d w.1 w.2) disk
      (putText c disk t.name s.output, output, errors)) start
  .change disk { output, errors, code := some (failureCode texts) }

/-- Runs an editor over texts. -/
def edit (c : Call) (p : Parsed) (k : Settings) (words : List Bytes) : Launch :=
  let sources := c.sources words
  let separately (texts : List Text) : Result × State :=
    if p.has "s" then
      texts.foldl (fun (acc : Result × State) t =>
        let (r, s) := run { k with ended := true } (linesOfTexts k.ending [t])
        (r, { s with
          pieces := s.pieces ++ acc.2.pieces, written := s.written ++ acc.2.written }))
        (.ended 0, { rest := [] })
    else run { k with ended := true } (linesOfTexts k.ending texts)
  if p.has "i" then
    if words.isEmpty then .failure (c.called ++ ": no input files\n") 4
    else inPlace c k (textsOf sources [])
  else if readsInput sources then
    .filter fun bs ended =>
      let texts := textsOf sources bs
      if ended then
        let (r, s) := separately texts
        outcomeOf c (p.has "u") (unread c texts) (failureCode texts) r s
      else
        let whole := bs.take (bs.length - (bs.reverse.takeWhile (· != k.ending)).length)
        let front := texts.takeWhile fun t => t.name != [45]
        let known := front ++ [{ name := [45], content := .ok whole }]
        let (r, s) := run { k with ended := false } (linesOfTexts k.ending known)
        outcomeOf c (p.has "u") (unread c front) (failureCode front) r s
  else
    let texts := textsOf sources []
    let (r, s) := separately texts
    let written := filesWritten s.written
    let o := outcomeOf c (p.has "u") (unread c texts) (failureCode texts) r s
    if written.isEmpty then .outcome o
    else .change (written.foldl (fun d w => putText c d w.1 w.2) c.disk) o

/-- The first line on how the tool is used. -/
def usage (c : Call) : String :=
  "Usage: " ++ c.called ++ " [OPTION]... \x7bscript-only-if-no-other-script\x7d [input-file]...\n"

def sed (c : Call) : Launch :=
  match parse sedKnown c.arguments with
  | .error r => .failure (c.complaint r.text ++ usage c) 1
  | .ok p =>
    match partsOf c p with
    | .error text => c.fail text 1
    | .ok ([], _) => .failure (usage c) 1
    | .ok (parts, words) =>
      let script := joinWith [10] (parts.map (·.text))
      let silenced := script.take 3 == [35, 110, 10] || script == [35, 110]
      match readScript (p.has "E" || p.has "r") script with
      | .error f => c.fail (placeOf parts f.left ++ ": " ++ f.text) 1
      | .ok commands =>
        match missingLabel? commands with
        | some name => c.fail ("can't find label for jump to \x60" ++ wordOf name ++ "'") 4
        | none =>
          let width := (((p.value? "l").map wordOf).bind String.toNat?).getD 70
          edit c p
            { commands, quiet := p.has "n" || silenced, ended := true, width
              ending := if p.has "z" then 0 else 10, files := filesRead c commands } words

end Editing
end Rehearsal
end Parley
