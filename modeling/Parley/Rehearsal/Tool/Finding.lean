import Parley.Rehearsal.Expression.Reader
import Parley.Rehearsal.Tool.Amount
import Parley.Rehearsal.Tool.Lines

/-!
# Parley.Rehearsal.Tool.Finding

Lines in which patterns are found.

* `Finding.Plan`: what is looked for, and what is shown of it.
* `Finding.grep`: the tool.
-/

namespace Parley
namespace Rehearsal
namespace Finding

open Call

/-- What is shown of a text. -/
inductive Answer
  | lines
  | count
  | names
  | otherNames
  | nothing
deriving DecidableEq, Repr

structure Plan where
  /-- What is looked for; none is found nowhere. -/
  wanted : Option Expression
  ignoresCase : Bool := false
  wholeWords : Bool := false
  wholeLines : Bool := false
  /-- Whether the lines are wanted in which nothing is found. -/
  opposite : Bool := false
  answer : Answer := .lines
  onlyMatched : Bool := false
  numbers : Bool := false
  offsets : Bool := false
  named : Bool := false
  tabs : Bool := false
  /-- What ends a name. -/
  zeroNames : Bool := false
  /-- What ends a line. -/
  ending : UInt8 := 10
  before : Option Nat := none
  after : Option Nat := none
  most : Option Nat := none
  asText : Bool := false
  silent : Bool := false

/-! ## Lines -/

/-- A line with its number, its place and whether it is wanted. -/
structure Row where
  text : Bytes
  number : Nat
  offset : Nat
  wanted : Bool

def test (p : Plan) (s : Expression.Subject) (i stop : Nat) : Bool :=
  (!p.wholeLines || (i == 0 && stop == s.bytes.size)) &&
    (!p.wholeWords || (!s.isWordBefore i && !s.isWordAt stop))

def isFound (p : Plan) (line : Bytes) : Bool :=
  match p.wanted with
  | none => false
  | some e =>
    let s := Expression.Subject.ofBytes line p.ignoresCase
    (e.findWhere? s (test p s) 0).isSome

/-- The places in a line at which something is found. -/
def placesFrom (p : Plan) (e : Expression) (s : Expression.Subject) :
    Nat → Nat → List (Nat × Nat)
  | 0, _ => []
  | fuel + 1, i =>
    match e.findWhere? s (test p s) i with
    | none => []
    | some f =>
      if f.stop == f.start then placesFrom p e s fuel (f.start + 1)
      else (f.start, f.stop) :: placesFrom p e s fuel f.stop

/-- The rows of some lines, up to the last one that counts, and whether that has been reached. -/
def rowsFrom (p : Plan) (number offset found : Nat) : List Bytes → List Row × Nat
  | [] => ([], found)
  | line :: rest =>
    let wanted := p.most.all (fun n => decide (found < n)) && isFound p line != p.opposite
    let (rows, total) :=
      rowsFrom p (number + 1) (offset + line.length + 1) (if wanted then found + 1 else found) rest
    ({ text := line, number, offset, wanted } :: rows, total)

/-- The rows that are shown: those that are wanted, and their neighbours. -/
def shownFrom (before after : Nat) (left : Nat) (pending : List Row) : List Row → List Row
  | [] => []
  | r :: rest =>
    if r.wanted then pending.reverse ++ r :: shownFrom before after after [] rest
    else if 0 < left then r :: shownFrom before after (left - 1) [] rest
    else shownFrom before after 0 ((r :: pending).take before) rest

/-- The lines of a text up to where `ending` stands. -/
def linesAt (ending : UInt8) (ended : Bool) (bs : Bytes) : List Bytes :=
  let pieces := Lines.fieldsAt ending bs
  let last := pieces.getLast?.getD []
  if ended && !last.isEmpty then pieces else pieces.dropLast

/-! ## Output -/

/-- What stands in front of a line. -/
def lead (p : Plan) (name : Bytes) (r : Row) (offset : Nat) : Bytes :=
  let mark : UInt8 := if r.wanted then 58 else 45
  (if p.named then name ++ [if p.zeroNames then 0 else mark] else []) ++
    (if p.numbers then digitsOf r.number ++ [mark] else []) ++
    (if p.offsets then digitsOf offset ++ [mark] else []) ++
    if p.tabs && (p.named || p.numbers || p.offsets) then [9] else []

def showRow (p : Plan) (name : Bytes) (r : Row) : Bytes :=
  match p.onlyMatched, p.wanted with
  | true, some e =>
    if !r.wanted || p.opposite then []
    else
      let s := Expression.Subject.ofBytes r.text p.ignoresCase
      (placesFrom p e s (r.text.length + 2) 0).flatMap fun (i, j) =>
        lead p name r (r.offset + i) ++ s.slice i j ++ [p.ending]
  | true, none => []
  | false, _ => lead p name r r.offset ++ r.text ++ [p.ending]

/-- Rows with marks between groups that do not belong together. -/
def showRows (p : Plan) (name : Bytes) (used : Bool) (last : Option Nat) : List Row → Bytes
  | [] => []
  | r :: rest =>
    let grouped := p.before.isSome || p.after.isSome
    let gap := used && last != some (r.number - 1)
    let mark : Bytes := if grouped && gap && !p.onlyMatched then [45, 45, 10] else []
    mark ++ showRow p name r ++ showRows p name true (some r.number) rest

/-- What has come of the texts so far. -/
structure Tally where
  output : Bytes := []
  /-- Output and complaints that come before that. -/
  done : List Supply := []
  found : Bool := false
  failed : Bool := false
  /-- Whether lines have been shown. -/
  used : Bool := false
  /-- Whether nothing more is looked for. -/
  isOver : Bool := false

def shownName (label : Bytes) (name : Bytes) : Bytes := if name == [45] then label else name

/-- What one text comes to; `isLast` says that no text follows, so that the search is over once the
answer is known. -/
def search (p : Plan) (label : Bytes) (ended isLast : Bool) (t : Tally) (name content : Bytes) :
    Tally :=
  let binary := !p.asText && p.ending == 10 && content.contains 0
  let content := if binary then content.map fun b => if b == 0 then 10 else b else content
  let (rows, found) := rowsFrom p 1 0 0 (linesAt p.ending ended content)
  let name := shownName label name
  let nameEnd : Bytes := [if p.zeroNames then 0 else 10]
  let full := p.most.any fun n => decide (n ≤ found)
  let t' := { t with found := t.found || 0 < found }
  match p.answer with
  | .nothing => { t' with isOver := 0 < found }
  | .names => { t' with
      output := t.output ++ if 0 < found then name ++ nameEnd else [], isOver := isLast && 0 < found }
  | .otherNames =>
    let absent := found == 0
    { t' with
      output := t.output ++ if absent && ended then name ++ nameEnd else []
      isOver := isLast && !absent }
  | .count =>
    let lead := if p.named then name ++ [if p.zeroNames then 0 else 58] else []
    { t' with
      output := t.output ++ if ended || full then lead ++ digitsOf found ++ [10] else []
      isOver := isLast && full }
  | .lines =>
    if binary then
      let text := bytesOf "grep: " ++ name ++ bytesOf ": binary file matches\n"
      { t' with
        output := t.output ++ if 0 < found then text else [], isOver := isLast && 0 < found }
    else
      let shown := shownFrom (p.before.getD 0) (p.after.getD 0) 0 [] rows
      { t' with
        output := t.output ++ showRows p name t.used none shown
        used := t.used || !shown.isEmpty, isOver := isLast && full && p.after.isNone }

/-! ## The tool -/

def letterOptions : String :=
  "0123456789A:B:C:D:EFGHILPTUVX:abcd:e:f:hilm:noqRrsuvwxyZz"

def grepKnown : Known :=
  known letterOptions
    [("after-context", .valued, "A"), ("basic-regexp", .bare, "G"),
      ("before-context", .valued, "B"), ("binary", .bare, "U"), ("binary-files", .valued, "binary"),
      ("byte-offset", .bare, "b"), ("context", .valued, "C"), ("color", .maybe, "color"),
      ("colour", .maybe, "color"), ("count", .bare, "c"), ("dereference-recursive", .bare, "R"),
      ("devices", .valued, "D"), ("directories", .valued, "d"), ("exclude", .valued, "exclude"),
      ("exclude-dir", .valued, "exclude"), ("exclude-from", .valued, "exclude"),
      ("extended-regexp", .bare, "E"), ("file", .valued, "f"),
      ("files-with-matches", .bare, "l"), ("files-without-match", .bare, "L"),
      ("fixed-regexp", .bare, "F"), ("fixed-strings", .bare, "F"),
      ("group-separator", .valued, "separator"),
      ("ignore-case", .bare, "i"), ("include", .valued, "include"),
      ("initial-tab", .bare, "T"), ("invert-match", .bare, "v"), ("label", .valued, "label"),
      ("line-buffered", .bare, "buffered"), ("line-number", .bare, "n"),
      ("line-regexp", .bare, "x"), ("max-count", .valued, "m"),
      ("no-filename", .bare, "h"), ("no-group-separator", .bare, "unseparated"),
      ("no-ignore-case", .bare, "cased"), ("no-messages", .bare, "s"), ("null", .bare, "Z"),
      ("null-data", .bare, "z"), ("only-matching", .bare, "o"), ("perl-regexp", .bare, "P"),
      ("quiet", .bare, "q"), ("recursive", .bare, "r"), ("regexp", .valued, "e"),
      ("silent", .bare, "q"), ("text", .bare, "a"), ("unix-byte-offsets", .bare, "u"),
      ("with-filename", .bare, "H"), ("word-regexp", .bare, "w")]
    [("d", [["read"], ["recurse"], ["skip"]])]

def usage (c : Call) : String :=
  "Usage: " ++ c.shortName ++ " [OPTION]... PATTERNS [FILE]...\n" ++ c.shortHint

/-- The dialect in which patterns are written; none if they stand for themselves. -/
def dialect? (p : Parsed) : Option Expression.Dialect :=
  match p.last? ["E", "F", "G", "P"] with
  | some "F" => none
  | some "E" => some { extended := true, needsOpening := false }
  | some "P" => some { extended := true }
  | _ => some { extended := false }

/-- One expression for several patterns. -/
def combined (d : Option Expression.Dialect) :
    List Bytes → Except Expression.Fault (Option Expression)
  | [] => .ok none
  | w :: rest => do
    let e ← match d with
      | some d => Expression.read? d w
      | none => pure (Expression.ofText w)
    match ← combined d rest with
    | none => return some e
    | some f => return some (.either e f)

/-- The patterns in a file, one to a line. -/
def patternsIn (c : Call) (w : Bytes) : Except String (List Bytes) :=
  match c.sourceOf w with
  | .bytes bs => .ok (Lines.wholeLines true bs)
  | .failed e => .error (wordOf w ++ ": " ++ e.reason)
  | .directory => .error (wordOf w ++ ": Is a directory")
  | _ => .ok []

/-- A count of lines; one that is missing is below zero. -/
def countOf? (w : Bytes) : Option Int := (wordOf w).toInt?

/-- What is wrong with the value of an option. -/
def fault? (g : Given) : Option String :=
  match g.1 with
  | "A" | "B" | "C" =>
    if ((countOf? g.2).filter (0 ≤ ·)).isSome then none
    else some (wordOf g.2 ++ ": invalid context length argument")
  | "m" => if (countOf? g.2).isSome then none else some "invalid max count"
  | "binary" =>
    if ["binary", "text", "without-match"].contains (wordOf g.2) then none
    else some "unknown binary-files type"
  | "D" =>
    if ["read", "skip"].contains (wordOf g.2) then none else some "unknown devices method"
  | "X" =>
    if ["grep", "egrep", "fgrep", "awk", "gawk", "posixawk", "perl"].contains (wordOf g.2) then none
    else some ("invalid matcher " ++ wordOf g.2)
  | _ => none

/-- What is wrong with some options. -/
def faultIn? (p : Parsed) : Option String :=
  let dialects := (p.given.filter fun g => ["E", "F", "G", "P"].contains g.1).map (·.1)
  match p.given.findSome? fault? with
  | some text => some text
  | none => if 1 < dialects.eraseDups.length then some "conflicting matchers specified" else none

/-- How many neighbours of a line are shown. -/
def contextOf (p : Parsed) (key : String) : Option Nat :=
  let digits := (p.given.map (·.1)).filter fun k => k.toList.all Char.isDigit && k != ""
  match p.value? key, p.value? "C" with
  | some w, _ => (countOf? w).map Int.toNat
  | none, some w => (countOf? w).map Int.toNat
  | none, none =>
    if digits.isEmpty then none else some (Number.digitsValue (String.join digits).toList)

/-- The patterns that are looked for, and the other words. -/
def patternsOf (c : Call) (p : Parsed) : Except String (Option (List Bytes) × List Bytes) := do
  let listed ← (p.given.filter fun g => g.1 == "e" || g.1 == "f").mapM fun g =>
    if g.1 == "e" then .ok (Lines.fieldsAt 10 g.2) else patternsIn c g.2
  let isGiven := p.has "e" || p.has "f"
  match isGiven, p.operands with
  | true, ws => return (some listed.flatten, ws)
  | false, w :: ws => return (some (Lines.fieldsAt 10 w), ws)
  | false, [] => return (none, [])

/-- What is looked for by some options. -/
def planOf (p : Parsed) (patterns words : List Bytes) : Except String Plan := do
  let most := ((p.value? "m").bind countOf?).bind fun i => if i < 0 then none else some i.toNat
  let wanted ← match combined (dialect? p) patterns with
    | .ok e => pure e
    | .error f => throw f.text
  let answer : Answer :=
    if p.has "q" then .nothing
    else
      match p.last? ["l", "L"] with
      | some "l" => .names
      | some _ => .otherNames
      | none => if p.has "c" then .count else .lines
  let named := match p.last? ["H", "h"] with
    | some "H" => true
    | some _ => false
    | none => 1 < words.length
  return { wanted, ignoresCase := (p.last? ["i", "y", "cased"]).any (· != "cased")
           wholeWords := p.has "w", wholeLines := p.has "x", opposite := p.has "v", answer
           onlyMatched := p.has "o", numbers := p.has "n", offsets := p.has "b", named
           tabs := p.has "T", zeroNames := p.has "Z", ending := if p.has "z" then 0 else 10
           before := contextOf p "B", after := contextOf p "A", most, silent := p.has "s"
           asText := p.has "a" || p.value? "binary" == some (bytesOf "text") }

def grep (c : Call) : Launch :=
  match parse grepKnown c.arguments with
  | .error r => .failure (c.complaint r.text ++ usage c) (if r.byValue then 1 else 2)
  | .ok p =>
    match faultIn? p, patternsOf c p with
    | some text, _ => c.fail text 2
    | none, .error text => c.fail text 2
    | none, .ok (none, _) => .failure (usage c) 2
    | none, .ok (some patterns, words) =>
      match planOf p patterns words with
      | .error text => c.fail text 2
      | .ok plan =>
        let label := (p.value? "label").getD (bytesOf "(standard input)")
        let count := max words.length 1
        if plan.most == some 0 && plan.answer == .lines then .tool (.print [] [] 1) []
        else
          c.overTexts words fun texts ended =>
            let t := (texts.zipIdx 1).foldl (fun (t : Tally) (text, i) =>
              if t.isOver then t
              else
                match text.content with
                | .ok bs =>
                  search plan label (ended || text.name != [45]) (i == count) t text.name bs
                | .error e =>
                  let complaint := c.complaint (wordOf text.name ++ ": " ++ e.reason)
                  let said := if plan.silent then [] else bytesOf complaint
                  { t with
                    output := [], failed := true
                    done := t.done ++ Supply.bytes t.output :: Supply.said said }) {}
            let status := if t.failed && !(plan.answer == .nothing && t.found) then 2
              else if t.found then 0 else 1
            let isOver := ended || t.isOver
            if t.done.isEmpty then
              { output := t.output, flushed := if p.has "buffered" then t.output.length else 0
                code := if isOver then some status else none }
            else if isOver then { rest := t.done ++ [.bytes t.output], code := some status }
            else .waiting []

/-- The same tool with one of its options. -/
def grepWith (option : String) (c : Call) : Launch :=
  grep { c with called := "grep", arguments := bytesOf option :: c.arguments }

end Finding
end Rehearsal
end Parley
