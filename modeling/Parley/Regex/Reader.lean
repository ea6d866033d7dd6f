import Parley.Regex.Bracket
import Parley.Regex.Size
import Parley.Unicode.Latest

/-!
# Parley.Regex.Reader

Reads a regular expression. The reader goes through the text once, with the open groups on a stack.

* `read`: the tree of an expression.

Groups may be numbered or named, flags (`i m s R U u x`) hold to the end of their group, and there
is neither looking around nor referring back.
-/

namespace Parley
namespace Regex

open Unicode (CodeSet)

/-! ## Groups and repetitions -/

/-- How deep an expression may nest. -/
def maxDepth : Nat := 250

/-- A part of an expression and how deep it nests. -/
structure Part where
  node : Node
  depth : Nat := 0
  /-- Flags and the empty text cannot be repeated. -/
  repeatable : Bool := true

/-- Parts one after the other, given in reverse. -/
def joinParts (parts : List Part) : Part :=
  match parts with
  | [p] => p
  | _ =>
    { node := Node.concat (parts.reverse.map (·.node))
      depth := if parts.isEmpty then 0 else parts.foldl (fun d p => max d p.depth) 0 + 1 }

/-- Alternatives, given in reverse. -/
def joinBranches (branches : List Part) : Part :=
  match branches with
  | [p] => p
  | _ =>
    { node := Node.choice (branches.reverse.map (·.node))
      depth := branches.foldl (fun d p => max d p.depth) 0 + 1 }

/-- A group that is open, with what was read before it. -/
structure Group where
  parts : List Part
  branches : List Part
  flags : Flags
  /-- The number under which the text of the group is kept. -/
  index : Option Nat

structure State where
  rest : List Char
  flags : Flags := {}
  /-- What has been read of the current alternative, the last part first. -/
  parts : List Part := []
  /-- The alternatives before the current one, the last one first. -/
  branches : List Part := []
  groups : List Group := []
  captures : Nat := 0
  names : List String := []

namespace State

def push (s : State) (node : Node) (rest : List Char) (depth : Nat := 0) : State :=
  { s with parts := { node, depth } :: s.parts, rest }

/-- The alternatives of the innermost group, with the current one. -/
def body (s : State) : Part := joinBranches (joinParts s.parts :: s.branches)

end State

/-- The characters that a literal stands for. -/
def literal (f : Flags) (c : Char) : Node :=
  .oneOf (foldSet f (CodeSet.single c.toNat))

/-- What a dot matches. -/
def dot (f : Flags) : Except Fault Node :=
  if !f.unicode then .error .notText
  else if f.dotMatchesAll then .ok (.oneOf anyChar)
  else if f.crlf then .ok (.oneOf (anyChar.diff (CodeSet.ofText "A D")))
  else .ok (.oneOf (anyChar.diff (CodeSet.single 10)))

def startAnchor (f : Flags) : Look :=
  if !f.multiLine then .textStart else if f.crlf then .lineStartCrlf else .lineStart

def endAnchor (f : Flags) : Look :=
  if !f.multiLine then .textEnd else if f.crlf then .lineEndCrlf else .lineEnd

/-- Repeats the last part. -/
def repeatLast (s : State) (least : Nat) (most : Option Nat) (greedy : Bool) (rest : List Char) :
    Except Fault State :=
  match s.parts with
  | [] => .error .repetitionMissing
  | p :: parts =>
    if !p.repeatable then .error .repetitionMissing
    else
      let node := Node.repeated least most (greedy != s.flags.swapGreed) p.node
      .ok { s with parts := { node, depth := p.depth + 1 } :: parts, rest }

/-- A question mark behind a repetition makes it prefer less. -/
def readGreed : List Char → Bool × List Char
  | '?' :: rest => (false, rest)
  | rest => (true, rest)

/-- A decimal count with blanks around it and, where they are ignored, between its digits; nothing
if there is no digit. -/
def readCount (f : Flags) (cs : List Char) : Except Fault (Option Nat × List Char) :=
  digits (cs.length + 1) none (cs.dropWhile isBlank)
where
  digits : Nat → Option Nat → List Char → Except Fault (Option Nat × List Char)
    | 0, _, _ => .error .repetitionCount
    | steps + 1, n, cs =>
      match cs with
      | [] => .ok (n, [])
      | c :: rest =>
        if c.isDigit then
          let n := n.getD 0 * 10 + (c.toNat - 48)
          if n < Nat.pow 2 32 then digits steps (some n) (dropBlank f rest)
          else .error .repetitionCount
        else .ok (n, blanks steps cs)
  blanks : Nat → List Char → List Char
    | 0, cs => cs
    | steps + 1, cs =>
      match cs with
      | c :: rest => if isBlank c then blanks steps (dropBlank f rest) else cs
      | [] => []

/-- A repetition with counts, after its brace. -/
def readCounted (s : State) (cs : List Char) : Except Fault State := do
  if !(s.parts.head?.any (·.repeatable)) then throw .repetitionMissing
  let f := s.flags
  let (least, rest) ← readCount f (dropBlank f cs)
  let some least := least | throw .repetitionCount
  let (most, rest) ← match rest with
    | ',' :: rest =>
      match dropBlank f rest with
      | '\x7d' :: rest => pure (none, '\x7d' :: rest)
      | rest =>
        let (most, rest) ← readCount f rest
        let some most := most | throw .repetitionCount
        pure (some most, rest)
    | rest => pure (some least, rest)
  match rest with
  | '\x7d' :: rest =>
    let (greedy, rest) := match dropBlank f rest with
      | '?' :: rest => (false, rest)
      | rest => (true, rest)
    if most.any (· < least) then throw .repetitionCount
    repeatLast s least most greedy rest
  | _ => throw .repetitionCount

/-- Sets one flag. -/
def setFlag? (f : Flags) (on : Bool) : Char → Option Flags
  | 'i' => some { f with ignoreCase := on }
  | 'm' => some { f with multiLine := on }
  | 's' => some { f with dotMatchesAll := on }
  | 'U' => some { f with swapGreed := on }
  | 'u' => some { f with unicode := on }
  | 'R' => some { f with crlf := on }
  | 'x' => some { f with ignoreBlank := on }
  | _ => none

/-- Reads flags up to the colon or the parenthesis that ends them. No flag stands twice, and a dash
stands once and not last. -/
def readFlags (f : Flags) (seen : List Char) : List Char →
    Except Fault (Flags × Bool × Char × List Char)
  | [] => .error .flag
  | c :: rest =>
    if c == ':' || c == ')' then
      if seen.head? == some '-' then .error .flag else .ok (f, seen.isEmpty, c, rest)
    else if seen.contains c then .error .flag
    else if c == '-' then readFlags f ('-' :: seen) rest
    else
      match setFlag? f (!seen.contains '-') c with
      | some f => readFlags f (c :: seen) rest
      | none => .error .flag

/-- Whether a character may stand in the name of a group. -/
def isNameChar (first : Bool) (c : Char) : Bool :=
  if first then c == '_' || Unicode.Latest.alphabetic.contains c.toNat
  else c == '_' || c == '.' || c == '[' || c == ']' || Unicode.Latest.alphanumeric.contains c.toNat

/-- The name of a group, up to the bracket that ends it. -/
def readName (cs : List Char) : Except Fault (String × List Char) :=
  let name := cs.takeWhile (· != '>')
  match cs.drop name.length, name with
  | '>' :: rest, first :: others =>
    if isNameChar true first && others.all (isNameChar false) then .ok (String.ofList name, rest)
    else .error .groupName
  | _, _ => .error .groupName

/-- Opens a group that keeps its text. -/
def openCapture (s : State) (rest : List Char) : State :=
  let index := s.captures + 1
  { s with
    rest, captures := index, parts := [], branches := []
    groups := ⟨s.parts, s.branches, s.flags, some index⟩ :: s.groups }

/-- What follows an opening parenthesis. -/
def openGroup (s : State) (cs : List Char) : Except Fault State := do
  let cs := dropBlank s.flags cs
  match cs with
  | '?' :: '=' :: _ | '?' :: '!' :: _ | '?' :: '<' :: '=' :: _ | '?' :: '<' :: '!' :: _ =>
    throw .lookAround
  | '?' :: 'P' :: '<' :: rest | '?' :: '<' :: rest =>
    let (name, rest) ← readName rest
    if s.names.contains name then throw .groupName
    return { openCapture s rest with names := name :: s.names }
  | '?' :: rest =>
    let (flags, none?, stop, rest) ← readFlags s.flags [] rest
    if stop == ')' then
      if none? then throw .repetitionMissing
      return { s with flags, rest, parts := { node := .empty, repeatable := false } :: s.parts }
    return { s with
      flags, rest, parts := [], branches := []
      groups := ⟨s.parts, s.branches, s.flags, none⟩ :: s.groups }
  | _ => return openCapture s cs

/-- Closes the innermost group. -/
def closeGroup (s : State) (rest : List Char) : Except Fault State :=
  match s.groups with
  | [] => .error .groupUnopened
  | g :: groups =>
    let body := s.body
    let node := match g.index with
      | some i => .capture i body.node
      | none => body.node
    .ok { s with
      rest, groups, flags := g.flags, branches := g.branches
      parts := { node, depth := body.depth + 1 } :: g.parts }

/-- Reads one thing. -/
def step (s : State) : Except Fault State :=
  let f := s.flags
  match s.rest with
  | [] => .ok s
  | '(' :: rest => openGroup s rest
  | ')' :: rest => closeGroup s rest
  | '|' :: rest => .ok { s with rest, parts := [], branches := joinParts s.parts :: s.branches }
  | '[' :: rest => do
    let (set, depth, rest) ← readSet f rest
    return s.push (.oneOf set) rest depth
  | '?' :: rest => let (greedy, rest) := readGreed rest; repeatLast s 0 (some 1) greedy rest
  | '*' :: rest => let (greedy, rest) := readGreed rest; repeatLast s 0 none greedy rest
  | '+' :: rest => let (greedy, rest) := readGreed rest; repeatLast s 1 none greedy rest
  | '\x7b' :: rest => readCounted s rest
  | '\\' :: rest => do
    let (e, rest) ← readEscape f rest
    match e with
    | .char c => return s.push (literal f c) rest
    | .set set => return s.push (.oneOf set) rest
    | .look l => return s.push (.look l) rest
  | '.' :: rest => do return s.push (← dot f) rest
  | '^' :: rest => .ok (s.push (.look (startAnchor f)) rest)
  | '$' :: rest => .ok (s.push (.look (endAnchor f)) rest)
  | c :: rest => .ok (s.push (literal f c) rest)

/-- Reads to the end; `steps` bounds the things read. -/
def run : Nat → State → Except Fault State
  | 0, s => .ok s
  | steps + 1, s =>
    match dropBlank s.flags s.rest with
    | [] => .ok { s with rest := [] }
    | rest => do run steps (← step { s with rest })

/-- An expression: its tree and how many groups keep their text. -/
structure Expression where
  node : Node
  captures : Nat
deriving DecidableEq, Repr

/-- Reads an expression. Every step takes at least one character. -/
def read (source : String) : Except Fault Expression := do
  let cs := source.toList
  let s ← run (cs.length + 1) { rest := cs }
  if !s.groups.isEmpty then throw .groupUnclosed
  let body := s.body
  if maxDepth < body.depth then throw .tooDeep
  if isTooLarge body.node then throw .tooLarge
  return { node := body.node, captures := s.captures }

end Regex
end Parley
