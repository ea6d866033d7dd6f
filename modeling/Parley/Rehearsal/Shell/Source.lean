import Parley.Rehearsal.Shell.Syntax

/-!
# Parley.Rehearsal.Shell.Source

The text of a script while it is read, one character after another. The text of an alias is read in
its place.

* `Source`: what is left of a script.
* `Scan`: steps of reading, which may fail with a `Fault`.
-/

namespace Parley
namespace Rehearsal
namespace Shell

/-- What is left of a script to be read. -/
structure Source where
  rest : List Char
  line : Nat := 1
  /-- Whether no more text will come. -/
  ended : Bool := true

/-- A script from its bytes. -/
def Source.ofBytes (bs : Bytes) : Source := { rest := letters bs }

/-- Why a script cannot be read. -/
inductive Fault
  | wrong (line : Nat) (text : String)
  /-- The text ends in the midst of a command, and more may come. -/
  | unfinished
deriving DecidableEq, Repr

/-- What ends a word, joins commands, or opens and closes them. -/
inductive Token
  | ended
  | newline
  | semicolon
  | ampersand
  | both
  | either
  | bar
  | opening
  | closing
  | nextArm
  | redirection (descriptor : Option Nat) (sign : String)
  | word (w : Word)
  | keyword (text : String)

namespace Token

/-- How a complaint names a token. -/
def name : Token → String
  | ended => "end of file"
  | newline => "newline"
  | semicolon => "\";\""
  | ampersand => "\"&\""
  | both => "\"&&\""
  | either => "\"||\""
  | bar => "\"|\""
  | opening => "\"(\""
  | closing => "\")\""
  | nextArm => "\";;\""
  | redirection .. => "redirection"
  | word _ => "word"
  | keyword text => "\"" ++ text ++ "\""

/-- Whether a token ends a list of commands. -/
def endsList : Token → Bool
  | ended => true
  | closing => true
  | nextArm => true
  | keyword text => ["do", "done", "elif", "else", "esac", "fi", "then", "\x7d"].contains text
  | _ => false

def isKeyword (text : String) : Token → Bool
  | keyword k => k == text
  | _ => false

end Token

/-- An alias whose text is being read. -/
structure Replaced where
  name : String
  /-- How much text is left once its own has been read. -/
  behind : Nat
  /-- Whether its text ends with a blank, so that the next word may be an alias as well. -/
  goesOn : Bool

structure Scanning where
  source : Source
  aliases : List (String × Bytes) := []
  replaced : List Replaced := []
  /-- Whether the text of an alias has just ended that lets the next word be one. -/
  aliasNext : Bool := false
  /-- A token that has been read and is to be read again. -/
  pushed : Option Token := none
  /-- Lines that were taken out behind the current one. -/
  skipped : Nat := 0

abbrev Scan := StateT Scanning (Except Fault)

namespace Scan

def wrong {α : Type} (text : String) : Scan α := do
  throw (.wrong (← get).source.line ("Syntax error: " ++ text))

/-- Forgets aliases whose texts have been read. -/
def settle : Scan Unit := modify fun s =>
  let left := s.source.rest.length
  let gone := s.replaced.filter fun r => left ≤ r.behind
  { s with replaced := s.replaced.filter fun r => r.behind < left
           aliasNext := s.aliasNext || gone.any (·.goesOn) }

/-- The next character, which is left where it is; none at the end. -/
def peek : Scan (Option Char) := do
  let s ← get
  match s.source.rest with
  | c :: _ => return some c
  | [] => if s.source.ended then return none else throw .unfinished

/-- Takes the next character; a line feed ends the line. -/
def skip : Scan Unit := do
  settle
  modify fun s =>
    match s.source.rest with
    | '\n' :: rest =>
      { s with source := { s.source with rest, line := s.source.line + 1 + s.skipped }
               skipped := 0 }
    | _ :: rest => { s with source := { s.source with rest } }
    | [] => s

/-- Takes the next character, which ends no line. -/
def pass : Scan Unit := do
  settle
  modify fun s => { s with source := { s.source with rest := s.source.rest.drop 1 } }

/-- Takes pairs of a backslash and a line feed, which stand for nothing. -/
def joinLines : Nat → Scan Unit
  | 0 => pure ()
  | fuel + 1 => do
    match (← get).source.rest with
    | '\\' :: '\n' :: _ =>
      skip
      skip
      joinLines fuel
    | ['\\'] => if (← get).source.ended then pure () else throw .unfinished
    | _ => pure ()

/-- The next character behind joined lines, which is left where it is. -/
def peekJoined : Scan (Option Char) := do
  joinLines (← get).source.rest.length
  peek

/-- Takes the next character behind joined lines if it is `c`. -/
def trySign (c : Char) : Scan Bool := do
  if (← peekJoined) == some c then
    skip
    return true
  else return false

/-- Takes characters that satisfy a test, behind joined lines. -/
def takeJoined (test : Char → Bool) (acc : List Char) : Nat → Scan (List Char)
  | 0 => return acc.reverse
  | fuel + 1 => do
    match ← peekJoined with
    | some c =>
      if test c then
        skip
        takeJoined test (c :: acc) fuel
      else return acc.reverse
    | none => return acc.reverse

/-- Takes characters that satisfy a test. -/
def takeAll (test : Char → Bool) (acc : List Char) : Nat → Scan (List Char)
  | 0 => return acc.reverse
  | fuel + 1 => do
    match ← peek with
    | some c =>
      if test c then
        skip
        takeAll test (c :: acc) fuel
      else return acc.reverse
    | none => return acc.reverse

def putBack (t : Token) : Scan Unit := modify fun s => { s with pushed := some t }

/-- Complains about a token that cannot stand here, where perhaps another one is wanted. -/
def unexpected {α : Type} (t : Token) (wanted : Option String) : Scan α :=
  wrong (t.name ++ " unexpected" ++ match wanted with
    | some w => " (expecting " ++ w ++ ")"
    | none => "")

/-- Puts the text of an alias in front of the rest. -/
def replace (name : String) (text : Bytes) : Scan Unit := modify fun s =>
  let text := letters text
  let r : Replaced :=
    { name, behind := s.source.rest.length
      goesOn := text.getLast? == some ' ' || text.getLast? == some '\t' }
  { s with source := { s.source with rest := text ++ s.source.rest }
           replaced := r :: s.replaced }

/-! ## Texts behind a command -/

/-- The lines of a text up to the one that marks its end, what follows, and whether there is such a
line. With `joining` a line whose end is protected goes on. -/
def documentLines (mark : List Char) (stripTabs joining : Bool) (acc : List (List Char))
    (goesOn : Bool) : Nat → List Char → List (List Char) × List Char × Bool
  | 0, cs => (acc.reverse, cs, false)
  | _ + 1, [] => (acc.reverse, [], false)
  | fuel + 1, cs =>
    let whole := cs.takeWhile (· != '\n')
    let rest := cs.drop whole.length
    let line := if stripTabs && !goesOn then whole.dropWhile (· == '\t') else whole
    if line == mark && !goesOn then (acc.reverse, rest.tail, true)
    else
      match rest with
      | [] => ((line :: acc).reverse, [], false)
      | _ :: rest =>
        let odd := (line.reverse.takeWhile (· == '\\')).length % 2 == 1
        documentLines mark stripTabs joining ((line ++ ['\n']) :: acc) (joining && odd) fuel rest

/-- How much of a text stands before the line feed that ends its line; quoted ones do not. -/
def lineLength (quote : Option Char) (n : Nat) : List Char → Nat
  | [] => n
  | '\n' :: rest => if quote.isNone then n else lineLength quote (n + 1) rest
  | '\\' :: c :: rest =>
    if quote == some '\'' then lineLength quote (n + 1) (c :: rest)
    else lineLength quote (n + 2) rest
  | c :: rest =>
    match quote with
    | some q => lineLength (if c == q then none else quote) (n + 1) rest
    | none => lineLength (if c == '\'' || c == '"' then some c else none) (n + 1) rest

/-- Takes the text that begins on the next line and ends at a mark, and says on which line it
begins. -/
def document (mark : List Char) (stripTabs joining : Bool) : Scan (List Char × Nat) := do
  let s ← get
  let cs := s.source.rest
  let n := lineLength none 0 cs
  match cs.drop n with
  | [] => if s.source.ended then return ([], s.source.line + 1) else throw .unfinished
  | _ :: body =>
    let (lines, rest, found) := documentLines mark stripTabs joining [] false (body.length + 1) body
    if !found && !s.source.ended then throw .unfinished
    let taken := body.take (body.length - rest.length)
    let count := taken.countP (· == '\n')
    let count := if found && taken.getLast? != some '\n' then count + 1 else count
    let replaced := s.replaced.map fun r => { r with behind := r.behind - taken.length }
    let source := { s.source with rest := cs.take (n + 1) ++ rest }
    set { s with source, replaced, skipped := s.skipped + count }
    return (lines.flatten, s.source.line + 1 + s.skipped)

end Scan
end Shell
end Rehearsal
end Parley
