import Parley.Rehearsal.Bytes

/-!
# Parley.Rehearsal.Shell.Syntax

Shell scripts as trees. A word keeps apart what was quoted, since only the rest of it is split into
fields and read as a pattern. Commands keep the line on which they stand, for complaints.

* `Part`, `Word`: words before their expansion.
* `Command`: what a script does.
-/

namespace Parley
namespace Rehearsal
namespace Shell

/-- What takes the place of a parameter, by whether it has a value. -/
inductive Substitute
  /-- The word, if there is no value. -/
  | otherwise
  /-- The word, if there is a value; else nothing. -/
  | instead
  /-- The word, which becomes the value, if there is none. -/
  | assigned
  /-- Nothing; without a value the script ends with the word as its complaint. -/
  | demanded
deriving DecidableEq, Repr

/-- How a file is opened. -/
inductive Opening
  | read
  | write
  /-- As `write`, also where a file stands that should be kept. -/
  | overwrite
  | append
  | readWrite
deriving DecidableEq, Repr

mutual

/-- A part of a word. -/
inductive Part
  /-- Text without quotes. -/
  | text (bytes : Bytes)
  /-- Text of which each byte is protected. -/
  | literal (bytes : Bytes)
  /-- What stands between double quotes. -/
  | quotes (parts : List Part)
  | parameter (name : String) (use : Use)
  /-- The output of a command. -/
  | output (command : Option Command)
  /-- The value of an expression. -/
  | arithmetic (expression : List Part)

/-- What is asked about a parameter. -/
inductive Use
  | value
  | length
  /-- Something that cannot be asked. -/
  | malformed
  /-- A word, by whether the parameter has a value; with `orEmpty` an empty one is none. -/
  | substitute (how : Substitute) (orEmpty : Bool) (word : List Part)
  /-- The value without what a pattern stands for at one of its ends. -/
  | trimmed (atEnd longest : Bool) (pattern : List Part)

/-- What a descriptor is joined to. -/
inductive Redirection
  | file (opening : Opening) (path : List Part)
  /-- Another descriptor, or none. -/
  | copyOf (descriptor : Option Nat)
  /-- Another descriptor, whose number a word stands for. -/
  | copyOfWord (word : List Part)
  /-- A text. -/
  | document (text : List Part)

inductive Redirect
  | mk (descriptor : Nat) (redirection : Redirection)

inductive Command
  /-- Assignments, a command with its arguments, and what its descriptors are joined to. -/
  | simple (line : Nat) (assignments : List (String × List Part)) (words : List (List Part))
      (redirects : List Redirect)
  | pipeline (commands : List Command)
  | negated (command : Command)
  | both (first second : Command)
  | either (first second : Command)
  | seq (first second : Command)
  | background (line : Nat) (command : Command) (redirects : List Redirect)
  | conditional (test body : Command) (otherwise : Option Command)
  /-- Goes on while the test succeeds, or until it does. -/
  | loop (untilDone : Bool) (test body : Command)
  | forEach (line : Nat) (name : String) (words : List (List Part)) (body : Command)
  | choose (line : Nat) (word : List Part) (arms : List (List (List Part) × Option Command))
  | subshell (line : Nat) (body : Command) (redirects : List Redirect)
  | redirected (line : Nat) (body : Command) (redirects : List Redirect)
  | define (name : String) (body : Command)

end

abbrev Word := List Part

abbrev Arm := List Word × Option Command

/-- The text of a word that is written without quotes and parameters. -/
def plainText? : Word → Option Bytes
  | [.text bytes] => some bytes
  | _ => none

def isNameStart (c : Char) : Bool := c.isAlpha || c == '_'

def isNameChar (c : Char) : Bool := c.isAlphanum || c == '_'

/-- Whether a text is a name. -/
def isName (cs : List Char) : Bool :=
  match cs with
  | c :: rest => isNameStart c && rest.all isNameChar
  | [] => false

/-- The name and the value of an assignment in front of a command. -/
def assignment? (w : Word) : Option (String × Word) :=
  match w with
  | .text bytes :: rest =>
    let cs := letters bytes
    let name := cs.takeWhile isNameChar
    match cs.drop name.length with
    | '=' :: value =>
      if isName name then
        let value : Word := if value.isEmpty then rest else .text (ofLetters value) :: rest
        some (String.ofList name, value)
      else none
    | _ => none
  | _ => none

/-- Words that stand for a part of the grammar where a command may begin. -/
def keywords : List String :=
  ["!", "case", "do", "done", "elif", "else", "esac", "fi", "for", "if", "in", "then", "until",
   "while", "\x7b", "\x7d"]

/-- Commands of a shell whose failures end it, and whose assignments stay. -/
def specialNames : List String :=
  [".", ":", "break", "continue", "eval", "exec", "exit", "export", "local", "readonly", "return",
   "set", "shift", "times", "trap", "unset"]

/-- The other commands of a shell. -/
def regularNames : List String :=
  ["[", "alias", "bg", "cd", "chdir", "command", "echo", "false", "fg", "getopts", "hash", "jobs",
   "kill", "printf", "pwd", "read", "test", "true", "type", "ulimit", "umask", "unalias", "wait"]

end Shell
end Rehearsal
end Parley
