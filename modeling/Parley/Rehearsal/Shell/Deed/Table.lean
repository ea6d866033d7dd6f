import Parley.Rehearsal.Format
import Parley.Rehearsal.Shell.Condition
import Parley.Rehearsal.Shell.Deed.Directory
import Parley.Rehearsal.Shell.Deed.Lookup
import Parley.Rehearsal.Shell.Deed.Signals

/-!
# Parley.Rehearsal.Shell.Deed.Table

The commands that a shell has of its own, by their names.

* `Deed.ofCommand?`: what a command comes to, if it is one of the shell's own.
-/

namespace Parley
namespace Rehearsal
namespace Shell

/-- What a shell has around it. -/
structure Surroundings where
  disk : Disk
  directory : Path
  mask : Nat
  descriptors : Descriptors

namespace Deed

/-! ## Output -/

def echoOf (s : State) (arguments : List Bytes) : Deed :=
  .done { s with status := 0 } (Format.echo arguments) []

def printfOf (s : State) (arguments : List Bytes) : Deed :=
  withOptions [] arguments fun _ rest =>
    match rest with
    | [] => .fault "usage: printf format [arg ...]"
    | format :: rest =>
      let w := Format.printf .shell format rest
      let speaking := { s with speaker := some "printf" }
      let complaints := w.doubts.reverse ++ w.fault.toList
      let status := if w.fault.isSome then 2 else if w.doubts.isEmpty then 0 else 1
      .done { s with status } w.bytes (complaints.flatMap speaking.complaint)

/-! ## Conditions -/

/-- A condition; the last word of one in brackets has to begin with a bracket. -/
def testOf (around : Surroundings) (s : State) (name : String) (arguments : List Bytes) : Deed :=
  let judge (arguments : List Bytes) : Deed :=
    match Condition.value ⟨around.disk, around.directory, around.descriptors⟩ arguments with
    | .ok holds => status s (if holds then 0 else 1)
    | .error text => .fault text
  if name == "test" then judge arguments
  else if (arguments.getLast?.bind List.head?) == some 93 then judge arguments.dropLast
  else .fault "missing ]"

/-! ## Leaving -/

/-- The status with which a shell ends by itself; in the action of a trap that is the one from
before. -/
def lastStatus (s : State) : Nat :=
  let before := s.frames.findSome? fun
    | .status n => some n
    | _ => none
  (before <|> s.leaving).getD s.status

def exitOf (s : State) (arguments : List Bytes) : Deed :=
  match arguments with
  | [] => .leave (lastStatus s)
  | a :: _ =>
    match number a with
    | .ok n => .leave n
    | .error text => .fault text

def returnOf (s : State) (arguments : List Bytes) : Deed :=
  match arguments with
  | [] => .comeBack s.status
  | a :: _ =>
    match number a with
    | .ok n => .comeBack n
    | .error text => .fault text

def skipOf (again : Bool) (arguments : List Bytes) : Deed :=
  match countOf arguments with
  | .error text => .fault text
  | .ok 0 => .fault ("Illegal number: " ++ ((arguments.head?).map wordOf).getD "")
  | .ok n => .skip n again

/-! ## Scripts -/

def evalOf (s : State) (arguments : List Bytes) : Deed :=
  if arguments.isEmpty then status s 0 else .script (joinWith [32] arguments)

def fileOf (s : State) (arguments : List Bytes) : Deed :=
  withOptions [] arguments fun _ rest =>
    match rest with
    | [] => status s 0
    | path :: _ => .file path

def readOf (arguments : List Bytes) : Deed :=
  withOptions [('p', true), ('r', false)] arguments fun given rest =>
    let names := rest.map fun w => (assignmentOf w).1
    if rest.isEmpty then .fault "arg count" else .readLine (given.contains 'r') names

/-- What a command comes to, if it is one of the shell's own. -/
def ofCommand? (around : Surroundings) (s : State) (name : String) (arguments : List Bytes) :
    Option Deed :=
  let d := around.disk
  let here := around.directory
  match name with
  | ":" => some (status s 0)
  | "true" => some (status s 0)
  | "false" => some (status s 1)
  | "echo" => some (echoOf s arguments)
  | "printf" => some (printfOf s arguments)
  | "test" => some (testOf around s name arguments)
  | "[" => some (testOf around s name arguments)
  | "read" => some (readOf arguments)
  | "exit" => some (exitOf s arguments)
  | "return" => some (returnOf s arguments)
  | "break" => some (skipOf false arguments)
  | "continue" => some (skipOf true arguments)
  | "eval" => some (evalOf s arguments)
  | "." => some (fileOf s arguments)
  | "exec" => some (.become arguments)
  | "times" => some (print s "0m0.000000s 0m0.000000s\n0m0.000000s 0m0.000000s\n")
  | "export" => some (exportOf s name arguments)
  | "readonly" => some (exportOf s name arguments)
  | "unset" => some (unsetOf s arguments)
  | "local" => some (localOf s arguments)
  | "set" => some (setOf s arguments)
  | "shift" => some (shiftOf s arguments)
  | "getopts" => some (getoptsOf s arguments)
  | "alias" => some (aliasOf s arguments)
  | "unalias" => some (unaliasOf s arguments)
  | "cd" => some (cdOf d here s arguments)
  | "chdir" => some (cdOf d here s arguments)
  | "pwd" => some (pwdOf here s arguments)
  | "umask" => some (umaskOf around.mask s arguments)
  | "ulimit" => some (ulimitOf s arguments)
  | "type" => some (tellAll d here s arguments)
  | "command" => some (commandOf d here s arguments)
  | "hash" => some (hashOf d here s arguments)
  | "kill" => some (killOf s arguments)
  | "trap" => some (trapOf s arguments)
  | "wait" => some (waitOf s arguments)
  | "jobs" => some (jobsOf s arguments)
  | "fg" => some (resumeOf s arguments)
  | "bg" => some (resumeOf s arguments)
  | _ => none

end Deed
end Shell
end Rehearsal
end Parley
