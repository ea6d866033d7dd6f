import Parley.ExitStatus
import Parley.Rehearsal.Disk
import Parley.Rehearsal.Shell.Source

/-!
# Parley.Rehearsal.Shell.State

A shell between two of its steps: its variables, functions and options, and what it has still to do.

* `Frame`: something that a shell has still to do.
* `State`: a shell.
* `State.setVar?`: gives a variable its value, unless it may not change.
-/

namespace Parley
namespace Rehearsal

/-- What a descriptor is joined to. -/
inductive Endpoint
  | reading (pipe : Nat)
  | writing (pipe : Nat)
  | device (d : Device)
  /-- An opened file by its number. -/
  | file (opened : Nat)
  /-- A directory, which gives no bytes. -/
  | directory
deriving DecidableEq, Repr

abbrev Descriptors := List (Nat × Endpoint)

/-- The variables that a program sees, in their order. -/
abbrev Inherited := List (Bytes × Bytes)

namespace Shell

/-- What can be switched on and off in a shell. -/
inductive Switch
  | errexit
  | noglob
  | ignoreeof
  | interactive
  | monitor
  | noexec
  | stdin
  | xtrace
  | verbose
  | vi
  | emacs
  | noclobber
  | allexport
  | notify
  | nounset
  | privileged
  | nolog
  | debug
deriving DecidableEq, Repr

/-- Switches with their names and letters, in the order in which they are told. -/
def Switch.all : List (Switch × String × Option Char) :=
  [(errexit, "errexit", some 'e'), (noglob, "noglob", some 'f'), (ignoreeof, "ignoreeof", some 'I'),
   (interactive, "interactive", some 'i'), (monitor, "monitor", some 'm'),
   (noexec, "noexec", some 'n'), (stdin, "stdin", some 's'), (xtrace, "xtrace", some 'x'),
   (verbose, "verbose", some 'v'), (vi, "vi", some 'V'), (emacs, "emacs", some 'E'),
   (noclobber, "noclobber", some 'C'), (allexport, "allexport", some 'a'),
   (notify, "notify", some 'b'), (nounset, "nounset", some 'u'),
   (privileged, "privileged", some 'p'), (nolog, "nolog", none), (debug, "debug", none)]

structure Variable where
  name : String
  /-- None if the variable is known but has no value. -/
  value : Option Bytes
  exported : Bool := false
  readonly : Bool := false

/-- Processes that belong together, with how they have ended as far as the shell knows. -/
structure Job where
  number : Nat := 0
  processes : List (Nat × Option ExitStatus)
  /-- Whether somebody has waited for it. -/
  waited : Bool := false

namespace Job

def isDone (j : Job) : Bool := j.processes.all (·.2.isSome)

def has (j : Job) (pid : Nat) : Bool := j.processes.any (·.1 == pid)

/-- Notes how a process has ended. -/
def note (pid : Nat) (e : ExitStatus) (j : Job) : Job :=
  { j with processes := j.processes.map fun q => if q.1 == pid then (pid, some e) else q }

/-- The status that a shell gives to the end of a process. -/
def statusOf : ExitStatus → Nat
  | .exited code => (code % 256).toNat
  | .signaled n => 128 + n.toNat
  | .unknown => 127

/-- The status of a job is that of its last process. -/
def status (j : Job) : Nat :=
  match j.processes.getLast?.bind (·.2) with
  | some e => statusOf e
  | none => 0

end Job

/-- How a shell waits. -/
inductive Waiting
  /-- For a command of its own. -/
  | command (j : Job)
  /-- For some jobs in the background; a signal ends that. -/
  | jobs (numbers : List Nat)
  /-- For all that runs in the background. -/
  | all

/-- Descriptors with what they were joined to before. -/
abbrev Saved := List (Nat × Option Endpoint)

/-- Something that a shell has still to do. With `tested` a failure only answers a question, and
does not end a shell that ends at failures. -/
inductive Frame
  /-- Reads and runs what is left of a script. -/
  | script (source : Source) (tested : Bool)
  /-- Reads a script from a descriptor; so much of it has come. -/
  | stream (source : Source)
  | run (c : Command) (tested : Bool)
  /-- Makes assignments and then runs a command whose words are known and whose descriptors are
  joined. -/
  | prepared (line : Nat) (words : List Bytes) (assignments : List (String × List Part))
      (saved : Saved) (tested : Bool)
  /-- Runs a command if the one before has succeeded. -/
  | ifSo (c : Command) (tested : Bool)
  | ifNot (c : Command) (tested : Bool)
  | negate
  | branch (body : Command) (otherwise : Option Command) (tested : Bool)
  /-- The test of a loop has been run; `last` is the status of the loop so far. -/
  | tested (untilDone : Bool) (test body : Command) (last : Nat) (tested : Bool)
  /-- The body of a loop has been run. -/
  | looped (untilDone : Bool) (test body : Command) (tested : Bool)
  /-- The values that a loop has still to go through. -/
  | each (name : String) (values : List Bytes) (body : Command) (tested : Bool)
  /-- Ends a shell that ends at failures, if there was one. -/
  | check
  /-- Joins descriptors to what they were joined to before. -/
  | rejoin (saved : Saved)
  /-- Sets the status, as after the action of a trap. -/
  | status (n : Nat)
  /-- Reads a line into variables; `taken` holds what has been read, the last byte first. -/
  | line (raw : Bool) (names : List String) (taken : Bytes)
  | await (how : Waiting)
  /-- Takes the output of a command that takes the place of its text. -/
  | gather (pid descriptor : Nat) (taken : Bytes)
  /-- That output is known, and so is the status that was there before. -/
  | answer (output : Bytes) (status : Nat)
  /-- Ends a command that has had descriptors for itself, and perhaps variables. -/
  | settle (saved : Saved) (hasLocals : Bool)
  /-- Ends a function: the arguments are those from before, and so is where options are read. -/
  | call (arguments : List Bytes) (optionIndex optionOffset : Nat)
  /-- Ends a script that was read from a file. -/
  | file
  /-- Speaks for another command again. -/
  | speak (name : Option String)
  /-- Holds up a failure that would end the shell. -/
  | guard

structure State where
  /-- The name by which the shell was called. -/
  name : Bytes
  arguments : List Bytes := []
  vars : List Variable := []
  functions : List (String × Command) := []
  aliases : List (String × Bytes) := []
  switches : List Switch := []
  status : Nat := 0
  /-- The status of the last command whose output has taken the place of its text. -/
  outputStatus : Nat := 0
  frames : List Frame := []
  /-- The outputs that the current expansion has asked for, with their statuses. -/
  answers : List (Bytes × Nat) := []
  /-- What is done when a signal comes; zero stands for the end of the shell, and an empty action
  for none. -/
  traps : List (Nat × Bytes) := []
  /-- Signals that have come and wait for their actions. -/
  arrived : List Nat := []
  /-- Signals that came to nothing before the shell began, and do so for good. -/
  deaf : List Nat := []
  /-- The number of the first shell. -/
  rootPid : Nat
  lastBackground : Option Nat := none
  /-- What runs in the background, the newest job first. -/
  jobs : List Job := []
  /-- Whether the shell is on its way out, its last action aside. -/
  leaving : Option Nat := none
  /-- The line of the current command. -/
  line : Nat := 0
  /-- The command of the shell that is at work. -/
  speaker : Option String := none
  /-- How many loops there are around a shell that runs beside another one. -/
  outerLoops : Nat := 0
  /-- The variables that the current commands have of their own, the innermost first. -/
  locals : List (List (String × Option Variable)) := []
  /-- The argument at which options are read next, and how far the one before has been read. -/
  optionIndex : Nat := 1
  optionOffset : Nat := 0
  /-- Names of programs that have been found, with their paths. -/
  found : List (String × String) := []
  /-- The directory as it was named. -/
  directory : Option String := none

namespace State

def isOn (s : State) (w : Switch) : Bool := s.switches.contains w

def turn (s : State) (w : Switch) (on : Bool) : State :=
  let others := s.switches.filter (· != w)
  { s with switches := if on then w :: others else others }

/-! ## Variables -/

def var? (s : State) (name : String) : Option Variable := s.vars.find? fun v => v.name == name

def value? (s : State) (name : String) : Option Bytes := (s.var? name).bind (·.value)

/-- Puts a variable in the place of the one of its name. -/
def putVar (s : State) (v : Variable) : State :=
  { s with vars := if s.vars.any (·.name == v.name) then
                     s.vars.map fun w => if w.name == v.name then v else w
                   else s.vars ++ [v] }

def dropVar (s : State) (name : String) : State :=
  { s with vars := s.vars.filter fun v => v.name != name }

/-- Gives a variable a value; none is given to one that may not change. -/
def setVar? (s : State) (name : String) (value : Option Bytes) (exported : Bool) : Option State :=
  let old := (s.var? name).getD { name, value := none }
  if old.readonly then none
  else
    let exported := old.exported || exported || (s.isOn .allexport && value.isSome)
    let s := s.putVar { old with value, exported }
    if name == "OPTIND" then
      let index := ((value.map wordOf).bind String.toNat?).getD 1
      some { s with optionIndex := max index 1, optionOffset := 0 }
    else some (if name == "PATH" then { s with found := [] } else s)

/-- What is said of a variable that may not change. -/
def readOnlyText (name : String) : String := name ++ ": is read only"

/-- The characters that split what is not quoted. -/
def separators (s : State) : Bytes := (s.value? "IFS").getD [32, 9, 10]

/-- The place of a name in the table of variables. -/
def slotOf (name : String) : Nat :=
  let cs := name.toList.map Char.toNat
  (cs.headD 0 * 16 + cs.foldl (· + ·) 0) % 39

/-- The variables that programs get from the shell: by their places in its table. -/
def inherited (s : State) : Inherited :=
  let exported := s.vars.filter fun v => v.exported && v.value.isSome
  (List.range 39).flatMap fun slot =>
    (exported.filter fun v => slotOf v.name == slot).map fun v =>
      (bytesOf v.name, v.value.getD [])

/-- Variables that a shell has from the start. -/
def firstVars : List Variable :=
  [{ name := "IFS", value := some [32, 9, 10] }, { name := "OPTIND", value := some [49] },
   { name := "PATH", value := some (bytesOf Disk.defaultPath) },
   { name := "PS1", value := some (bytesOf "# ") }, { name := "PS2", value := some (bytesOf "> ") },
   { name := "PS4", value := some (bytesOf "+ ") }]

/-- The directories in which programs are looked for. -/
def searchPath (s : State) : String := wordOf ((s.value? "PATH").getD [])

/-! ## Complaints -/

/-- A complaint of a shell, with the line and the command at work. -/
def complaint (s : State) (text : String) : Bytes :=
  let speaker := match s.speaker with
    | some name => name ++ ": "
    | none => ""
  s.name ++ bytesOf (": " ++ toString s.line ++ ": " ++ speaker ++ text ++ "\n")

/-- What is said where jobs need a terminal. -/
def noTerminalText : String := "can't access tty; job control turned off"

end State
end Shell
end Rehearsal
end Parley
