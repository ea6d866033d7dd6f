import Parley.Rehearsal.Shell.Deed

/-!
# Parley.Rehearsal.Shell.Deed.Signals

Commands about signals and about what runs in the background.

* `Deed.killOf`, `trapOf`: signals.
* `Deed.waitOf`, `jobsOf`, `resumeOf`: jobs.
-/

namespace Parley
namespace Rehearsal
namespace Shell
namespace Deed

/-! ## Jobs -/

/-- The job that a word with a percent sign stands for. -/
def jobOf (s : State) (word : String) : Except String Job :=
  let get (j : Option Job) (text : String) : Except String Job :=
    match j with
    | some j => .ok j
    | none => .error text
  match word.toList with
  | ['%'] => get s.jobs.head? "No current job"
  | ['%', '+'] => get s.jobs.head? "No current job"
  | ['%', '%'] => get s.jobs.head? "No current job"
  | ['%', '-'] => get s.jobs[1]? "No previous job"
  | '%' :: ds =>
    let number := (String.ofList ds).toNat?
    get (s.jobs.find? fun j => some j.number == number) ("No such job: " ++ word)
  | _ => .error ("No such job: " ++ word)

/-- What is said of a job by what its processes have come to. -/
def jobText (j : Job) : String :=
  if !j.isDone then "Running"
  else
    match j.processes.getLast?.bind (·.2) with
    | some (.exited code) => if code == 0 then "Done" else "Done(" ++ toString code ++ ")"
    | some (.signaled n) => SignalName.text n.toNat
    | _ => ""

inductive JobStyle
  | plain
  | numbers
  | firstNumber
deriving DecidableEq

/-- A job in a list, in which the newest one and the one before stand out. -/
def jobLine (s : State) (style : JobStyle) (j : Job) : String :=
  let number (i : Nat) : String := ((j.processes[i]?.map (·.1)).map toString).getD ""
  let pad (n : Nat) (text : String) : String :=
    text ++ String.ofList (List.replicate (max 1 (n - text.length)) ' ')
  let mark := if s.jobs.head?.any (·.number == j.number) then "+"
    else if s.jobs[1]?.any (·.number == j.number) then "-" else " "
  let lead := "[" ++ toString j.number ++ "] " ++ mark ++ " "
  let others := List.range (j.processes.length - 1)
  match style with
  | .firstNumber => number 0 ++ "\n"
  | .plain =>
    pad 33 (lead ++ jobText j) ++ String.join (others.map fun _ => " | ") ++ "\n"
  | .numbers =>
    pad 33 (lead ++ number 0 ++ " " ++ jobText j) ++ String.join (others.map fun i =>
      " |\n" ++ pad 33 (String.ofList (List.replicate lead.length ' ') ++ number (i + 1) ++ " ")) ++
      "\n"

def jobsOf (s : State) (arguments : List Bytes) : Deed :=
  withOptions [('l', false), ('p', false)] arguments fun given rest =>
    let style := match given.getLast? with
      | none => JobStyle.plain
      | some 'l' => .numbers
      | some _ => .firstNumber
    match if rest.isEmpty then .ok s.jobs else rest.mapM fun w => jobOf s (wordOf w) with
    | .error text => .fault text
    | .ok told =>
      let gone := (told.filter Job.isDone).map (·.number)
      print { s with jobs := s.jobs.filter fun j => !gone.contains j.number }
        (String.join (told.map (jobLine s style)))

/-- Commands that bring jobs to the front, which no shell of a script can do. -/
def resumeOf (s : State) (arguments : List Bytes) : Deed :=
  withOptions [] arguments fun _ rest =>
    let word := rest.head?.map wordOf
    match jobOf s (word.getD "%") with
    | .error text => .fault text
    | .ok _ => .fault ("job " ++ word.getD "(null)" ++ " not created under job control")

/-- The jobs that some words stand for; a process that is none of the shell's own is passed over. -/
def waitedFor (s : State) : List Bytes → Except String (List Nat)
  | [] => .ok []
  | w :: rest => do
    let job ← if w.head? == some 37 then (jobOf s (wordOf w)).map some
      else do
        let n ← number w
        pure (s.jobs.find? fun j => (j.processes.getLast?.map (·.1)) == some n)
    let others ← waitedFor s rest
    return (job.map (·.number)).toList ++ others

def waitOf (s : State) (arguments : List Bytes) : Deed :=
  withOptions [] arguments fun _ rest =>
    if rest.isEmpty then .wait .all 0
    else
      match waitedFor s rest with
      | .ok numbers => .wait (.jobs numbers) 127
      | .error text => .fault text

/-! ## Signals -/

/-- A signal that a name or a number stands for, if it is at least `least`. -/
def signalOf (least : Nat) (word : String) : Option Nat :=
  let digits := word.toList.all Char.isDigit
  (SignalName.number? word).filter fun n => digits || least ≤ n

def usage : Deed :=
  .fault "Usage: kill [-s sigspec | -signum | -sigspec] [pid | job]... or\nkill -l [exitstatus]"

/-- The process that a word stands for. -/
def targetOf (s : State) (w : Bytes) : Except String Target :=
  match w with
  | 37 :: _ => do
    let j ← jobOf s (wordOf w)
    return .group (((j.processes.head?).map (·.1)).getD 0)
  | 45 :: rest => (number rest).map .group
  | _ => (number w).map fun n => if n == 0 then .group 0 else .process n

/-- Sends a signal to what some words stand for; words behind one that is wrong do not count. -/
def signalAll (s : State) (n : Nat) (words : List Bytes) : Deed :=
  match words.mapM (targetOf s) with
  | .ok targets => .signal n targets
  | .error text => .fault text

def listSignals (s : State) : List Bytes → Deed
  | [] =>
    print s ("0\n" ++ String.join ((List.range SignalName.count).tail.map fun n =>
      SignalName.name n ++ "\n"))
  | w :: _ =>
    match number w with
    | .error text => .fault text
    | .ok n =>
      let signal := if 128 < n then n - 128 else n
      if 0 < signal && signal < SignalName.count then print s (SignalName.name signal ++ "\n")
      else .fault ("invalid signal number or exit status: " ++ wordOf w)

def killOf (s : State) (arguments : List Bytes) : Deed :=
  match arguments with
  | [] => usage
  | first :: rest =>
    let direct := match letters first with
      | '-' :: cs => signalOf 1 (String.ofList cs)
      | _ => none
    match direct with
    | some n => if rest.isEmpty then usage else signalAll s n rest
    | none =>
      match options [('l', false), ('s', true)] arguments with
      | .error text => .fault text
      | .ok (given, rest) =>
        let names := given.filter fun g => g.1 == 's'
        match names.find? fun g => (signalOf 1 (wordOf g.2)).isNone with
        | some g => .fault ("invalid signal number or name: " ++ wordOf g.2)
        | none =>
          if given.any fun g => g.1 == 'l' then listSignals s rest
          else
            let n := ((names.getLast?.bind fun g => signalOf 1 (wordOf g.2))).getD 15
            if rest.isEmpty then usage else signalAll s n rest

/-- The actions of a shell without those for some signals. -/
def forgetTraps (signals : List Nat) (traps : List (Nat × Bytes)) : List (Nat × Bytes) :=
  traps.filter fun t => !signals.contains t.1

/-- Plans an action for signals up to the first one that is unknown. -/
def planAll (s : State) (action : Option Bytes) (words : List Bytes) : Deed :=
  let known := (words.map fun w => signalOf 0 (wordOf w)).takeWhile Option.isSome
  let signals := known.filterMap id
  let kept := forgetTraps signals s.traps
  let heard := signals.filter fun n => n != 0 && !s.deaf.contains n
  let bad := words[known.length]?
  let s := { s with
    status := if bad.isSome then 1 else 0
    traps := match action with
      | none => kept
      | some a => kept ++ signals.eraseDups.map fun n => (n, a) }
  let complaint := match bad with
    | some w => bytesOf "trap: " ++ w ++ bytesOf ": bad trap\n"
    | none => []
  if action == some [] then .heed s heard [] complaint else .heed s [] heard complaint

def trapOf (s : State) (arguments : List Bytes) : Deed :=
  withOptions [] arguments fun _ rest =>
    match rest with
    | [] =>
      let traps := s.traps.mergeSort fun a b => decide (a.1 ≤ b.1)
      print s (String.join (traps.map fun t =>
        "trap -- " ++ quoted t.2 ++ " " ++ SignalName.name t.1 ++ "\n"))
    | [w] => planAll s none [w]
    | w :: more =>
      let isNumber := !w.isEmpty && (letters w).all Char.isDigit
      if isNumber && (signalOf 0 (wordOf w)).isSome then planAll s none rest
      else planAll s (if wordOf w == "-" then none else some w) more

end Deed
end Shell
end Rehearsal
end Parley
