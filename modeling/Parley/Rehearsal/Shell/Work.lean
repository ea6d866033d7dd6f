import Parley.Rehearsal.Machine
import Parley.Rehearsal.Shell.Expand
import Parley.Rehearsal.Shell.SignalName

/-!
# Parley.Rehearsal.Shell.Work

What a shell does on its machine: it writes, joins descriptors, starts shells beside itself, and
learns how its processes have ended.

* `joinAll`: the descriptors after some redirections.
* `fork`, `forkAll`: shells beside a shell.
* `reap`: the ends of processes.
-/

namespace Parley
namespace Rehearsal
namespace Shell

/-- The machine with a process whose shell has come to a new state. -/
def put (m : Machine) (p : Process) (s : State) : Machine :=
  m.setProcess { p with program := .shell s }

/-- Goes on with some things to do before all others. -/
def next (m : Machine) (p : Process) (s : State) (frames : List Frame) : Machine :=
  put m p { s with frames := frames ++ s.frames }

/-- Writes a complaint, if there is somebody to read it. -/
def complain (m : Machine) (p : Process) (text : Bytes) : Machine :=
  match m.write p 2 text with
  | .done m => m
  | _ => m

def isCheck : Frame → Bool
  | .check => true
  | _ => false

/-- Whether a shell has actions for signals. -/
def hasTraps (s : State) : Bool := s.traps.any fun t => !t.2.isEmpty

/-- Whether nothing is left to do, so that the next command may take the place of the shell. -/
def isLast (s : State) : Bool := s.frames.all isCheck && !hasTraps s && s.leaving.isNone

def place (m : Machine) (p : Process) : Place := ⟨m.disk, p.directory⟩

/-! ## Descriptors -/

/-- Joins a descriptor to something, or to nothing. -/
def join (descriptor : Nat) (e : Option Endpoint) (ds : Descriptors) : Descriptors :=
  let others := ds.filter fun d => d.1 != descriptor
  match e with
  | some e => (descriptor, e) :: others
  | none => others

/-- Forgets what descriptors were joined to before. -/
def release (saved : Saved) (p : Process) : Process :=
  { p with kept := p.kept.drop (saved.filterMap (·.2)).length }

/-- Joins descriptors to what they were joined to before. -/
def rejoin (saved : Saved) (p : Process) : Process :=
  release saved { p with descriptors := saved.foldl (fun ds d => join d.1 d.2 ds) p.descriptors }

/-- Why a file cannot be opened, as a shell tells it. -/
def openFault (opening : Opening) (path : Bytes) (e : SystemError) : String :=
  let absent := e == .noSuchFile || e == .notDirectory
  let path := wordOf path
  if opening == .read then
    "cannot open " ++ path ++ ": " ++ if absent then "No such file" else e.reason
  else "cannot create " ++ path ++ ": " ++ if absent then "Directory nonexistent" else e.reason

/-- Whether a file stands at a path that a shell must not empty. -/
def isKept (m : Machine) (p : Process) (s : State) (opening : Opening) (path : Bytes) : Bool :=
  s.isOn .noclobber && opening == .write &&
    match (m.disk.find p.directory (wordOf path)).toOption.bind (·.entry) with
    | some (.file ..) => true
    | some (.executable _) => true
    | _ => false

/-- What a redirection joins a descriptor to. -/
def endpointOf (m : Machine) (p : Process) (s : State) :
    Expand.Joint → Except String (Option Endpoint × Machine)
  | .copyOf none => .ok (none, m)
  | .copyOf (some n) =>
    match p.descriptors.lookup n with
    | some e => .ok (some e, m)
    | none => .error (toString n ++ ": Bad file descriptor")
  | .document text =>
    let (pipe, m) := m.newPipe text
    .ok (some (.reading pipe), m)
  | .file opening path =>
    if isKept m p s opening path then .error (openFault opening path .fileExists)
    else
      match m.openFile p opening (wordOf path) with
      | .ok (e, m) => .ok (some e, m)
      | .error e => .error (openFault opening path e)

/-- The machine after some redirections, with what descriptors were joined to before, or the machine
up to the one that fails and a complaint. -/
def joinAll (m : Machine) (p : Process) (s : State) (saved : Saved) :
    List (Nat × Expand.Joint) → Except (Machine × Process × Saved × String)
      (Machine × Process × Saved)
  | [] => .ok (m, p, saved)
  | (d, joint) :: rest =>
    match endpointOf m p s joint with
    | .error text => .error (m, p, saved, text)
    | .ok (e, m) =>
      let fresh := if (saved.lookup d).isSome then [] else [(d, p.descriptors.lookup d)]
      let kept := fresh.filterMap (·.2) ++ p.kept
      joinAll m { p with descriptors := join d e p.descriptors, kept } s (saved ++ fresh) rest

/-! ## Shells beside a shell -/

def isLoop : Frame → Bool
  | .looped .. => true
  | .tested .. => true
  | .each .. => true
  | _ => false

def isCall : Frame → Bool
  | .call .. => true
  | _ => false

/-- How many loops there are around the current command, within its function. -/
def loopsAround (s : State) : Nat :=
  let inner := s.frames.takeWhile fun f => !isCall f
  (inner.filter isLoop).length + if inner.length == s.frames.length then s.outerLoops else 0

/-- The state of a shell beside another one. Actions for signals are not handed on. -/
def beside (s : State) (frames : List Frame) : State :=
  { s with
    frames, answers := [], arrived := [], leaving := none, jobs := []
    traps := s.traps.filter fun t => t.2.isEmpty
    outerLoops := loopsAround s }

/-- Starts a shell beside this one. -/
def fork (m : Machine) (p : Process) (s : State) (frames : List Frame) (ds : Descriptors) :
    Nat × Machine :=
  m.start p (.shell (beside s frames)) ds p.environment p.ignored

/-- Starts shells that are joined by pipes; the answer is their processes, the last one first. The
first of them reads from `input`. -/
def forkAll (p : Process) (s : State) (tested : Bool) (input : Option Endpoint) (pids : List Nat)
    (m : Machine) : List Command → List Nat × Machine
  | [] => (pids, m)
  | [c] =>
    let (pid, m) := fork m p s [.run c tested] (join 0 input p.descriptors)
    (pid :: pids, m)
  | c :: rest =>
    let (pipe, m) := m.newPipe []
    let ds := join 1 (some (.writing pipe)) (join 0 input p.descriptors)
    let (pid, m) := fork m p s [.run c tested] ds
    forkAll p s tested (some (.reading pipe)) (pid :: pids) m rest

/-- Signals that come to nothing in the background. -/
def backgroundDeaf : List Nat := [2, 3]

/-- Starts shells for a command in the background; the answer is their processes, the last one
first. -/
def forkBackground (m : Machine) (p : Process) (s : State) (line : Nat) (c : Command)
    (redirects : List Redirect) : List Nat × Machine :=
  let q := { p with ignored := backgroundDeaf ++ p.ignored }
  let s := { s with deaf := backgroundDeaf ++ s.deaf }
  let input := some (Endpoint.device .null)
  match c with
  | .pipeline commands => forkAll q s false input [] m commands
  | c =>
    let c := if redirects.isEmpty then c else .subshell line c redirects
    let (pid, m) := fork m q s [.run c false] (join 0 input p.descriptors)
    ([pid], m)

/-- The number of the next job: the least one that no job needs any more. -/
def nextNumber (jobs : List Job) : Nat :=
  let needed := (jobs.filter fun j => !(j.isDone && j.waited)).map (·.number)
  (((List.range (needed.length + 1)).map (· + 1)).find? fun n => !needed.contains n).getD 1

/-- The jobs of a shell with one more, of processes of which the last one comes first. -/
def addJob (pids : List Nat) (jobs : List Job) : List Job :=
  let number := nextNumber jobs
  { number, processes := pids.reverse.map fun pid => (pid, none) } ::
    jobs.filter fun j => j.number != number

/-! ## Ends of processes -/

/-- What has been learnt of processes that have ended. -/
structure Learnt where
  machine : Machine
  state : State
  /-- The job for which the shell waits. -/
  job : Option Job
  any : Bool := false

/-- Learns how a process has ended. What a signal has done to the job for which the shell waits is
said. -/
def learn (p : Process) (l : Learnt) (q : Process) : Learnt :=
  match q.ended, l.job.all Job.isDone && l.job.isSome with
  | none, _ => l
  | _, true => l
  | some e, false =>
    let awaited := l.job.any (·.has q.pid)
    let remark := match awaited, e with
      | true, .signaled n => (SignalName.remark? n.toNat).map fun text => bytesOf (text ++ "\n")
      | _, _ => none
    { machine := (remark.elim l.machine (complain l.machine p)).forget q.pid
      state := { l.state with jobs := l.state.jobs.map (Job.note q.pid e) }
      job := l.job.map (Job.note q.pid e)
      any := true }

/-- Learns of processes that have ended, until all of a job have. -/
def reap (m : Machine) (p : Process) (s : State) (job : Option Job) : Learnt :=
  let children := m.processes.filter fun q => q.parent == p.pid && q.ended.isSome
  children.foldl (learn p) { machine := m, state := s, job }

/-- Waits; none as long as there is nothing new. -/
def await (m : Machine) (p : Process) (s : State) : Waiting → Option Machine
  | .command j =>
    let l := reap m p s (some j)
    let j := l.job.getD j
    if j.isDone then some (put l.machine p { l.state with status := j.status })
    else if l.any then some (next l.machine p l.state [.await (.command j)])
    else none
  | .jobs [] => some (put m p s)
  | .jobs (n :: rest) =>
    match s.jobs.find? fun j => j.number == n with
    | none => some (next m p s [.await (.jobs rest)])
    | some j =>
      let l := reap m p s (some j)
      let j := l.job.getD j
      if j.isDone then
        let jobs := l.state.jobs.map fun k => if k.number == n then { k with waited := true } else k
        some (next l.machine p { l.state with jobs, status := j.status } [.await (.jobs rest)])
      else interrupted l (.jobs (n :: rest))
  | .all =>
    let l := reap m p s none
    if l.state.jobs.all Job.isDone then
      let jobs := l.state.jobs.map fun j => { j with waited := true }
      some (put l.machine p { l.state with jobs })
    else interrupted l .all
where
  /-- A signal with an action ends the waiting. -/
  interrupted (l : Learnt) (how : Waiting) : Option Machine :=
    match l.state.arrived with
    | n :: _ => some (put l.machine p { l.state with status := 128 + n })
    | [] => if l.any then some (next l.machine p l.state [.await how]) else none

end Shell
end Rehearsal
end Parley
