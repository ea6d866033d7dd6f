import Parley.ExitStatus
import Parley.Rehearsal.Program

/-!
# Parley.Rehearsal.Machine

A small machine with a clock, processes, pipes and a disk. Nothing happens on it by itself: its
state goes on by the steps of its processes and by what its host does to it. Descriptors are joined
to pipes and files; a pipe that nobody can write to any more has an end, and writing to a pipe that
nobody reads fails.

* `Machine.read`, `Machine.write`: what a process gets from its descriptors and gives to them.
* `Machine.openFile`: joins to what stands on the disk.
* `Machine.start`, `Machine.finish`, `Machine.signal`: the life of processes.
-/

namespace Parley
namespace Rehearsal

/-- A file that somebody reads or writes, and how far. -/
structure OpenFile where
  number : Nat
  offset : Nat := 0
  reads : Bool := false
  writes : Bool := false
  /-- Whether all is written at the end. -/
  appends : Bool := false

structure Process where
  pid : Nat
  parent : Nat
  program : Program
  descriptors : Descriptors
  /-- What descriptors were joined to before they were joined to something else for a while. -/
  kept : List Endpoint := []
  /-- The name by which the program was called. -/
  called : Bytes := []
  environment : Inherited := []
  directory : Path := ["root"]
  /-- What new files do not allow. -/
  mask : Nat := 0o022
  /-- Signals that do nothing to the process. -/
  ignored : List Nat := []
  stopped : Bool := false
  /-- Signals that have come while the process was stopped. -/
  held : List Nat := []
  /-- How the process ended. -/
  ended : Option ExitStatus := none

structure Machine where
  disk : Disk := { standIn := "v4-repl-sim" }
  clock : Duration := .zero
  processes : List Process := []
  /-- The bytes that are in each pipe. -/
  pipes : List (Nat × Bytes) := []
  opened : List (Nat × OpenFile) := []
  nextPid : Nat := 100
  /-- The number of the next pipe or opened file. -/
  nextNumber : Nat := 0
  /-- The pipes that the host can write to. -/
  hostWrites : List Nat := []
  /-- The pipes that the host reads. -/
  hostReads : List Nat := []

namespace Machine

/-- The number of bytes at which a pipe takes no more. -/
def pipeRoom : Nat := 65536

def process? (m : Machine) (pid : Nat) : Option Process := m.processes.find? fun p => p.pid == pid

def setProcess (m : Machine) (p : Process) : Machine :=
  { m with processes := m.processes.map fun q => if q.pid == p.pid then p else q }

def content (m : Machine) (pipe : Nat) : Bytes := (m.pipes.lookup pipe).getD []

def setContent (m : Machine) (pipe : Nat) (bs : Bytes) : Machine :=
  { m with pipes := m.pipes.map fun q => if q.1 == pipe then (pipe, bs) else q }

/-- Whether some process or the host holds an end. -/
def isHeld (m : Machine) (host : List Nat) (pipe : Nat) (e : Endpoint) : Bool :=
  host.contains pipe || m.processes.any fun p =>
    p.kept.contains e || p.descriptors.any fun d => d.2 == e

def hasWriter (m : Machine) (pipe : Nat) : Bool := m.isHeld m.hostWrites pipe (.writing pipe)

def hasReader (m : Machine) (pipe : Nat) : Bool := m.isHeld m.hostReads pipe (.reading pipe)

/-- A new pipe with some bytes in it. -/
def newPipe (m : Machine) (bs : Bytes) : Nat × Machine :=
  let n := m.nextNumber
  (n, { m with pipes := (n, bs) :: m.pipes, nextNumber := n + 1 })

/-- Forgets pipes that nobody holds any more. -/
def dropPipes (m : Machine) : Machine :=
  { m with pipes := m.pipes.filter fun q => m.hasReader q.1 || m.hasWriter q.1 }

/-! ## Files -/

/-- Joins to a file. -/
def joinFile (m : Machine) (f : OpenFile) : Endpoint × Machine :=
  let n := m.nextNumber
  (.file n, { m with opened := (n, f) :: m.opened, nextNumber := n + 1 })

/-- How an opened file is used. -/
def usage (opening : Shell.Opening) (number : Nat) : OpenFile :=
  match opening with
  | .read => { number, reads := true }
  | .append => { number, writes := true, appends := true }
  | .readWrite => { number, reads := true, writes := true }
  | _ => { number, writes := true }

def empties (opening : Shell.Opening) : Bool := opening == .write || opening == .overwrite

/-- Joins to what stands at a path; a file that is to be written is made if it is not there. -/
def openFile (m : Machine) (p : Process) (opening : Shell.Opening) (path : String) :
    Except SystemError (Endpoint × Machine) := do
  let spot ← m.disk.find p.directory path
  match spot.entry with
  | none =>
    if opening == .read then throw SystemError.noSuchFile
    else
      let (number, disk) := m.disk.create spot.path (0o666 - (0o666 &&& p.mask))
      return { m with disk }.joinFile (usage opening number)
  | some .directory =>
    if opening == .read then return (.directory, m) else throw SystemError.isDirectory
  | some (.device .terminal) => throw SystemError.noDevice
  | some (.device d) => return (.device d, m)
  | some (.stream descriptor) =>
    match p.descriptors.lookup descriptor with
    | some e => return (e, m)
    | none => throw SystemError.noSuchFile
  | some (.file number _) =>
    let disk := if empties opening then m.disk.setContent number [] else m.disk
    return { m with disk }.joinFile (usage opening number)
  | some (.executable _) =>
    if opening == .read then return m.joinFile (usage opening 0) else throw SystemError.textBusy
  | some (.link _) => throw SystemError.tooManyLinks

/-! ## Reading and writing -/

inductive Got
  | bytes (bs : Bytes) (m : Machine)
  | atEnd
  /-- Nothing is there yet. -/
  | notYet
  /-- The descriptor cannot be read. -/
  | refused (e : SystemError)

/-- Up to `most` bytes from a pipe. -/
def readPipe (m : Machine) (pipe most : Nat) : Got :=
  let bs := m.content pipe
  if bs.isEmpty then (if m.hasWriter pipe then .notYet else .atEnd)
  else .bytes (bs.take most) (m.setContent pipe (bs.drop most))

/-- Bytes from an opened file: as many of those that follow as `wanted` takes. -/
def readFile (m : Machine) (opened : Nat) (wanted : Bytes → Nat) : Got :=
  match m.opened.lookup opened with
  | none => .refused .badDescriptor
  | some f =>
    if !f.reads then .refused .badDescriptor
    else
      let left := (m.disk.contentOf f.number).drop f.offset
      let bs := left.take (wanted left)
      if bs.isEmpty then .atEnd
      else
        let f := { f with offset := f.offset + bs.length }
        .bytes bs { m with opened := (opened, f) :: m.opened.filter fun o => o.1 != opened }

def read (m : Machine) (p : Process) (descriptor most : Nat) : Got :=
  match p.descriptors.lookup descriptor with
  | some (.reading pipe) => m.readPipe pipe most
  | some (.device .null) => .atEnd
  | some (.device _) => .bytes (List.replicate most 0) m
  | some (.file opened) => m.readFile opened fun _ => most
  | some .directory => .refused SystemError.isDirectory
  | _ => .refused .badDescriptor

/-- The bytes of one line from a descriptor, as many as are there. -/
def readLine (m : Machine) (p : Process) (descriptor : Nat) : Got :=
  match p.descriptors.lookup descriptor with
  | some (.reading pipe) => m.readPipe pipe (upToLine (m.content pipe)).length
  | some (.device .null) => .atEnd
  | some (.device _) => .notYet
  | some (.file opened) => m.readFile opened fun left => (upToLine left).length
  | some .directory => .refused SystemError.isDirectory
  | _ => .refused .badDescriptor

inductive Put
  | done (m : Machine)
  /-- Nobody reads the pipe. -/
  | broken
  /-- The pipe is full. -/
  | notYet
  | refused (e : SystemError)

/-- A text with bytes of another one at some place. -/
def patch (text : Bytes) (offset : Nat) (bs : Bytes) : Bytes :=
  let front := text.take offset
  front ++ List.replicate (offset - front.length) 0 ++ bs ++ text.drop (offset + bs.length)

def writeFile (m : Machine) (opened : Nat) (bs : Bytes) : Put :=
  match m.opened.lookup opened with
  | none => .refused .badDescriptor
  | some f =>
    if !f.writes then .refused .badDescriptor
    else
      let text := m.disk.contentOf f.number
      let offset := if f.appends then text.length else f.offset
      let disk := m.disk.setContent f.number (patch text offset bs)
      let f := { f with offset := offset + bs.length }
      .done { m with disk, opened := (opened, f) :: m.opened.filter fun o => o.1 != opened }

def write (m : Machine) (p : Process) (descriptor : Nat) (bs : Bytes) : Put :=
  match p.descriptors.lookup descriptor with
  | some (.writing pipe) =>
    if bs.isEmpty then .done m
    else if !m.hasReader pipe then .broken
    else
      let held := m.content pipe
      if pipeRoom ≤ held.length then .notYet else .done (m.setContent pipe (held ++ bs))
  | some (.device .full) => if bs.isEmpty then .done m else .refused .noSpace
  | some (.device _) => .done m
  | some (.file opened) => if bs.isEmpty then .done m else m.writeFile opened bs
  | _ => if bs.isEmpty then .done m else .refused .badDescriptor

/-- Goes on in the file of a descriptor behind so many bytes. -/
def seek (m : Machine) (p : Process) (descriptor count : Nat) : Machine :=
  match p.descriptors.lookup descriptor with
  | some (.file opened) =>
    match m.opened.lookup opened with
    | some f =>
      { m with opened := (opened, { f with offset := f.offset + count }) ::
                 m.opened.filter fun o => o.1 != opened }
    | none => m
  | _ => m

/-! ## Processes -/

/-- Starts a process beside another one, on whose disk and in whose directory it stands. -/
def start (m : Machine) (p : Process) (program : Program) (descriptors : Descriptors)
    (environment : Inherited) (ignored : List Nat) : Nat × Machine :=
  let pid := m.nextPid
  let q : Process :=
    { pid, parent := p.pid, program, descriptors, kept := p.kept, environment
      directory := p.directory, mask := p.mask, ignored }
  (pid, { m with processes := m.processes ++ [q], nextPid := pid + 1 })

/-- Ends a process; its descriptors are closed with it. -/
def finish (m : Machine) (p : Process) (s : ExitStatus) : Machine :=
  (m.setProcess { p with ended := some s, descriptors := [], kept := [] }).dropPipes

/-- Forgets a process that has ended and of whose end everybody knows. -/
def forget (m : Machine) (pid : Nat) : Machine :=
  { m with processes := m.processes.filter fun p => p.pid != pid }

def pipeSignal : Nat := 13
def killSignal : Nat := 9
def termSignal : Nat := 15
def continueSignal : Nat := 18

/-- Signals that do nothing unless a process asks for them. -/
def quietSignals : List Nat := [17, 18, 23, 28]

/-- Signals that stop a process. -/
def stopSignals : List Nat := [19, 20, 21, 22]

/-- What a signal does to a process that has no plan for it. -/
def signalByDefault (m : Machine) (p : Process) (n : Nat) : Machine :=
  if quietSignals.contains n then m
  else if stopSignals.contains n then m.setProcess { p with stopped := true }
  else m.finish p (.signaled n)

/-- What a signal does to a process that runs. -/
def deliver (m : Machine) (pid n : Nat) : Machine :=
  match m.process? pid with
  | none => m
  | some p =>
    if p.ended.isSome then m
    else if n == killSignal then m.finish p (.signaled n)
    else if p.ignored.contains n then m
    else
      match p.program with
      | .shell s =>
        if (s.traps.lookup n).any fun action => !action.isEmpty then
          m.setProcess { p with program := .shell { s with arrived := s.arrived ++ [n] } }
        else m.signalByDefault p n
      | .actor a =>
        if n == termSignal && a.faults.ignoresTerm then m else m.signalByDefault p n
      | .tool _ => m.signalByDefault p n

/-- Sends a signal to a process. One that is stopped gets it when it goes on, unless the signal ends
it by force. -/
def signal (m : Machine) (pid n : Nat) : Machine :=
  match m.process? pid with
  | none => m
  | some p =>
    if n == 0 then m
    else if n == continueSignal then
      p.held.foldl (fun m n => m.deliver pid n)
        ((m.setProcess { p with stopped := false, held := [] }).deliver pid n)
    else if p.stopped && n != killSignal then m.setProcess { p with held := p.held ++ [n] }
    else m.deliver pid n

end Machine
end Rehearsal
end Parley
