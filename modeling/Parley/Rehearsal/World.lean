import Parley.Host
import Parley.Rehearsal.Schedule

/-!
# Parley.Rehearsal.World

A host without a machine: programs run on the machine of a rehearsal, and time passes only where
somebody waits.

* `World`: the machine with the program that a session has started on it.
* `World.host`: the services of a host.
-/

namespace Parley
namespace Rehearsal

structure World where
  machine : Machine := {}
  /-- The variables that programs inherit. -/
  environment : Environment := {}
  /-- The number of the program that was started. -/
  pid : Nat := 0
  /-- The pipes to the program and from it. -/
  input : Nat := 0
  output : Nat := 0
  errors : Nat := 0
  /-- What was shown, the last piece first. -/
  pieces : List Bytes := []

namespace World

/-- What was shown. -/
def shown (w : World) : Bytes := w.pieces.reverse.flatten

def display (bs : Bytes) (w : World) : World := { w with pieces := bs :: w.pieces }

/-- Whether a text can be handed to a program. -/
def isPassable (s : String) : Bool := !s.toList.contains '\x00'

/-- The directory in which programs begin. -/
def home : Path := ["root"]

def notPassable : SystemError := .described .invalidInput "nul byte found in provided data"

/-- The variables of an environment as programs see them. -/
def inherited (e : Environment) : Inherited := e.vars.map fun v => (utf8 v.1, utf8 v.2)

/-- Starts a program whose streams are pipes of the host. -/
def startProgram (c : Command) (path : String) (x : Executable) (w : World) : World :=
  let e := inherited (w.environment.overlay c.environment)
  let (input, m) := w.machine.newPipe []
  let (output, m) := m.newPipe []
  let (errors, m) := m.newPipe []
  let ds := [(0, .reading input), (1, .writing output), (2, .writing errors)]
  let p : Process := { pid := m.nextPid, parent := 0, program := .tool (.print [] [] 0)
                       descriptors := ds }
  let m := { m with
    processes := m.processes ++ [p], nextPid := p.pid + 1
    hostWrites := input :: m.hostWrites, hostReads := output :: errors :: m.hostReads }
  let m := m.run p path x ((c.binary :: c.arguments).map utf8) e
  { w with machine := m, pid := p.pid, input, output, errors }

/-- The path or name of a program as the machine knows it. -/
def nameOf (c : Command) : String := wordOf (utf8 c.binary)

/-- The directories in which programs are looked for. -/
def searchPath (c : Command) (w : World) : String :=
  Machine.searchPath (inherited (w.environment.overlay c.environment))

def launch (c : Command) (w : World) : Except SystemError (Option Nat) × World :=
  let texts := c.binary :: c.arguments ++ c.environment.vars.flatMap fun v => [v.1, v.2]
  if !texts.all isPassable then (.error notPassable, w)
  else
    match w.machine.disk.locate home (searchPath c w) (nameOf c) with
    | .error e => (.error e, w)
    | .ok (path, x) =>
      let w := startProgram c path x w
      (.ok (some w.pid), w)

def write (bs : Bytes) (w : World) : Except SystemError Unit × World :=
  if bs.isEmpty then (.ok (), w)
  else if w.machine.hasReader w.input then
    let m := w.machine.setContent w.input (w.machine.content w.input ++ bs)
    (.ok (), { w with machine := m })
  else (.error .brokenPipe, w)

/-- How many bytes are read at once. -/
def readSize : Nat := 4096

/-- Whether a pipe has something to read, its end among that. -/
def isReady (pipe : Nat) (m : Machine) : Bool := !(m.content pipe).isEmpty || !m.hasWriter pipe

/-- What there is to read in a pipe. -/
def arrival? (stream : Stream) (pipe : Nat) (w : World) : Option (Arrival × World) :=
  match w.machine.readPipe pipe readSize with
  | .bytes bs m => some (.chunk stream bs, { w with machine := m })
  | .atEnd => some (.chunk stream [], w)
  | _ => none

/-- Lets time go on. -/
def pass (done : Machine → Bool) (allowed : Duration) (w : World) : World :=
  { w with machine := w.machine.runUntil done allowed }

def read (withErrors : Bool) (allowed : Duration) (w : World) : Arrival × World :=
  let w := w.pass (fun m => isReady w.output m || (withErrors && isReady w.errors m)) allowed
  match w.arrival? .output w.output with
  | some a => a
  | none =>
    if withErrors then (w.arrival? .errors w.errors).getD (.nothing, w) else (.nothing, w)

def readErrors (allowed : Duration) (w : World) : Arrival × World :=
  let w := w.pass (isReady w.errors) allowed
  (w.arrival? .errors w.errors).getD (.nothing, w)

def closeInput (w : World) : World :=
  { w with machine := { w.machine with hostWrites := w.machine.hostWrites.filter (· != w.input) } }

/-- Reads no more from a pipe. -/
def closeRead (pipe : Nat) (w : World) : World :=
  { w with machine := { w.machine with hostReads := w.machine.hostReads.filter (· != pipe) } }

/-- How the program has ended. -/
def status? (pid : Nat) (m : Machine) : Option ExitStatus := (m.process? pid).bind (·.ended)

def await (allowed : Duration) (w : World) : Ending × World :=
  let w := w.pass (fun m => (status? w.pid m).isSome) allowed
  match status? w.pid w.machine with
  | some s => (.ended s, w)
  | none => (.running, w)

def signalTo (n : Nat) (w : World) : Except SystemError Unit × World :=
  (.ok (), { w with machine := w.machine.signal w.pid n })

/-- The host of a rehearsal. -/
def host : Host World where
  launch := launch
  now w := w.machine.clock
  write := write
  read := read
  readErrors := readErrors
  closeInput := closeInput
  closeOutput w := w.closeRead w.output
  closeErrors w := w.closeRead w.errors
  await := await
  signal s w := w.signalTo s.number
  kill w := w.signalTo Machine.killSignal
  reap w := (.ok ((status? w.pid w.machine).getD .unknown), w)
  display := display

/-- A world in which the stand-in is at a path. -/
def fresh (standIn : String) (e : Environment) : World :=
  { machine := { disk := { standIn } }, environment := e }

end World
end Rehearsal
end Parley
