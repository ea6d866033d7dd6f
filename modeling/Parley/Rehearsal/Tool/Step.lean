import Parley.Rehearsal.Start

/-!
# Parley.Rehearsal.Tool.Step

One step of a tool.

* `Tool.step`: one step; none while the tool has to wait.
-/

namespace Parley
namespace Rehearsal
namespace Tool

/-- What comes of an attempt to write: more work, or the end of the process. -/
inductive Sent
  | on (m : Machine)
  | ended (m : Machine)

/-- Complains, if there is somebody to read it. -/
def complain (m : Machine) (p : Process) (text : Bytes) : Machine :=
  match m.write p 2 text with
  | .done m => m
  | _ => m

/-- Ends a tool that cannot write. -/
def cannotWrite (m : Machine) (p : Process) (e : SystemError) : Machine :=
  (complain m p (p.called ++ bytesOf (": write error: " ++ e.reason ++ "\n"))).finish p (.exited 1)

/-- Writes for a process; nobody to read ends it. None while there is no room. -/
def send (m : Machine) (p : Process) (descriptor : Nat) (bs : Bytes) : Option Sent :=
  match m.write p descriptor bs with
  | .done m => some (.on m)
  | .notYet => none
  | .refused e => some (.ended (cannotWrite m p e))
  | .broken =>
    some (.ended (if p.ignored.contains Machine.pipeSignal then cannotWrite m p .brokenPipe
      else m.finish p (.signaled Machine.pipeSignal)))

def goOn (m : Machine) (p : Process) (t : Tool) : Machine :=
  m.setProcess { p with program := .tool t }

/-- Goes on as another tool once something is written. -/
def andThen (m : Machine) (p : Process) (bs : Bytes) (t : Tool) : Option Machine :=
  (send m p 1 bs).map fun
    | .on m => goOn m p t
    | .ended m => m

/-- Ends once something is written. -/
def andLeave (m : Machine) (p : Process) (bs : Bytes) (code : Nat) : Option Machine :=
  (send m p 1 bs).map fun
    | .on m => m.finish p (.exited code)
    | .ended m => m

/-- The bytes of so many lines at the front, and how many lines are still wanted. -/
def takeLines : Nat → Nat → Bytes → Bytes × Nat
  | 0, left, _ => ([], left)
  | _ + 1, 0, _ => ([], 0)
  | fuel + 1, left + 1, bs =>
    if bs.isEmpty then ([], left + 1)
    else
      let line := upToLine bs
      if line.getLast? == some 10 then
        let (more, left) := takeLines fuel left (bs.drop line.length)
        (line ++ more, left)
      else (line, left + 1)

def readSize : Nat := 65536

/-- How many bytes are written at once. -/
def blockSize : Nat := 4096

/-- A machine on whose disk a file has a text. -/
def putFile (m : Machine) (p : Process) (path : Bytes) (appends : Bool) (bs : Bytes) : Machine :=
  { m with disk := m.disk.writeText p.directory p.mask (wordOf path) appends bs }

/-- How much of an output does not wait for more, as the surroundings of a process wish it. -/
def hurried (e : Inherited) (o : Outcome) : Nat :=
  match e.lookup (bytesOf "_STDBUF_O") with
  | some [48] => o.output.length
  | some [76] => o.output.length - (o.output.reverse.takeWhile (· != 10)).length
  | _ => o.flushed

/-- What a tool makes of its input so far: complaints come at once, and the rest in blocks. -/
def advance (m : Machine) (p : Process) (make : Filter) (limit : Option Nat) (taken : Bytes)
    (ended : Bool) (sent errorsSent : Nat) : Machine :=
  let o := make taken (ended || limit.any fun n => decide (n ≤ taken.length))
  let m := complain m p (o.errors.drop errorsSent)
  let left := o.output.drop sent
  let errorsSent := max errorsSent o.errors.length
  match o.code with
  | some code =>
    let stage := Stage.writing left (some (o.rest, code))
    let m := o.files.foldl (fun m f => putFile m p f.1 f.2.1 f.2.2) m
    goOn m p (.filter make limit taken o.output.length errorsSent stage)
  | none =>
    let whole := max (left.length / blockSize * blockSize) (hurried p.environment o - sent)
    let stage := if whole == 0 then Stage.reading else .writing (left.take whole) none
    goOn m p (.filter make limit taken (sent + whole) errorsSent stage)

/-- What a tool tells of the blocks that it has copied. -/
def blocksReport (b : Blocks) : Bytes :=
  let records := toString b.full ++ "+" ++ toString b.partly ++ " records "
  let unit := if b.bytes == 1 then " byte" else " bytes"
  bytesOf (records ++ "in\n" ++ records ++ "out\n" ++ toString b.bytes ++ unit ++
    " copied, 0.0001 s, " ++ toString (b.bytes / 100) ++ " MB/s\n")

/-- Copies the next of some blocks. -/
def copyBlock (m : Machine) (p : Process) (b : Blocks) : Option Machine :=
  let report (m : Machine) : Machine :=
    (complain m p (if b.silent then [] else blocksReport b)).finish p (.exited 0)
  if b.seek != 0 then
    some (goOn (m.seek p 1 b.seek) p (.blocks { b with seek := 0 }))
  else if b.left == some 0 then some (report m)
  else
    match m.read p 0 b.size with
    | .notYet => none
    | .bytes bs m =>
      if b.skip != 0 then some (goOn m p (.blocks { b with skip := b.skip - 1 }))
      else
        let whole := bs.length == b.size
        andThen m p (bs.map b.change) (.blocks { b with
          left := b.left.map (· - 1), full := b.full + if whole then 1 else 0
          partly := b.partly + if whole then 0 else 1, bytes := b.bytes + bs.length })
    | _ => some (report m)

/-- The code of a tool that has run commands, by the end of one more, with a complaint about an end
that ends the tool as well. -/
def seriesCode (name : Bytes) (code : Nat) (e : ExitStatus) : Nat × Option Bytes :=
  match e with
  | .exited 0 => (code, none)
  | .exited 255 => (124, some (name ++ bytesOf ": exited with status 255; aborting\n"))
  | .exited 126 => (126, some [])
  | .exited 127 => (127, some [])
  | .exited _ => (123, none)
  | .signaled n => (125, some (name ++ bytesOf (": terminated by signal " ++ toString n ++ "\n")))
  | .unknown => (125, some [])

/-- Begins the next of some commands. -/
def beginNext (m : Machine) (p : Process) (words : Words) (rest : List Words) (told : Bool)
    (code : Nat) : Machine :=
  let name := words.headD []
  let m := if told then complain m p (joinWith [32] words ++ [10]) else m
  match m.disk.locate p.directory (Machine.searchPath p.environment) (wordOf name) with
  | .error e =>
    let text := p.called ++ bytesOf ": " ++ name ++ bytesOf (": " ++ e.reason ++ "\n")
    (complain m p text).finish p (.exited (if e == .noSuchFile then 127 else 126))
  | .ok (path, e) =>
    let ds := (0, Endpoint.device .null) :: p.descriptors.filter fun d => d.1 != 0
    let (pid, m) := m.start p (.tool (.print [] [] 0)) ds p.environment p.ignored
    let m := match m.process? pid with
      | some q => m.run q path e words p.environment
      | none => m
    goOn m p (.series rest told (some (pid, name)) code)

/-- Goes on behind one of some commands. -/
def endOne (m : Machine) (p : Process) (rest : List Words) (told : Bool) (pid : Nat) (name : Bytes)
    (code : Nat) : Option Machine :=
  match (m.process? pid).bind (·.ended) with
  | none => none
  | some e =>
    let m := m.forget pid
    match seriesCode name code e with
    | (code, none) => some (goOn m p (.series rest told none code))
    | (code, some text) =>
      let text := if text.isEmpty then [] else p.called ++ bytesOf ": " ++ text
      some ((complain m p text).finish p (.exited code))

/-- Sends a signal to a program whose time is over. One that ends by force takes the tool with
it. -/
def endLimited (m : Machine) (p : Process) (child : Nat) (wake : Option Duration) (signal : Nat)
    (later : Option Duration) (late keepsStatus : Bool) : Option Machine :=
  match (m.process? child).bind (·.ended) with
  | some (.exited code) =>
    some ((m.forget child).finish p (.exited (if late && !keepsStatus then 124 else code)))
  | some (.signaled n) =>
    some ((m.forget child).finish p (if !late then .signaled n
      else .exited (if keepsStatus then 128 + n else 124)))
  | some .unknown => some ((m.forget child).finish p (.exited 125))
  | none =>
    if wake.any fun w => decide (w ≤ m.clock) then
      if signal == Machine.killSignal then
        some ((m.signal child signal).finish p (.signaled Machine.killSignal))
      else
        let wake := later.map fun d => m.clock + d
        let m := goOn m p (.limited child wake Machine.killSignal none true keepsStatus)
        some (m.signal child signal)
    else none

def step (m : Machine) (p : Process) (t : Tool) : Option Machine :=
  match t with
  | print output errors code => andLeave (complain m p errors) p output code
  | copy [] code => some (m.finish p (.exited code))
  | copy (.bytes bs :: rest) code => andThen m p bs (copy rest code)
  | copy (.missing complaint :: rest) code =>
    some (goOn (complain m p complaint) p (copy rest code))
  | copy (.input :: rest) code =>
    match m.read p 0 readSize with
    | .bytes bs m => andThen m p bs (copy (.input :: rest) code)
    | .atEnd => some (goOn m p (copy rest code))
    | .notYet => none
    | .refused e =>
      let text := p.called ++ bytesOf (": -: " ++ e.reason ++ "\n")
      some (goOn (complain m p text) p (copy rest 1))
  | share ds code (b :: bs) => some (goOn (complain m p (b :: bs)) p (share ds code []))
  | share ds code [] =>
    match m.read p 0 readSize with
    | .bytes bs m =>
      let m := ds.foldl (fun m d =>
        match m.write p d bs with
        | .done m => m
        | _ => m) m
      andThen m p bs (share ds code [])
    | .notYet => none
    | _ => some (m.finish p (.exited code))
  | first lines left =>
    if left == 0 then some (m.finish p (.exited 0))
    else
      match m.read p 0 (if lines then readSize else min left readSize) with
      | .bytes bs m =>
        let (out, left) := if lines then takeLines (bs.length + 1) left bs
          else (bs.take left, left - bs.length)
        andThen m p out (first lines left)
      | .atEnd => some (m.finish p (.exited 0))
      | .notYet => none
      | .refused e =>
        let text := p.called ++ bytesOf (": error reading 'standard input': " ++ e.reason ++ "\n")
        some ((complain m p text).finish p (.exited 1))
  | filter make limit taken sent errorsSent .fresh =>
    some (advance m p make limit taken false sent errorsSent)
  | filter _ _ _ _ _ (.writing bs (some (rest, code))) => andThen m p bs (copy rest code)
  | filter make limit taken sent errorsSent (.writing bs none) =>
    andThen m p bs (filter make limit taken sent errorsSent .reading)
  | filter make limit taken sent errorsSent .reading =>
    match m.read p 0 (limit.elim readSize fun n => min readSize (n - taken.length)) with
    | .bytes bs m => some (advance m p make limit (taken ++ bs) false sent errorsSent)
    | .notYet => none
    | _ => some (advance m p make limit taken true sent errorsSent)
  | blocks b => copyBlock m p b
  | sleep time none => some (goOn m p (sleep time (some (m.clock + time))))
  | sleep _ (some wake) => if wake ≤ m.clock then some (m.finish p (.exited 0)) else none
  | repeated bs => andThen m p bs (repeated bs)
  | batch plan told taken =>
    match m.read p 0 readSize with
    | .bytes bs m => some (goOn m p (batch plan told (taken ++ bs)))
    | .notYet => none
    | _ =>
      match plan taken with
      | .ok commands => some (goOn m p (series commands told none 0))
      | .error (complaint, code) => some ((complain m p complaint).finish p (.exited code))
  | series [] _ none code => some (m.finish p (.exited code))
  | series (words :: rest) told none code => some (beginNext m p words rest told code)
  | series rest told (some (pid, name)) code => endOne m p rest told pid name code
  | limited child wake signal later late keepsStatus =>
    endLimited m p child wake signal later late keepsStatus

end Tool
end Rehearsal
end Parley
