import Parley.Rehearsal.Shell.Reader
import Parley.Rehearsal.Shell.Unwind
import Parley.Rehearsal.Start

/-!
# Parley.Rehearsal.Shell.Call

Runs a command whose words are known and whose descriptors are joined: a function, a command of the
shell's own, or a program. A program runs in a process beside the shell. The last thing that a shell
does runs in its place instead, so that a signal to the shell reaches the command.

* `call`: runs a command.
-/

namespace Parley
namespace Rehearsal
namespace Shell

/-- Stops to get the output of a command, and tries again after that. -/
def ask (m : Machine) (p : Process) (s : State) (c : Command) (t : State) (again : Frame) :
    Machine :=
  let (pipe, m) := m.newPipe []
  let ds := join 1 (some (.writing pipe)) p.descriptors
  let (pid, m) := fork m p { t with frames := s.frames } [.run c false] ds
  let descriptor := 10 + (p.descriptors.map (·.1)).foldl max 0
  let p := { p with descriptors := join descriptor (some (.reading pipe)) p.descriptors }
  next m p s [.gather pid descriptor [], again]

/-- A command that is being run. -/
structure Calling where
  name : String
  arguments : List Bytes
  /-- What descriptors were joined to before. -/
  saved : Saved
  /-- Whether variables are given back afterwards. -/
  hasLocals : Bool
  /-- Whether a failure ends the shell. -/
  special : Bool
  tested : Bool

namespace Calling

/-- What is to be done behind the command. -/
def after (c : Calling) : Frame := .settle c.saved c.hasLocals

/-- Ends the command at once. -/
def finish (c : Calling) (m : Machine) (p : Process) (s : State) : Machine :=
  put m (rejoin c.saved p) (if c.hasLocals then s.endLocals else s)

/-! ## Programs -/

/-- Why a program cannot be run, and the status that this gives. -/
def refusal (name : String) (e : SystemError) : String × Nat :=
  let hasSlash := name.toList.contains '/'
  let absent := e == .noSuchFile || e == .notDirectory
  let reason := if name == "" then SystemError.accessDenied.reason
    else if absent then "not found" else e.reason
  let status := if !hasSlash || absent || e == .nameTooLong || e == .tooManyLinks then 127 else 126
  (name ++ ": " ++ reason, status)

/-- Where a program is found; one that was found before is remembered. -/
def locate (m : Machine) (p : Process) (s : State) (searchPath name : String) :
    Except SystemError (String × Executable) :=
  match s.found.lookup name with
  | some path => (m.disk.findAt p.directory path).map fun e => (path, e)
  | none => m.disk.locate p.directory searchPath name

/-- Runs a program. -/
def program (c : Calling) (m : Machine) (p : Process) (s : State) (searchPath : String) :
    Machine :=
  let words := bytesOf c.name :: c.arguments
  match locate m p s searchPath c.name with
  | .error e =>
    let (text, status) := refusal c.name e
    c.finish (complain m p (s.complaint text)) p { s with status }
  | .ok (path, e) =>
    let environment := s.inherited
    if isLast s then m.run p path e words environment
    else
      let s := Lookup.remember s c.name path
      let (pid, m) := m.start p (.tool (.print [] [] 0)) p.descriptors environment p.ignored
      let m := match m.process? pid with
        | some q => m.run q path e words environment
        | none => m
      next m p s (.await (.command { processes := [(pid, none)] }) :: [c.after])

/-- Puts a program in the place of the shell. -/
def replace (m : Machine) (p : Process) (s : State) (words : List Bytes) : Machine :=
  let name := wordOf (words.headD [])
  match locate m p s s.searchPath name with
  | .error e =>
    let (text, status) := refusal name e
    leave (complain m p (s.complaint text)) p s status
  | .ok (path, e) => m.run p path e words s.inherited

/-! ## Own commands -/

/-- Writes for a command of the shell and ends it; none while there is no room. -/
def write (c : Calling) (m : Machine) (p : Process) (s : State) (output complaint : Bytes) :
    Option Machine :=
  let m := complain m p complaint
  let failed : Machine :=
    let text := { s with speaker := some c.name }.complaint (c.name ++ ": I/O error")
    c.finish (complain m p text) p { s with status := 1 }
  if output.isEmpty then some (c.finish m p s)
  else
    match m.write p 1 output with
    | .done m => some (c.finish m p s)
    | .notYet => none
    | .refused _ => some failed
    | .broken =>
      if p.ignored.contains Machine.pipeSignal ||
          (s.traps.lookup Machine.pipeSignal).any fun a => !a.isEmpty then some failed
      else some (m.finish p (.signaled Machine.pipeSignal))

/-- A failure of the command. -/
def fault (c : Calling) (m : Machine) (p : Process) (s : State) (text : String) : Machine :=
  let m := complain m p ({ s with speaker := some c.name }.complaint text)
  if c.special then fail m (rejoin c.saved p) (if c.hasLocals then s.endLocals else s)
  else c.finish m p { s with status := failureStatus }

/-- The processes that a signal reaches. -/
def reached (m : Machine) : Target → List Nat
  | .process pid => if (m.process? pid).isSome then [pid] else []
  | .group 0 => (m.processes.filter fun q => q.ended.isNone).map (·.pid)
  | .group _ => []

/-- Sends a signal to processes; there is a complaint for each target that is none. -/
def signalAll (c : Calling) (m : Machine) (p : Process) (s : State) (n : Nat)
    (targets : List Target) : Machine :=
  let missing := targets.filter fun t => (reached m t).isEmpty
  let text := { s with speaker := some c.name }.complaint "No such process\n"
  let m := missing.foldl (fun m _ => complain m p text) m
  let m := c.finish m p { s with status := if missing.isEmpty then 0 else 1 }
  (targets.flatMap (reached m)).foldl (fun m pid => m.signal pid n) m

/-- The frames of a script that is run in the midst of a command; one without commands succeeds. -/
def nested (c : Calling) (s : State) (speaker : String) (script : Bytes) (isFile : Bool) : State :=
  let source := Source.ofBytes script
  let status := match source.next s.aliases with
    | .ok .ended => 0
    | _ => s.status
  { s with
    status, speaker := some speaker
    frames := .script source c.tested :: (if isFile then [Frame.file] else []) ++
      [.speak s.speaker] ++ (if c.special then [] else [Frame.guard]) ++ c.after :: s.frames }

/-- The script of a file, which is also looked for where programs are. -/
def findScript (m : Machine) (p : Process) (s : State) (path : String) :
    Except String (String × Bytes) :=
  if path.toList.contains '/' then
    match State.scriptAt m.disk p.directory path with
    | .ok script => .ok (path, script)
    | .error e => .error (State.cannotOpen path e)
  else
    let places := (s.searchPath.splitOn ":").map fun place =>
      if place == "" then path else place ++ "/" ++ path
    let found := places.findSome? fun place =>
      match (m.disk.find p.directory place).toOption.bind (·.entry) with
      | some (.file number _) => some (place, m.disk.contentOf number)
      | _ => none
    match found with
    | some f => .ok f
    | none => .error (path ++ ": not found")

/-- Does what a command of the shell comes to. -/
def perform (c : Calling) (m : Machine) (p : Process) (s : State) (d : Deed) : Option Machine :=
  match d with
  | .done s output complaint => c.write m p s output complaint
  | .fault text => some (c.fault m p s text)
  | .leave code => some (leave m (rejoin c.saved p) s code)
  | .skip loops again =>
    some (skip m (rejoin c.saved p) (if c.hasLocals then s.endLocals else s) loops again)
  | .comeBack code =>
    some (comeBack m (rejoin c.saved p) (if c.hasLocals then s.endLocals else s) code)
  | .heed s ignored heeded complaint =>
    let left := p.ignored.filter fun n => !heeded.contains n
    c.write m { p with ignored := ignored ++ left } s [] complaint
  | .signal n targets => some (c.signalAll m p s n targets)
  | .become [] =>
    let s := { s with status := 0 }
    some (put m (release c.saved p) (if c.hasLocals then s.endLocals else s))
  | .become words => some (replace m p { s with speaker := some c.name } words)
  | .readLine raw names => some (next m p s (.line raw names [] :: [c.after]))
  | .wait how status => some (next m p { s with status } (.await how :: [c.after]))
  | .script text => some (put m p (c.nested s c.name text false))
  | .file path =>
    match findScript m p s (wordOf path) with
    | .error text => some (c.fault m p s text)
    | .ok (path, script) => some (put m p (c.nested s path script true))
  | .go directory named told =>
    let s := Deed.arrive p.directory s named
    let output := if told then bytesOf (named ++ "\n") else []
    c.write m { p with directory } { s with status := 0 } output []
  | .mask bits => some (c.finish m { p with mask := bits } { s with status := 0 })

/-! ## Functions -/

/-- How many functions may be at work at the same time. -/
def deepest : Nat := 1000

/-- Runs a function. -/
def function (c : Calling) (m : Machine) (p : Process) (s : State) (body : Command) : Machine :=
  let depth := (s.frames.filter isCall).length
  if deepest ≤ depth then
    failWith m p s ("Maximum function recursion depth (" ++ toString deepest ++ ") reached")
  else
    let frames := .run body c.tested :: .call s.arguments s.optionIndex s.optionOffset :: [c.after]
    next m p { s with arguments := c.arguments, optionIndex := 1, optionOffset := 0 } frames

end Calling

/-! ## Commands -/

/-- Makes the assignments in front of a command. -/
def assignAll (hasLocals exported : Bool) : List (String × Word) → Expansion (List Bytes)
  | [] => return []
  | (name, w) :: rest => do
    let bs ← Expand.text .inValue w
    let e ← get
    let made := if hasLocals then e.state.makeLocal? name (some bs) true
      else e.state.setVar? name (some bs) exported
    match made with
    | some state => set { e with state }
    | none => Expand.fault (State.readOnlyText name)
    let others ← assignAll hasLocals exported rest
    return (bytesOf (name ++ "=") ++ bs) :: others

/-- What a shell that tells its commands says of one. -/
def trace (s : State) (words : List Bytes) : Bytes :=
  let lead := (s.value? "PS4").getD []
  let told := match Source.words (.ofBytes lead) with
    | .ok w =>
      match Expand.run (Expand.document w) s with
      | .ok (bs, _) => bs
      | .error _ => lead
    | .error _ => lead
  told ++ joinWith [32] words ++ [10]

/-- Runs a command; `s` is the shell without it. None while there is no room to write. -/
def call (m : Machine) (p : Process) (s : State) (line : Nat) (words : List Bytes)
    (assignments : List (String × Word)) (saved : Saved) (tested : Bool) : Option Machine :=
  let (direct, bareWords) := Expand.bareWords words
  let first := wordOf (words.headD [])
  let name := wordOf (bareWords.headD [])
  let body := if direct then none else s.functions.lookup name
  let special := body.isNone && specialNames.contains first
  let hasLocals := !words.isEmpty && !special
  let exported := name == "exec" && 1 < bareWords.length
  let inner := if hasLocals then { s with locals := [] :: s.locals } else s
  match Expand.run (assignAll hasLocals exported assignments) inner with
  | .error (.output c t) =>
    some (ask m p s c t (.prepared line words assignments saved tested))
  | .error (.fault text) => some (failWith m (rejoin saved p) s text)
  | .ok (made, t) =>
    let m := if s.isOn .xtrace then complain m (rejoin saved p) (trace t (made ++ words)) else m
    let c : Calling :=
      { name, arguments := bareWords.drop 1, saved, hasLocals, special, tested }
    match bareWords with
    | [] => some (c.finish m p { t with status := t.outputStatus })
    | _ =>
      match body with
      | some body => some (c.function m p t body)
      | none =>
        let around : Surroundings :=
          { disk := m.disk, directory := p.directory, mask := p.mask, descriptors := p.descriptors }
        match Deed.ofCommand? around t name c.arguments with
        | some d => c.perform m p t d
        | none => some (c.program m p t (if direct && wordOf (words.getD 1 []) == "-p" then
            Disk.defaultPath else t.searchPath))

end Shell
end Rehearsal
end Parley
