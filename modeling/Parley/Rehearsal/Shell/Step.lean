import Parley.Rehearsal.Shell.Call
import Parley.Rehearsal.Shell.Split

/-!
# Parley.Rehearsal.Shell.Step

One step of a shell: it takes up the first of the things that it has still to do. A shell that has
to wait makes no step.

* `step`: one step of a shell.
-/

namespace Parley
namespace Rehearsal
namespace Shell

/-- Stops at a text that needs the output of a command, or fails. -/
def halted (m : Machine) (p : Process) (s : State) (again : Frame) : Halt → Machine
  | .output c t => ask m p s c t again
  | .fault text => failWith m p s text

/-! ## Commands -/

/-- Ends a command whose descriptors cannot be joined. -/
def unjoined (m : Machine) (p : Process) (s : State) (saved : Saved) (text : String)
    (special tested : Bool) : Machine :=
  let m := complain m p (s.complaint text)
  let p := rejoin saved p
  if special then fail m p s
  else next m p { s with status := failureStatus } (if tested then [] else [.check])

/-- Begins a command without structure: its words are expanded and its descriptors joined. -/
def simple (m : Machine) (p : Process) (s : State) (line : Nat)
    (assignments : List (String × Word)) (words : List Word) (redirects : List Redirect)
    (tested : Bool) : Machine :=
  let again : Frame := .run (.simple line assignments words redirects) tested
  let s := { s with line, outputStatus := 0 }
  let expansion : Expansion (List Bytes × List (Nat × Expand.Joint)) := do
    let words ← Expand.command (place m p) words
    let joints ← Expand.joints redirects
    return (words, joints)
  match Expand.run expansion s with
  | .error h => halted m p s again h
  | .ok ((words, joints), t) =>
    match joinAll m p t [] joints with
    | .ok (m, p, saved) =>
      next m p t (.prepared line words assignments saved tested ::
        if tested then [] else [.check])
    | .error (m, p, saved, text) =>
      let first := wordOf (words.headD [])
      let special := specialNames.contains first && (t.functions.lookup first).isNone
      unjoined m p t saved text special tested

/-- The body of the first arm with a pattern that stands for a text. -/
def chosen (text : Bytes) : List Arm → Expansion (Option Command)
  | [] => return none
  | (patterns, body) :: rest => do
    if ← fits patterns then return body else chosen text rest
where
  fits : List Word → Expansion Bool
    | [] => return false
    | w :: rest => do
      if Glob.fits (← Expand.pattern w) text then return true else fits rest

/-- A command in a shell of its own. The last thing that a shell does needs no other one. -/
def subshell (m : Machine) (p : Process) (s : State) (line : Nat) (body : Command)
    (redirects : List Redirect) (tested : Bool) : Machine :=
  let again : Frame := .run (.subshell line body redirects) tested
  if isLast s then
    let s := { s with line }
    match Expand.run (Expand.joints redirects) s with
    | .error h => halted m p s again h
    | .ok (joints, t) =>
      match joinAll m p t [] joints with
      | .ok (m, p, _) => put m p (beside t [.run body tested])
      | .error (m, p, _, text) => failWith m p t text
  else
    let (pid, m) := fork m p s [again] p.descriptors
    next m p s (.await (.command { processes := [(pid, none)] }) ::
      if tested then [] else [.check])

/-- Takes up a command; `s` is the shell without it. -/
def run (m : Machine) (p : Process) (s : State) (c : Command) (tested : Bool) : Machine :=
  let check : List Frame := if tested then [] else [.check]
  match c with
  | .simple line assignments words redirects =>
    simple m p s line assignments words redirects tested
  | .seq a b => next m p s [.run a tested, .run b tested]
  | .both a b => next m p s [.run a true, .ifSo b tested]
  | .either a b => next m p s [.run a true, .ifNot b tested]
  | .negated c => next m p s [.run c true, .negate]
  | .conditional test body otherwise => next m p s [.run test true, .branch body otherwise tested]
  | .loop untilDone test body => next m p s [.run test true, .tested untilDone test body 0 tested]
  | .forEach line name words body =>
    let s := { s with line }
    match Expand.run (Expand.fields (place m p) words) s with
    | .error h => halted m p s (.run (.forEach line name words body) tested) h
    | .ok (values, t) => next m p { t with status := 0 } [.each name values body tested]
  | .choose line word arms =>
    let s := { s with line }
    let expansion : Expansion (Option Command) := do
      chosen (← Expand.text .atStart word) arms
    match Expand.run expansion s with
    | .error h => halted m p s (.run (.choose line word arms) tested) h
    | .ok (some body, t) => next m p t [.run body tested]
    | .ok (none, t) => put m p { t with status := 0 }
  | .redirected line body redirects =>
    let s := { s with line }
    match Expand.run (Expand.joints redirects) s with
    | .error h => halted m p s (.run (.redirected line body redirects) tested) h
    | .ok (joints, t) =>
      match joinAll m p t [] joints with
      | .ok (m, p, saved) => next m p t [.run body tested, .rejoin saved]
      | .error (m, p, saved, text) => unjoined m p t saved text false tested
  | .subshell line body redirects => subshell m p s line body redirects tested
  | .background line body redirects =>
    let (pids, m) := forkBackground m p { s with line } line body redirects
    put m p { s with
      line, status := 0, lastBackground := pids.head?, jobs := addJob pids s.jobs }
  | .pipeline commands =>
    let s := commands.foldl (Lookup.foresee m.disk p.directory) s
    let (pids, m) := forkAll p s tested (p.descriptors.lookup 0) [] m commands
    let processes := pids.reverse.map fun pid => (pid, none)
    next m p s (.await (.command { processes }) :: check)
  | .define name body =>
    let others := s.functions.filter fun f => f.1 != name
    put m p { s with
      functions := (name, body) :: others, status := 0
      found := s.found.filter fun f => f.1 != name }

/-! ## Reading -/

/-- Gives variables their shares of a line, up to one that cannot have one. -/
def shareOut (s : State) : List (String × Bytes) → Except (State × String) State
  | [] => .ok s
  | (name, bs) :: rest =>
    if !isName name.toList then .error (s, Deed.badName name)
    else
      match s.setVar? name (some bs) false with
      | some s => shareOut s rest
      | none => .error (s, State.readOnlyText name)

/-- Ends the reading of a line. -/
def finishLine (m : Machine) (p : Process) (s : State) (raw : Bool) (names : List String)
    (line : Bytes) (status : Nat) : Machine :=
  let line := line.filter (· != 0)
  match shareOut s (Split.shares s.separators names (Split.marked raw line)) with
  | .ok s => put m p { s with status }
  | .error (s, text) =>
    put (complain m p ({ s with speaker := some "read" }.complaint text)) p
      { s with status := failureStatus }

/-- Reads on in a line; `taken` holds what has been read, the last byte first. -/
def line (m : Machine) (p : Process) (s : State) (raw : Bool) (names : List String)
    (taken : Bytes) : Option Machine :=
  match m.readLine p 0 with
  | .bytes bs m =>
    match bs.reverse ++ taken with
    | 10 :: before =>
      if !raw && Split.goesOn before.reverse then
        some (next m p s [.line raw names before.tail])
      else some (finishLine m p s raw names before.reverse 0)
    | taken => some (next m p s [.line raw names taken])
  | .atEnd => some (finishLine m p s raw names taken.reverse 1)
  | .refused _ => some (finishLine m p s raw names taken.reverse 1)
  | .notYet =>
    if s.arrived.isEmpty then none else some (finishLine m p s raw names taken.reverse 1)

/-- How many bytes of a script are read at once. -/
def scriptPiece : Nat := 8192

/-- Takes up what is left of a script, of which more may come. -/
def stream (m : Machine) (p : Process) (s : State) (source : Source) : Option Machine :=
  match source.next s.aliases with
  | .error .unfinished =>
    match m.read p 0 scriptPiece with
    | .bytes bs m => some (next m p s [.stream { source with rest := source.rest ++ letters bs }])
    | .notYet => none
    | _ => some (next m p s [.stream { source with ended := true }])
  | .error (.wrong line text) => some (failWith m p { s with line } text)
  | .ok .ended => some (put m p s)
  | .ok (.commands c rest _) =>
    let commands := (c.filter fun _ => !s.isOn .noexec).toList.map fun c => Frame.run c false
    some (next m p s (commands ++ [.stream rest]))

/-- Takes up what is left of a script. -/
def script (m : Machine) (p : Process) (s : State) (source : Source) (tested : Bool) : Machine :=
  match source.next s.aliases with
  | .error .unfinished => put m p s
  | .error (.wrong line text) => failWith m p { s with line } text
  | .ok .ended => put m p s
  | .ok (.commands c rest last) =>
    let commands := (c.filter fun _ => !s.isOn .noexec).toList.map fun c => Frame.run c tested
    next m p s (commands ++ if last then [] else [.script rest tested])

/-! ## Steps -/

/-- Takes the output of a command. -/
def gather (m : Machine) (p : Process) (s : State) (pid descriptor : Nat) (taken : Bytes) :
    Option Machine :=
  match m.read p descriptor Machine.pipeRoom with
  | .bytes bs m => some (next m p s [.gather pid descriptor (taken ++ bs)])
  | .notYet => none
  | _ =>
    let p := rejoin [(descriptor, none)] p
    some (next m p s [.await (.command { processes := [(pid, none)] }), .answer taken s.status])

/-- Takes up something that is still to be done; `s` is the shell without it. -/
def takeUp (m : Machine) (p : Process) (s : State) (f : Frame) : Option Machine :=
  match f with
  | .script source tested => some (script m p s source tested)
  | .stream source => stream m p s source
  | .run c tested =>
    some (if s.isOn .noexec then put m p { s with status := 0 } else run m p s c tested)
  | .prepared line words assignments saved tested =>
    call m p s line words assignments saved tested
  | .ifSo c tested => some (next m p s (if s.status == 0 then [.run c tested] else []))
  | .ifNot c tested => some (next m p s (if s.status == 0 then [] else [.run c tested]))
  | .negate => some (put m p { s with status := if s.status == 0 then 1 else 0 })
  | .branch body otherwise tested =>
    if s.status == 0 then some (next m p s [.run body tested])
    else
      match otherwise with
      | some c => some (next m p s [.run c tested])
      | none => some (put m p { s with status := 0 })
  | .tested untilDone test body last tested =>
    if (s.status == 0) != untilDone then
      some (next m p s [.run body tested, .looped untilDone test body tested])
    else some (put m p { s with status := last })
  | .looped untilDone test body tested =>
    some (next m p s [.run test true, .tested untilDone test body s.status tested])
  | .each _ [] _ _ => some (put m p s)
  | .each name (v :: vs) body tested =>
    match s.setVar? name (some v) false with
    | some s => some (next m p s [.run body tested, .each name vs body tested])
    | none => some (failWith m p s (State.readOnlyText name))
  | .check =>
    if s.isOn .errexit && s.status != 0 then some (leave m p s s.status) else some (put m p s)
  | .status n => some (put m p { s with status := n })
  | .line raw names taken => line m p s raw names taken
  | .await how => await m p s how
  | .gather pid descriptor taken => gather m p s pid descriptor taken
  | .answer output status =>
    some (put m p { s with answers := s.answers ++ [(output, s.status)], status })
  | .file => some (put m p s)
  | .guard => some (put m p s)
  | .rejoin saved => some (put m (rejoin saved p) s)
  | f =>
    let (p, s) := giveUp p s f
    some (put m p s)

/-- Ends a shell, after the action for its end. -/
def finish (m : Machine) (p : Process) (s : State) : Machine :=
  let code := s.leaving.getD s.status
  match s.traps.lookup 0 with
  | none => m.finish p (.exited ((code % 256 : Nat) : Int))
  | some action =>
    put m p { s with
      traps := Deed.forgetTraps [0] s.traps, leaving := some code
      frames := [.script (.ofBytes action) false] }

/-- Takes up the action for a signal that has come; `s` is the shell without that signal. -/
def heed (m : Machine) (p : Process) (s : State) (n : Nat) : Machine :=
  match s.traps.lookup n with
  | some action => next m p s [.script (.ofBytes action) false, .status s.status]
  | none => put m p s

/-- Whether a shell is between two commands. -/
def isBetween (s : State) : Bool :=
  match s.frames with
  | .prepared .. :: _ => false
  | .check :: _ => false
  | .line .. :: _ => false
  | .await _ :: _ => false
  | .gather .. :: _ => false
  | .answer .. :: _ => false
  | .settle .. :: _ => false
  | _ => true

/-- One step of a shell; none while it has to wait. -/
def step (m : Machine) (p : Process) (s : State) : Option Machine :=
  match s.arrived, isBetween s with
  | n :: arrived, true => some (heed m p { s with arrived } n)
  | _, _ =>
    match s.frames with
    | [] => some (finish m p s)
    | f :: frames => takeUp m p { s with frames } f

end Shell
end Rehearsal
end Parley
