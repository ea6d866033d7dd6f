import Parley.Script.Progress

/-!
# Parley.Script.Play

Plays a script: starts a console, goes through the steps until one fails, and closes the console
whatever has happened. The failure of a step counts before a failure to close.

* `Stage`: what a script is played on.
* `Script.play`: plays a script.
-/

namespace Parley

/-- What a script is played on: consoles `κ` in a world `ω`, and somebody who is told of events. -/
structure Stage (κ ω : Type) where
  /-- Starts a console for a target. -/
  launch : String → ω → Except Failure κ × ω
  /-- How long a console waits for a pattern unless told otherwise. -/
  timeout : κ → Duration
  sendLine : String → κ × ω → Except Failure Unit × (κ × ω)
  expect : Pattern → Duration → κ × ω → Except Failure Excerpt × (κ × ω)
  close : κ × ω → Except Failure ExitStatus × (κ × ω)
  report : Event → ω → ω

namespace Stage

variable {κ ω : Type} (g : Stage κ ω)

/-- Tells of an event while a console runs. -/
def tell (e : Event) (s : κ × ω) : κ × ω := (s.1, g.report e s.2)

/-- Waits for patterns in order; the answer is what the last one took. -/
def expectAll (timeout : Duration) (last : Option Excerpt) :
    List Pattern → κ × ω → Except Failure (Option Excerpt) × (κ × ω)
  | [], s => (.ok last, s)
  | p :: rest, s =>
    match g.expect p timeout s with
    | (.ok excerpt, s) => expectAll timeout (some excerpt) rest s
    | (.error f, s) => (.error f, s)

/-- Sends the line of a step, if it has one. -/
def sendOf (step : Step) (s : κ × ω) : Except Failure Unit × (κ × ω) :=
  match step.send with
  | some line => g.sendLine line s
  | none => (.ok (), s)

/-- Waits for the end of the output, if a step asks for it. -/
def exitOf (step : Step) (timeout : Duration) (s : κ × ω) : Except Failure Unit × (κ × ω) :=
  if step.expectExit then
    match g.expect .endOfOutput timeout s with
    | (.ok _, s) => (.ok (), s)
    | (.error f, s) => (.error f, s)
  else (.ok (), s)

/-- Plays one step. -/
def playStep (step : Step) (s : κ × ω) : Except Failure (Option Excerpt) × (κ × ω) :=
  let timeout := step.timeout.getD (g.timeout s.1)
  match g.sendOf step s with
  | (.error f, s) => (.error f, s)
  | (.ok (), s) =>
    match g.expectAll timeout none step.expect s with
    | (.error f, s) => (.error f, s)
    | (.ok last, s) =>
      match g.exitOf step timeout s with
      | (.error f, s) => (.error f, s)
      | (.ok (), s) => (.ok last, s)

/-- Plays steps from a position in their script on; the answer is the names of the steps. -/
def playSteps (index : Nat) : List Step → κ × ω → Except Failure (List String) × (κ × ω)
  | [], s => (.ok [], s)
  | step :: rest, s =>
    match g.playStep step (g.tell (.stepStarted index step) s) with
    | (.error f, s) => (.error (.inStep index step.name f), g.tell (.stepFailed index step f) s)
    | (.ok last, s) =>
      match playSteps (index + 1) rest (g.tell (.stepPassed index step last) s) with
      | (.ok names, s) => (.ok (step.name :: names), s)
      | (.error f, s) => (.error f, s)

end Stage

/-- Plays a script for a target. -/
def Script.play {κ ω : Type} (g : Stage κ ω) (script : Script) (target : String) (w : ω) :
    Except Failure Report × ω :=
  match g.launch target (g.report (.scriptStarted script target) w) with
  | (.error f, w) => (.error f, w)
  | (.ok console, w) =>
    let (outcome, s) := g.playSteps 0 script.steps (console, w)
    let (closed, s) := g.close s
    match outcome, closed with
    | .ok passed, .ok status =>
      let report := { script := script.name, passed, status := some status }
      (.ok report, g.report (.scriptFinished report) s.2)
    | .ok _, .error f => (.error f, s.2)
    | .error f, _ => (.error f, s.2)

end Parley
