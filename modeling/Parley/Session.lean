import Parley.Host
import Parley.Session.Expectation
import Parley.Session.Phase
import Parley.Settings
import Parley.Window.Take

/-!
# Parley.Session

A dialogue with one console. Both its streams feed one window; an expectation takes its match from
the window and reads on until there is one. The end of the output is told from a console that is
only silent, and the end of the program is recorded once and never again.

* `Session.launch`: starts a console.
* `send`, `sendLine`: give it input.
* `expect`: waits for a pattern. The wait is counted in steps, since a host may be one on which
  output never ends; a wait that needs more steps than it is given has no result.
* `signal`, `close`: bring it to its end.
* `abandon`: gives it up without closing it.
-/

namespace Parley

/-- A session with one console. -/
structure Session where
  /-- The command that started the console, on one line. -/
  command : String
  /-- The number that signals are sent to. -/
  pid : Option Nat
  /-- The output that no expectation has taken yet. -/
  window : Window
  /-- How long an expectation waits unless it says otherwise. -/
  timeout : Duration
  lineEnding : LineEnding
  teardown : Teardown
  /-- Whether the output is shown as it comes. -/
  echo : Bool
  phase : Phase := .running
  inputOpen : Bool := true
  outputOpen : Bool := true
  errorsOpen : Bool := true
  /-- How the console ended, once that is known. -/
  status : Option ExitStatus := none
deriving DecidableEq, Repr

/-- A session on a host in some state. -/
structure Live (ω : Type) where
  session : Session
  world : ω

namespace Session

/-- How long the second stream is read once the first has ended. -/
def drainWait : Duration := .ofMillis 50

/-- How long to wait for the end of a console once its output has ended. -/
def reapWait : Duration := .ofMillis 200

/-- The largest number that a signal can be sent to. -/
def lastPid : Nat := 2147483647

/-- A session with a console that has just been started. -/
def fresh (s : Settings) (target : String) (pid : Option Nat) : Session where
  command := s.commandLine target
  pid := pid
  window := .ofCapacity s.capacity
  timeout := s.timeout
  lineEnding := s.lineEnding
  teardown := s.teardown
  echo := s.echo

/-- The unread output as text. -/
def unread (s : Session) : String := String.ofList s.window.shown

/-- The main parts of a session on one line. -/
def summary (s : Session) : String :=
  let pid := match s.pid with
    | some n => "Some(" ++ toString n ++ ")"
    | none => "None"
  "Session \x7b command: " ++ Text.quote s.command ++ ", pid: " ++ pid ++ ", state: " ++
    s.phase.caseText ++ ", eof: " ++ toString (!s.outputOpen) ++ ", .. \x7d"

/-- The command of some settings. -/
def commandOf (s : Settings) (target : String) : Command where
  binary := s.binary
  arguments := s.arguments target
  environment := s.environment

/-- Starts a console for a target. -/
def launch {ω : Type} (h : Host ω) (s : Settings) (target : String) (w : ω) :
    Except Failure Session × ω :=
  match h.launch (commandOf s target) w with
  | (.ok pid, w) => (.ok (fresh s target pid), w)
  | (.error e, w) => (.error (.launch (.ofSystem s.binary e)), w)

end Session

namespace Live

variable {ω : Type}

/-- Changes the session and leaves the host alone. -/
def update (f : Session → Session) (l : Live ω) : Live ω := { l with session := f l.session }

/-- Puts output into the window and shows it. -/
def takeIn (h : Host ω) (bytes : List UInt8) (l : Live ω) : Live ω :=
  { session := { l.session with window := l.session.window.append bytes }
    world := if l.session.echo then h.display bytes l.world else l.world }

/-- Waits for the end of the console and records it. While a session is being closed its phase
stays. -/
def collect (h : Host ω) (allowed : Duration) (l : Live ω) : Option ExitStatus × Live ω :=
  match l.session.status with
  | some status => (some status, l)
  | none =>
    match h.await allowed l.world with
    | (.ended status, w) =>
      let phase := if l.session.phase = .closing then .closing else .exited status
      (some status, { session := { l.session with status := some status, phase }, world := w })
    | (_, w) => (none, { l with world := w })

/-! ## Sending -/

/-- How messages name input that could not be sent. -/
def sendName (bytes : List UInt8) : String :=
  "<send " ++ String.ofList (Text.quoteChars (Utf8.lossy bytes)) ++ ">"

/-- Sends bytes to the console. -/
def send (h : Host ω) (bytes : List UInt8) (l : Live ω) : Except Failure Unit × Live ω :=
  if !l.session.inputOpen then (.error .sessionClosed, l)
  else
    match h.write bytes l.world with
    | (.ok (), w) => (.ok (), { l with world := w })
    | (.error e, w) =>
      let l := { l with world := w }
      if e.kind = .brokenPipe then
        let (status, l) := collect h Session.reapWait l
        (.error (.ended (sendName bytes) status l.session.unread), l)
      else (.error (.systemDuring "writing to process" e), l)

/-- Sends a line and what ends it. -/
def sendLine (h : Host ω) (line : String) (l : Live ω) : Except Failure Unit × Live ω :=
  send h (line ++ l.session.lineEnding.terminator).toUTF8.toList l

/-! ## Expecting -/

/-- Reads the second stream until it ends or is silent for a while. -/
def drain (h : Host ω) : Nat → Live ω → Option (Live ω)
  | 0, _ => none
  | steps + 1, l =>
    if !l.session.errorsOpen then some l
    else
      match h.readErrors Session.drainWait l.world with
      | (.chunk _ (b :: rest), w) => drain h steps (takeIn h (b :: rest) { l with world := w })
      | (.nothing, w) => some { l with world := w }
      | (_, w) =>
        some { session := { l.session with errorsOpen := false }, world := h.closeErrors w }

/-- Waits for output, takes in what comes, and notes the end of a stream. At the end of the first
stream the second one is read too, so that what a console reports as it ends is not lost. -/
def read (h : Host ω) (steps : Nat) (allowed : Duration) (l : Live ω) :
    Option (Except Failure Unit × Live ω) :=
  if !l.session.outputOpen then some (.ok (), l)
  else
    match h.read l.session.errorsOpen allowed l.world with
    | (.nothing, w) => some (.ok (), { l with world := w })
    | (.chunk .output [], w) =>
      (drain h steps
        { session := { l.session with outputOpen := false }, world := h.closeOutput w }).map
          fun l => (.ok (), l)
    | (.chunk .errors [], w) =>
      some (.ok (),
        { session := { l.session with errorsOpen := false }, world := h.closeErrors w })
    | (.chunk _ (b :: rest), w) => some (.ok (), takeIn h (b :: rest) { l with world := w })
    | (.fault e, w) => some (.error (.systemDuring "reading from process" e), { l with world := w })

/-- Takes something out of the window. -/
def takeOut (f : Window → Excerpt × Window) (l : Live ω) : Excerpt × Live ω :=
  let (excerpt, window) := f l.session.window
  (excerpt, { l with session := { l.session with window } })

/-- Waits on for a pattern. A match counts before the end of the output, and the end of the output
before the end of the time. -/
def await (h : Host ω) (e : Expectation) : Nat → Live ω → Option (Except Failure Excerpt × Live ω)
  | 0, _ => none
  | steps + 1, l =>
    match l.session.window.find? e.pattern with
    | some o =>
      let (excerpt, l) := takeOut (Window.take o) l
      some (.ok excerpt, l)
    | none =>
      if !l.session.outputOpen then
        let (status, l) := collect h Session.reapWait l
        if e.pattern.isEnd then
          let (excerpt, l) := takeOut Window.takeAll l
          some (.ok excerpt, l)
        else some (.error (.ended e.pattern.name status l.session.unread), l)
      else if e.isOverdue (h.now l.world) then
        some (.error (.timedOut e.allowed e.pattern.name l.session.unread), l)
      else
        match read h steps (e.remaining (h.now l.world)) l with
        | none => none
        | some (.ok (), l) => await h e steps l
        | some (.error f, l) => some (.error f, l)

/-- Waits for a pattern. -/
def expect (h : Host ω) (steps : Nat) (p : Pattern) (allowed : Duration) (l : Live ω) :
    Option (Except Failure Excerpt × Live ω) :=
  if l.session.phase = .closed then some (.error .sessionClosed, l)
  else await h { pattern := p, start := h.now l.world, allowed } steps l

/-! ## Ending -/

/-- Sends a signal to the console, unless it has ended. -/
def signal (h : Host ω) (s : Signal) (l : Live ω) : Except Failure Unit × Live ω :=
  match l.session.pid with
  | none => (.error .sessionClosed, l)
  | some pid =>
    if l.session.status.isSome then (.ok (), l)
    else if Session.lastPid < pid then
      (.error (.settings ("pid " ++ toString pid ++ " out of range")), l)
    else
      match h.signal s l.world with
      | (.ok (), w) => (.ok (), { l with world := w })
      | (.error e, w) =>
        (.error (.systemDuring ("sending " ++ s.name ++ " to pid " ++ toString pid) e),
          { l with world := w })

/-- Ends the console by force and asks for its end. -/
def kill (h : Host ω) (l : Live ω) : Except Failure ExitStatus × Live ω :=
  match h.kill l.world with
  | (.error e, w) => (.error (.systemDuring "killing process" e), { l with world := w })
  | (.ok (), w) =>
    match h.reap w with
    | (.error e, w) => (.error (.systemDuring "reaping process" e), { l with world := w })
    | (.ok status, w) => (.ok status, { l with world := w })

/-- Closes the input; no more can be sent. -/
def closeInput (h : Host ω) (l : Live ω) : Live ω :=
  { session := { l.session with phase := .closing, inputOpen := false }
    world := h.closeInput l.world }

/-- Waits for a console that may end by itself, if the strategy does. -/
def waitGracefully (h : Host ω) (l : Live ω) : Live ω :=
  if l.session.status.isNone && l.session.teardown.waitsForExit then
    (collect h l.session.teardown.gracefulWait l).2
  else l

/-- Asks a console to stop and waits, if the strategy does. The signal may fail. -/
def waitTerminated (h : Host ω) (l : Live ω) : Live ω :=
  if l.session.status.isNone && l.session.teardown.asksToStop then
    (collect h l.session.teardown.terminateWait (signal h .terminate l).2).2
  else l

/-- The session of a console that has ended. -/
def finish (h : Host ω) (status : ExitStatus) (l : Live ω) : Live ω :=
  { session :=
      { l.session with
        outputOpen := false
        errorsOpen := false
        status := some status
        phase := .closed }
    world := h.closeErrors (h.closeOutput l.world) }

/-- Brings the console to its end, stage by stage, and says how it ended. A session that is closed
stays as it is. -/
def close (h : Host ω) (l : Live ω) : Except Failure ExitStatus × Live ω :=
  if l.session.phase = .closed then (.ok (l.session.status.getD .unknown), l)
  else
    let l := waitTerminated h (waitGracefully h (closeInput h l))
    match l.session.status with
    | some status => (.ok status, finish h status l)
    | none =>
      match kill h l with
      | (.ok status, l) => (.ok status, finish h status l)
      | (.error f, l) => (.error f, l)

/-- Gives a session up. A console that is not known to have ended is ended by force, and nobody asks
for its end. -/
def abandon (h : Host ω) (l : Live ω) : ω :=
  if l.session.status.isNone then (h.kill l.world).2 else l.world

end Live
end Parley
