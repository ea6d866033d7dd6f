import Parley.Duration
import Parley.Environment
import Parley.ExitStatus
import Parley.Settings.Teardown
import Parley.SystemError

/-!
# Parley.Host

What a session needs of the machine that its program runs on. A host has states, and every service
takes one state to the next; what a service answers is up to the host alone.

* `Arrival`: what comes of waiting for output.
* `Ending`: what comes of waiting for the end of the program.
* `Host`: the services.
-/

namespace Parley

/-- The two streams that a program writes to. -/
inductive Stream
  | output
  | errors
deriving DecidableEq, Repr

/-- What comes of waiting for output. -/
inductive Arrival
  /-- Bytes from a stream; none are the end of the stream. -/
  | chunk (stream : Stream) (bytes : List UInt8)
  /-- The time has passed. -/
  | nothing
  | fault (error : SystemError)
deriving DecidableEq, Repr

/-- What comes of waiting for the end of a program. -/
inductive Ending
  | ended (status : ExitStatus)
  /-- The time has passed. -/
  | running
  | fault (error : SystemError)
deriving DecidableEq, Repr

/-- A program to start, with its arguments and the variables that it gets besides those of the
host. -/
structure Command where
  binary : String
  arguments : List String
  environment : Environment := {}
deriving DecidableEq, Repr

/-- The services of a machine whose states are `ω`. -/
structure Host (ω : Type) where
  /-- Starts a program; the number is the one that signals are sent to. -/
  launch : Command → ω → Except SystemError (Option Nat) × ω
  /-- The moment that it is. -/
  now : ω → Duration
  /-- Writes to the input of the program. -/
  write : List UInt8 → ω → Except SystemError Unit × ω
  /-- Waits for output, from both streams or from the first alone. -/
  read : Bool → Duration → ω → Arrival × ω
  /-- Waits for output from the second stream. -/
  readErrors : Duration → ω → Arrival × ω
  closeInput : ω → ω
  closeOutput : ω → ω
  closeErrors : ω → ω
  /-- Waits for the end of the program. -/
  await : Duration → ω → Ending × ω
  /-- Sends a signal to the program. -/
  signal : Signal → ω → Except SystemError Unit × ω
  /-- Ends the program by force. -/
  kill : ω → Except SystemError Unit × ω
  /-- Asks for the end of a program that was ended by force. -/
  reap : ω → Except SystemError ExitStatus × ω
  /-- Shows output to whoever watches. -/
  display : List UInt8 → ω → ω

end Parley
