import Parley.Excerpt
import Parley.Failure
import Parley.Script

/-!
# Parley.Script.Progress

What is told about a script while it is played.

* `Event`: the events, in the order in which they can come.
* `Event.text`: an event for a reader; some are not worth a line.
-/

namespace Parley

/-- The result of a script of which every step has passed. -/
structure Report where
  script : String
  /-- The names of the steps, in order. -/
  passed : List String
  /-- How the console ended. -/
  status : Option ExitStatus
deriving DecidableEq, Repr

inductive Event
  | scriptStarted (script : Script) (target : String)
  | stepStarted (index : Nat) (step : Step)
  /-- A step has passed; `last` is what its last pattern took. -/
  | stepPassed (index : Nat) (step : Step) (last : Option Excerpt)
  | stepFailed (index : Nat) (step : Step) (failure : Failure)
  | scriptFinished (report : Report)

namespace Event

/-- Why a step failed, in a few words if the failure is a common one. -/
def reason (f : Failure) : String :=
  match f.kind with
  | .timeout => "Timeout waiting for response"
  | .termination => "Unexpected EOF"
  | _ => f.message

/-- The lines that tell of an event. -/
def lines : Event → List String
  | scriptStarted _ target => ["Testing V4 REPL on " ++ target ++ "..."]
  | stepStarted index step =>
    if step.send.isSome then ["\n[TEST " ++ toString index ++ "] " ++ step.name] else []
  | stepPassed _ step _ => ["✓ " ++ step.praise]
  | stepFailed index step failure =>
    ("\n❌ Test failed at step " ++ toString index ++ " (" ++ step.name ++ "): " ++
        reason failure) ::
      (failure.unread?.map fun unread => "Buffer: " ++ Text.quote unread).toList
  | scriptFinished _ => ["\n✅ All tests passed!"]

/-- An event as text, each line with its end. -/
def text (e : Event) : String := String.join (e.lines.map (· ++ "\n"))

end Event
end Parley
