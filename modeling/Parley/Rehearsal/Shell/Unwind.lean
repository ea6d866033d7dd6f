import Parley.Rehearsal.Shell.Deed.Table
import Parley.Rehearsal.Shell.Work

/-!
# Parley.Rehearsal.Shell.Unwind

How a shell gives up what it has still to do: it leaves loops and functions, and failures end it.
Descriptors, variables and arguments that a command has had for itself are as they were before.

* `leaveLoops`, `comeBack`, `leave`: out of loops, of a function, and of the shell.
* `fail`: what a failure that ends the shell comes to.
-/

namespace Parley
namespace Rehearsal
namespace Shell

/-- Gives up one thing that was to be done. -/
def giveUp (p : Process) (s : State) : Frame → Process × State
  | .rejoin saved => (rejoin saved p, s)
  | .prepared _ _ _ saved _ => (rejoin saved p, s)
  | .settle saved hasLocals => (rejoin saved p, if hasLocals then s.endLocals else s)
  | .call arguments optionIndex optionOffset => (p, { s with arguments, optionIndex, optionOffset })
  | .speak speaker => (p, { s with speaker })
  | .gather _ descriptor _ => (rejoin [(descriptor, none)] p, s)
  | _ => (p, s)

/-- Gives up all things that were to be done, up to one that passes a test; what is left begins with
that one. -/
def giveUpTo (test : Frame → Bool) (p : Process) (s : State) :
    List Frame → Process × State × List Frame
  | [] => (p, s, [])
  | f :: rest =>
    if test f then (p, s, f :: rest)
    else
      let (p, s) := giveUp p s f
      giveUpTo test p s rest

/-- Leaves loops. With `again` the last one goes on. -/
def leaveLoops (m : Machine) (p : Process) (s : State) (again : Bool) : Nat → Machine
  | 0 => put m p s
  | n + 1 =>
    let (p, s, frames) := giveUpTo isLoop p s s.frames
    match frames with
    | [] => put m p { s with frames := [] }
    | f :: rest =>
      let s := { s with frames := rest }
      match n, again, f with
      | 0, true, .tested untilDone test body last tested =>
        next m p s [.run test true, .tested untilDone test body last tested]
      | 0, true, f => next m p s [f]
      | 0, false, .tested _ _ _ last _ => put m p { s with status := last }
      | 0, false, _ => put m p s
      | n + 1, again, _ => leaveLoops m p s again (n + 1)

/-- Goes on behind some loops, as many as there are. -/
def skip (m : Machine) (p : Process) (s : State) (loops : Nat) (again : Bool) : Machine :=
  leaveLoops m p { s with status := 0 } again (min loops (loopsAround s))

def endsReturn : Frame → Bool
  | .call .. => true
  | .file => true
  | _ => false

/-- Ends a function or the script of a file. -/
def comeBack (m : Machine) (p : Process) (s : State) (status : Nat) : Machine :=
  let (p, s, frames) := giveUpTo endsReturn p s s.frames
  match frames with
  | [] => put m p { s with frames, status }
  | f :: rest =>
    let (p, s) := giveUp p s f
    put m p { s with frames := rest, status }

/-- Ends a shell; what it does at its end comes next. -/
def leave (m : Machine) (p : Process) (s : State) (status : Nat) : Machine :=
  let (p, s, _) := giveUpTo (fun _ => false) p s s.frames
  put m p { s with frames := [], status, leaving := s.leaving.map fun _ => status }

def isGuard : Frame → Bool
  | .guard => true
  | _ => false

/-- The status of a failure. -/
def failureStatus : Nat := 2

/-- What a failure comes to that ends the shell, if nothing holds it up. -/
def fail (m : Machine) (p : Process) (s : State) : Machine :=
  let (q, t, frames) := giveUpTo isGuard p s s.frames
  match frames with
  | [] => leave m p s failureStatus
  | _ :: rest => put m q { t with frames := rest, status := failureStatus }

/-- A failure with a complaint. -/
def failWith (m : Machine) (p : Process) (s : State) (text : String) : Machine :=
  fail (complain m p (s.complaint text)) p s

end Shell
end Rehearsal
end Parley
