import Parley.Rehearsal.Actor
import Parley.Rehearsal.Shell.Step
import Parley.Rehearsal.Tool.Step

/-!
# Parley.Rehearsal.Schedule

How time goes on for a machine: in ticks, in each of which every process that can move makes one
step. When none can move, time goes on to the next moment at which one wakes up.

* `Machine.tick`: one tick; none if nothing can move.
* `Machine.runUntil`: ticks until something has come about, or until a moment.
-/

namespace Parley
namespace Rehearsal
namespace Machine

/-- How long a tick takes. -/
def tickTime : Duration := ⟨10000⟩

/-- One step of a process; none if it has to wait. -/
def stepOf (m : Machine) (p : Process) : Option Machine :=
  if p.ended.isSome || p.stopped then none
  else
    match p.program with
    | .shell s => Shell.step m p s
    | .tool t => Tool.step m p t
    | .actor a => Actor.step m p a

/-- One step of each of some processes, and whether one of them has moved. -/
def stepAll (moved : Bool) (m : Machine) : List Nat → Bool × Machine
  | [] => (moved, m)
  | pid :: rest =>
    match (m.process? pid).bind (stepOf m) with
    | some m => stepAll true m rest
    | none => stepAll moved m rest

def tick (m : Machine) : Option Machine :=
  match stepAll false m (m.processes.map (·.pid)) with
  | (true, m) => some { m with clock := m.clock + tickTime }
  | (false, _) => none

/-- The moment at which a process wakes up. -/
def wakeOf (p : Process) : Option Duration :=
  if p.ended.isSome || p.stopped then none
  else
    match p.program with
    | .tool (.sleep _ wake) => wake
    | .tool (.limited _ wake _ _ _ _) => wake
    | .actor a => a.wake
    | _ => none

/-- The next moment at which a process wakes up. -/
def nextWake? (m : Machine) : Option Duration :=
  (m.processes.filterMap wakeOf).foldl
    (fun least w => some (least.elim w fun l => if l ≤ w then l else w)) none

/-- Lets time go on, until something has come about or until a moment. Each turn of the count is a
tick or a jump to a moment at which something can move. -/
def runFor (done : Machine → Bool) (deadline : Duration) : Nat → Machine → Machine
  | 0, m => m
  | turns + 1, m =>
    if done m then m
    else if deadline < m.clock + tickTime then
      if m.clock ≤ deadline then { m with clock := deadline } else m
    else
      match m.tick with
      | some m => runFor done deadline turns m
      | none =>
        match m.nextWake? with
        | some wake =>
          if m.clock < wake ∧ wake ≤ deadline then
            runFor done deadline turns { m with clock := wake }
          else { m with clock := deadline }
        | none => { m with clock := deadline }

/-- Lets time go on for a while, or until something has come about. There are at most two turns to
a tick, since a jump is followed by one. -/
def runUntil (done : Machine → Bool) (allowed : Duration) (m : Machine) : Machine :=
  runFor done (m.clock + allowed) (2 * (allowed.nanos / tickTime.nanos) + 4) m

end Machine
end Rehearsal
end Parley
