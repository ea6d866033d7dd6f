import Parley.Rehearsal.Machine

/-!
# Parley.Rehearsal.Actor

One step of a stand-in: what it has to write comes first, then it listens or ends.

* `Actor.step`: one step; none while the stand-in has to wait.
-/

namespace Parley
namespace Rehearsal
namespace Actor

/-- What a stand-in does about the bytes of one line. -/
def hear (a : Actor) (now : Duration) (line : Bytes) : Actor × Option String :=
  if Utf8.isText line then
    let t := StandIn.turn a.faults (Utf8.text line)
    let wake := if t.waitMillis == 0 then none else some (now + .ofMillis t.waitMillis)
    match t.next with
    | .prompt => ({ a with wake, writes := t.writes.map utf8 ++ [utf8 StandIn.prompt] }, none)
    | .exit code => ({ a with wake, writes := t.writes.map utf8, plan := .leave code }, none)
  else ({ a with plan := .leave 1 }, some "Error: stream did not contain valid UTF-8\n")

/-- What a stand-in does at the end of its input. -/
def hearEnd (a : Actor) : Actor :=
  { a with writes := [utf8 StandIn.farewell]
           plan := if a.faults.stuck then .stay else .leave 0 }

/-- Writes a complaint, if there is somebody to read it. -/
def complain (m : Machine) (p : Process) (text : String) : Machine :=
  match m.write p 2 (utf8 text) with
  | .done m => m
  | _ => m

/-- Hears a line, and complains if there is something to complain about. -/
def answer (m : Machine) (p : Process) (a : Actor) (line rest : Bytes) : Machine :=
  let (a, complaint) := hear { a with taken := rest } m.clock line
  let m := m.setProcess { p with program := .actor a }
  complaint.elim m (complain m p)

/-- How many bytes a stand-in reads at once. -/
def readSize : Nat := 65536

def step (m : Machine) (p : Process) (a : Actor) : Option Machine :=
  if a.wake.any fun wake => !(decide (wake ≤ m.clock)) then none
  else
    match a.writes with
    | bs :: writes =>
      let written (m : Machine) : Option Machine :=
        some (m.setProcess { p with program := .actor { a with writes, wake := none } })
      match m.write p 1 bs with
      | .done m => written m
      | .notYet => none
      | .refused _ => written m
      | .broken =>
        let m := complain m p ("Error: " ++ SystemError.brokenPipe.message ++ "\n")
        some (m.finish p (.exited 1))
    | [] =>
      match a.plan with
      | .leave code => some (m.finish p (.exited code))
      | .stay => none
      | .listen =>
        let line := upToLine a.taken
        if line.getLast? == some 10 then some (answer m p a line (a.taken.drop line.length))
        else
          match m.read p 0 readSize with
          | .bytes bs m =>
            some (m.setProcess { p with program := .actor { a with taken := a.taken ++ bs } })
          | .notYet => none
          | _ =>
            if a.taken.isEmpty then some (m.setProcess { p with program := .actor a.hearEnd })
            else some (answer m p a a.taken [])

end Actor
end Rehearsal
end Parley
