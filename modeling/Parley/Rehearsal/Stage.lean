import Parley.Rehearsal.World
import Parley.Session.Stage

/-!
# Parley.Rehearsal.Stage

Scripts on the host of a rehearsal: each console is a session on its machine.

* `Rehearsal.stage`: what a script is played on.
-/

namespace Parley
namespace Rehearsal

/-- How many steps an expectation may take. Every step but the last takes bytes from a pipe or ends
a stream, and no rehearsal has so many bytes. -/
def patience : Nat := Nat.pow 2 62

/-- A wait that was given up has taken too long. -/
def late : GivingUp World := fun p allowed l => .timedOut allowed p.name l.session.unread

/-- Waits for a pattern on the host of a rehearsal. -/
def expect (p : Pattern) (allowed : Duration) (l : Live World) :
    Except Failure Excerpt × Live World :=
  l.expectWithin World.host patience late p allowed

/-- A stage whose consoles are made from settings. -/
def stage (settings : Settings) (audience : Bool) : Stage Session (Scene World) :=
  Session.stage World.host patience late settings audience

end Rehearsal
end Parley
