import Parley.Script.Play
import Parley.Session

/-!
# Parley.Session.Stage

Scripts on a host: each console is a session.

* `Scene`: a world, and the events that were told of.
* `Live.expectWithin`: a wait that gives up when it needs too many steps.
* `Session.stage`: what a script is played on.
-/

namespace Parley

structure Scene (ω : Type) where
  world : ω
  /-- The events, the last one first. -/
  told : List Event := []

variable {ω : Type}

/-- Why a wait that was given up has failed. -/
abbrev GivingUp (ω : Type) := Pattern → Duration → Live ω → Failure

/-- Waits for a pattern, for so many steps and no more. -/
def Live.expectWithin (h : Host ω) (patience : Nat) (lost : GivingUp ω) (p : Pattern)
    (allowed : Duration) (l : Live ω) : Except Failure Excerpt × Live ω :=
  (l.expect h patience p allowed).getD (.error (lost p allowed l), l)

namespace Scene

/-- A part of a session, seen from a scene. -/
def within {α : Type} (f : Live ω → α × Live ω) (s : Session × Scene ω) :
    α × (Session × Scene ω) :=
  let (a, l) := f { session := s.1, world := s.2.world }
  (a, (l.session, { s.2 with world := l.world }))

/-- Notes an event, and shows it if there is somebody to see it. -/
def tell (h : Host ω) (audience : Bool) (e : Event) (s : Scene ω) : Scene ω :=
  { world := if audience then h.display e.text.toUTF8.toList s.world else s.world
    told := e :: s.told }

end Scene

/-- A stage whose consoles are made from settings. -/
def Session.stage (h : Host ω) (patience : Nat) (lost : GivingUp ω) (settings : Settings)
    (audience : Bool) : Stage Session (Scene ω) where
  launch target s :=
    let (session, world) := Session.launch h settings target s.world
    (session, { s with world })
  timeout session := session.timeout
  sendLine line := Scene.within (Live.sendLine h line)
  expect p allowed := Scene.within (Live.expectWithin h patience lost p allowed)
  close := Scene.within (Live.close h)
  report := Scene.tell h audience

end Parley
