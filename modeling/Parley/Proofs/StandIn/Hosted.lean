import Parley.Proofs.StandIn.Dialogue
import Parley.Session

/-!
# Parley.Proofs.StandIn.Hosted

Hosts on which the stand-in runs. The stand-in's side of a dialogue is seen through a view of the
host's states; the host carries lines to it and its output back, cut anywhere, and its clock runs
out on a wait only when there is nothing left to wait for.

* `Dialogue.Brings`: what a wait for output can bring from a stand-in.
* `Hosted.Waits`: what can become of a host during one wait for a pattern.
* `Hosted`: what is asked of the host.
-/

namespace Parley
namespace StandIn

/-- What a wait for output can bring. The second stream carries nothing but its end, and that only
once the stand-in has ended. -/
inductive Dialogue.Brings (withErrors : Bool) : Dialogue → Arrival → Dialogue → Prop
  | chunk {d : Dialogue} {bytes rest : List UInt8} :
      bytes ≠ [] → d.unread = bytes ++ rest →
      Brings withErrors d (.chunk .output bytes) { d with unread := rest }
  | outputEnded {d : Dialogue} :
      d.unread = [] → d.left = true →
      Brings withErrors d (.chunk .output []) { d with spent := true }
  | errorsEnded {d : Dialogue} :
      withErrors = true → d.left = true → Brings withErrors d (.chunk .errors []) d
  | nothing {d : Dialogue} :
      d.unread = [] → d.left = false → Brings withErrors d .nothing d

/-- Whether there is still something to read: output, or the end of it. -/
def Dialogue.Pending (d : Dialogue) : Prop := d.unread ≠ [] ∨ d.left = true ∧ d.spent = false

variable {ω : Type}

/-- The states of a host from the beginning of a wait for a pattern on. -/
inductive Waits (h : Host ω) (begun : ω) : ω → Prop
  | refl : Waits h begun begun
  | read {w : ω} (withErrors : Bool) (allowed : Duration) :
      Waits h begun w → Waits h begun (h.read withErrors allowed w).2
  | display {w : ω} (bytes : List UInt8) : Waits h begun w → Waits h begun (h.display bytes w)
  | closeErrors {w : ω} : Waits h begun w → Waits h begun (h.closeErrors w)

/-- The stand-in runs on a host, started by some settings for a port. -/
structure Hosted (h : Host ω) (settings : Settings) (f : Faults) (port : String)
    (view : ω → Dialogue) : Prop where
  launch : ∀ w, ∃ pid, (h.launch (Session.commandOf settings port) w).1 = .ok pid ∧
    view (h.launch (Session.commandOf settings port) w).2 = .fresh f port
  /-- A line that is written to a stand-in that has not ended is heard. -/
  write : ∀ line w, (view w).outcome = none → splitLines [] line = [line] →
    (h.write line w).1 = .ok () ∧ view (h.write line w).2 = (view w).hear line
  read : ∀ withErrors allowed w, Duration.zero < allowed →
    (view w).Brings withErrors (h.read withErrors allowed w).1
      (view (h.read withErrors allowed w).2)
  /-- The second stream is silent. -/
  readErrors : ∀ allowed w,
    ((h.readErrors allowed w).1 = .nothing ∨
      ∃ stream, (h.readErrors allowed w).1 = .chunk stream []) ∧
    view (h.readErrors allowed w).2 = view w
  /-- A stand-in of which the end of the output was seen has ended. -/
  await : ∀ allowed w code, (view w).outcome = some (.exit code) → (view w).spent = true →
    (h.await allowed w).1 = .ended (.exited code)
  closeOutput : ∀ w, view (h.closeOutput w) = view w
  closeErrors : ∀ w, view (h.closeErrors w) = view w
  display : ∀ bytes w, view (h.display bytes w) = view w
  /-- A wait that brings nothing has taken all the time that it was allowed. -/
  elapsed : ∀ withErrors allowed w, (h.read withErrors allowed w).1 = .nothing →
    allowed ≤ h.now (h.read withErrors allowed w).2 - h.now w
  forward : ∀ begun w, Waits h begun w → h.now begun ≤ h.now w
  /-- A wait for a pattern has not used up its time while there is something to read. -/
  inTime : ∀ begun w, Waits h begun w → (view w).Pending →
    h.now w - h.now begun < settings.timeout

end StandIn
end Parley
