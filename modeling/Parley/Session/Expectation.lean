import Parley.Duration
import Parley.Pattern

/-!
# Parley.Session.Expectation

A pattern that is waited for, from a moment on and for a time.
-/

namespace Parley

structure Expectation where
  pattern : Pattern
  /-- The moment at which the wait began. -/
  start : Duration
  /-- How long the wait may take. -/
  allowed : Duration

namespace Expectation

/-- Whether the time has passed. -/
def isOverdue (e : Expectation) (now : Duration) : Bool := e.allowed ≤ now - e.start

/-- The time that is left. -/
def remaining (e : Expectation) (now : Duration) : Duration := e.allowed - (now - e.start)

end Expectation
end Parley
