import Parley.Duration

/-!
# Parley.Settings.Teardown

How a console is brought to its end: by closing its input and waiting, then by asking it to stop and
waiting, then by force; or with fewer of these stages.

* `Strategy`: the stage to begin with.
* `Teardown`: a strategy and how long to wait in each stage.
-/

namespace Parley

inductive Strategy
  /-- All stages. -/
  | escalating
  /-- From the request to stop on. -/
  | terminate
  /-- By force at once. -/
  | kill
deriving DecidableEq, Repr

def Strategy.names : List (String × Strategy) :=
  [("escalating", .escalating), ("terminate", .terminate), ("kill", .kill)]

@[ext]
structure Teardown where
  strategy : Strategy := .escalating
  /-- How long to wait after the input is closed. -/
  gracefulWait : Duration := .ofSecs 1
  /-- How long to wait after the request to stop. -/
  terminateWait : Duration := .ofSecs 2
deriving DecidableEq, Repr

namespace Teardown

/-- Whether the console may end by itself first. -/
def waitsForExit (t : Teardown) : Bool := t.strategy == .escalating

/-- Whether the console is asked to stop before force is used. -/
def asksToStop (t : Teardown) : Bool := t.strategy == .escalating || t.strategy == .terminate

end Teardown

/-- Requests that a program gets from outside. -/
inductive Signal
  | terminate
  /-- A request that no program can refuse. -/
  | kill
deriving DecidableEq, Repr

namespace Signal

def number : Signal → Nat
  | terminate => 15
  | kill => 9

def name : Signal → String
  | terminate => "Terminate"
  | kill => "Kill"

end Signal
end Parley
