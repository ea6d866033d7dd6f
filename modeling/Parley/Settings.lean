import Parley.Environment
import Parley.Failure
import Parley.Settings.LineEnding
import Parley.Settings.Teardown
import Parley.Window

/-!
# Parley.Settings

Which console to start and how to talk to it. Settings are made in layers: the defaults, a file,
the environment, the command line.

* `Settings.arguments`, `Settings.commandLine`: the command that starts a console.
* `Overlay`: a layer; it may fail, and keeps what it had set before.
-/

namespace Parley

@[ext]
structure Settings where
  /-- The program of the console. -/
  binary : String := "./target/release/v4"
  /-- The first arguments. -/
  subcommand : List String := ["repl"]
  /-- The argument in front of the target. -/
  portFlag : String := "--port"
  /-- Variables for the console, above those that it inherits. -/
  environment : Environment := {}
  /-- How long to wait for a pattern. -/
  timeout : Duration := .ofSecs 10
  teardown : Teardown := {}
  /-- How many bytes of unread output are kept. -/
  capacity : Nat := Window.defaultCapacity
  lineEnding : LineEnding := .lf
  /-- Whether the output is shown as it comes. -/
  echo : Bool := true
deriving DecidableEq, Repr

namespace Settings

/-- The arguments for a target. -/
def arguments (s : Settings) (target : String) : List String :=
  s.subcommand ++ [s.portFlag, target]

/-- The command for a target on one line. -/
def commandLine (s : Settings) (target : String) : String :=
  " ".intercalate (s.binary :: s.arguments target)

end Settings

/-- A layer of settings. What it sets before it fails stays set. -/
abbrev Overlay := ExceptT Failure (StateM Settings) Unit

namespace Overlay

/-- Lays a layer over settings; the failure tells whether all of it was laid. -/
def lay (o : Overlay) (s : Settings) : Except Failure Unit × Settings := o.run.run s

/-- Sets a part of the settings, if there is a value for it. -/
def put {α : Type} (value : Option α) (set : α → Settings → Settings) : Overlay :=
  match value with
  | some a => modify (set a)
  | none => pure ()

/-- The settings with a layer over them. -/
def settings (o : Overlay) (s : Settings) : Except Failure Settings :=
  match o.lay s with
  | (.ok (), s) => .ok s
  | (.error f, _) => .error f

end Overlay
end Parley
