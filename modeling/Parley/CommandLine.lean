import Parley.CommandLine.Options
import Parley.Printed
import Parley.Rehearsal.Stage
import Parley.Script.Smoke

/-!
# Parley.CommandLine

The command line as a program: one target, and options that count above the file and the
environment.

* `check`: the smoke test of a console.
-/

namespace Parley
namespace CommandLine

def version : String := "0.1.0"

def usage : String := "Usage: v4-repl-check [OPTIONS] <port>\nExample: v4-repl-check /dev/ttyACM0\n"

/-- What a failure is reported as. -/
def reportOf (f : Failure) : String := f.kind.name ++ ": " ++ f.message ++ "\n"

/-- Plays the smoke test with settings in a world. -/
def smoke (s : Settings) (port : String) (w : Rehearsal.World) : Printed :=
  let (outcome, scene) := Smoke.script.play (Rehearsal.stage s true) port { world := w }
  let output := String.ofList (Utf8.lossy scene.world.shown)
  match outcome with
  | .ok _ => { exit := 0, output }
  | .error f => { exit := 1, output, errors := reportOf f }

/-- The result of arguments that are not taken as options for a check. -/
def Halt.printed : Halt → Printed
  | version => { exit := 0, output := "v4-repl-check " ++ CommandLine.version ++ "\n" }
  | usage => { exit := 0, output := CommandLine.usage }
  | wrongArguments => { exit := 1, output := CommandLine.usage }
  | endlessTimeout => { exit := 101, errors := "the timeout is too long\n" }

/-- Runs the check as a program, in a world with its variables. -/
def check (read : FileReader) (w : Rehearsal.World) (arguments : List String) : Printed :=
  match Options.ofArguments arguments with
  | .error h => h.printed
  | .ok o =>
    match o.settings read w.environment with
    | .error f => { exit := 1, errors := reportOf f }
    | .ok s => smoke s (o.port.getD "") w

end CommandLine
end Parley
