import Parley.CommandLine

/-!
# Parley.Main

The program: the command line over the arguments, the variables and the files that it is given. The
console is the one that a rehearsal plays.
-/

namespace Parley
namespace Main

/-- The variables that count. -/
def names : List String :=
  ["V4_REPL_CHECK_BINARY", "V4_REPL_CHECK_TIMEOUT", "V4_REPL_CHECK_ECHO",
   "V4_REPL_CHECK_LINE_ENDING", "V4_SIM_DELAY_MS", "V4_SIM_CRASH_ON", "V4_SIM_MUTE_ON",
   "V4_SIM_IGNORE_TERM", "V4_SIM_STUCK", "V4_SIM_NO_BANNER"]

def environment : IO Environment := do
  let vars ← names.mapM fun name => do return (← IO.getEnv name).map fun value => (name, value)
  return .ofList (vars.filterMap id)

def faultOf : IO.Error → SystemError
  | .noFileOrDirectory _ code _ => .numbered code.toNat
  | .permissionDenied _ code _ => .numbered code.toNat
  | .inappropriateType _ code _ => .numbered code.toNat
  | e => .described .other (toString e)

/-- The content of a file. -/
def contentOf (path : String) : IO (Except SystemError (List UInt8)) := do
  match ← (IO.FS.readBinFile path).toBaseIO with
  | .ok bytes => return .ok bytes.toList
  | .error e => return .error (faultOf e)

/-- A reader of the one file that is named by arguments. -/
def reader (arguments : List String) : IO FileReader := do
  match (CommandLine.Options.ofArguments arguments).toOption.bind (·.config) with
  | none => return fun _ => .error .noSuchFile
  | some path =>
    let content ← contentOf path
    return fun _ => content

end Main
end Parley

def main (arguments : List String) : IO UInt32 := do
  let read ← Parley.Main.reader arguments
  let world := Parley.Rehearsal.World.fresh "v4-repl-sim" (← Parley.Main.environment)
  let printed := Parley.CommandLine.check read world arguments
  IO.print printed.output
  IO.eprint printed.errors
  return printed.exit.toUInt32
