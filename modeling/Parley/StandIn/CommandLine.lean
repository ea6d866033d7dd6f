import Parley.Printed
import Parley.StandIn

/-!
# Parley.StandIn.CommandLine

The command line of the stand-in: `repl --port PORT`, or a request for its version.

* `StandIn.Request.ofArguments`: what arguments ask for.
* `StandIn.run`: a run of the stand-in as a program.
-/

namespace Parley
namespace StandIn

inductive Request
  | repl (port : String)
  | version
  | wrongArguments
deriving DecidableEq, Repr

namespace Request

/-- Whether an argument is an option rather than a value. -/
def isOption (a : String) : Bool := a.toList.head? == some '-' && a != "-"

/-- The value of an option that is written in one argument with it. -/
def attached? (option a : String) : Option String :=
  let lead := (option ++ "=").toList
  if lead.isPrefixOf a.toList then some (String.ofList (a.toList.drop lead.length)) else none

/-- The arguments behind `repl`; `port` is the one given so far. -/
def replArguments (port : Option String) : List String → Request
  | [] => match port with
    | some p => repl p
    | none => wrongArguments
  | ["--"] => match port with
    | some p => repl p
    | none => wrongArguments
  | "--port" :: value :: rest =>
    if port.isSome || isOption value then wrongArguments else replArguments (some value) rest
  | a :: rest =>
    match attached? "--port" a with
    | some value => if port.isSome then wrongArguments else replArguments (some value) rest
    | none => wrongArguments

def ofArguments : List String → Request
  | "repl" :: rest => replArguments none rest
  | a :: _ =>
    if a == "--version" || "-V".toList.isPrefixOf a.toList then version else wrongArguments
  | [] => wrongArguments

end Request

/-- The code for arguments that cannot be understood. -/
def argumentCode : Nat := 2

/-- Runs the stand-in as a program on a whole input. A run that never ends has no result. -/
def run (arguments : List String) (e : Environment) (input : List UInt8) : Option Printed :=
  match Request.ofArguments arguments with
  | .wrongArguments => some { exit := argumentCode }
  | .version => some { exit := 0, output := "v4-repl-sim " ++ version ++ "\n" }
  | .repl port =>
    let (writes, outcome) := play (.ofEnvironment e) port input
    let output := String.join writes
    match outcome with
    | .exit code => some { exit := code, output }
    | .notText =>
      some { exit := 1, output, errors := "Error: stream did not contain valid UTF-8\n" }
    | .stuck => none

end StandIn
end Parley
