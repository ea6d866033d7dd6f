import Parley.Rehearsal.Machine
import Parley.Rehearsal.Shell.Start
import Parley.Rehearsal.Tool.Table
import Parley.StandIn.CommandLine

/-!
# Parley.Rehearsal.Start

How programs begin. A process becomes a program: a shell, a tool or a stand-in, and a script becomes
the shell that reads it. Some tools only prepare for another program and then become that one.

* `Machine.become`: puts a program in the place of the one that a process ran before.
-/

namespace Parley
namespace Rehearsal

namespace Actor

/-- The program that a stand-in is when it is called with some words. -/
def called (words : Words) (environment : Inherited) : Program :=
  let e := Environment.ofList (environment.map fun v => (textOf v.1, textOf v.2))
  match StandIn.Request.ofArguments ((words.drop 1).map textOf) with
  | .repl port => .actor (.fresh (.ofEnvironment e) port)
  | .version => .tool (.print (bytesOf ("v4-repl-sim " ++ StandIn.version ++ "\n")) [] 0)
  | .wrongArguments => .tool (.print [] [] StandIn.argumentCode)

end Actor

namespace Machine

/-- The words with which the interpreter of a script is called; none if the script names none. -/
def interpreter? (script path : Bytes) : Option Words :=
  match bare (upToLine script) with
  | 35 :: 33 :: rest =>
    let isBlank (b : UInt8) : Bool := b == 32 || b == 9
    let rest := (rest.dropWhile isBlank).reverse.dropWhile isBlank |>.reverse
    let name := rest.takeWhile fun b => !isBlank b
    let argument := (rest.drop name.length).dropWhile isBlank
    let arguments := if argument.isEmpty then [] else [argument]
    if name.isEmpty then none else some (name :: arguments ++ [path])
  | _ => none

/-- The words with which a shell reads a script. -/
def scriptWords (script path : Bytes) : Words :=
  (interpreter? script path).getD [bytesOf "/bin/sh", path]

/-- Joins the descriptors of a process to files; one that cannot be opened stays as it is. -/
def joinAll (m : Machine) (p : Process) (joints : List (Nat × Shell.Opening × String)) :
    Machine × Process :=
  joints.foldl (fun (m, p) (descriptor, opening, path) =>
    match m.openFile p opening path with
    | .ok (e, m) =>
      let others := p.descriptors.filter fun d => d.1 != descriptor
      (m, { p with descriptors := (descriptor, e) :: others })
    | .error _ => (m, p)) (m, p)

/-- The directories in which a program looks for others. -/
def searchPath (environment : Inherited) : String :=
  ((environment.lookup (bytesOf "PATH")).map wordOf).getD Disk.defaultPath

/-- Puts a program in the place of the one that a process ran before. Each turn of the count passes
one program that only prepares for another one. -/
def become : Nat → Machine → Process → String → Executable → Words → Inherited → Machine
  | 0, m, p, _, _, _, _ => m.finish p (.exited 126)
  | turns + 1, m, p, path, e, words, environment =>
    let p := { p with called := words.headD [], environment, kept := [] }
    let on (program : Program) : Machine := m.setProcess { p with program }
    match e with
    | .standIn => on (Actor.called words environment)
    | .shell =>
      match Shell.State.start m.disk p.directory p.pid p.parent p.ignored words environment with
      | .ok s => on (.shell s)
      | .error (complaint, code) => on (.tool (.print [] complaint code))
    | .script number =>
      let script := m.disk.contentOf number
      let words := scriptWords script (bytesOf path) ++ words.drop 1
      let name := wordOf (words.headD [])
      match m.disk.locate p.directory (searchPath environment) name with
      | .ok (path, e) => become turns m p path e words environment
      | .error _ => m.finish p (.exited 127)
    | .tool name =>
      let call : Call :=
        { called := wordOf (words.headD []), arguments := words.drop 1, environment
          disk := m.disk, directory := p.directory, descriptors := p.descriptors, mask := p.mask }
      let refused (m : Machine) (p : Process) (complaint : String) (e : SystemError) : Machine :=
        let text := complaint ++ ": " ++ e.reason ++ "\n"
        let code := if e == .noSuchFile then 127 else 126
        m.setProcess { p with program := .tool (.print [] (bytesOf text) code) }
      match Tool.launch name call with
      | .tool t joints =>
        let (m, p) := m.joinAll p joints
        m.setProcess { p with program := .tool t }
      | .change disk o =>
        let m := { m with disk }
        let supplies := Supply.said o.errors ++ .bytes o.output :: o.rest
        m.setProcess { p with program := .tool (.copy supplies (o.code.getD 0)) }
      | .other words environment directory ignored complaint =>
        let p := { p with directory, ignored := ignored ++ p.ignored }
        match m.disk.locate directory (searchPath environment) (wordOf (words.headD [])) with
        | .ok (path, e) => become turns m p path e words environment
        | .error e => refused m p complaint e
      | .limited words time signal later keepsStatus complaint =>
        match m.disk.locate p.directory (searchPath environment) (wordOf (words.headD [])) with
        | .error e => refused m p complaint e
        | .ok (path, e) =>
          let (pid, m) := m.start p (.tool (.print [] [] 0)) p.descriptors environment p.ignored
          let wake := time.map fun t => m.clock + t
          let t : Tool := .limited pid wake signal later false keepsStatus
          let m := m.setProcess { p with program := .tool t }
          match m.process? pid with
          | some q => become turns m q path e words environment
          | none => m

/-- How many programs may prepare for one another. -/
def preparations : Nat := 64

/-- Puts a program in the place of the one that a process ran before. -/
def run (m : Machine) (p : Process) (path : String) (e : Executable) (words : Words)
    (environment : Inherited) : Machine :=
  become preparations m p path e words environment

end Machine
end Rehearsal
end Parley
