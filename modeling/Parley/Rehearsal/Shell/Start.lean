import Parley.Rehearsal.Shell.Deed.Directory

/-!
# Parley.Rehearsal.Shell.Start

How a shell begins: what its arguments ask for, and the variables that it has from the start.

* `State.start`: the shell of some words.
-/

namespace Parley
namespace Rehearsal
namespace Shell
namespace State

/-- Variables that a shell does not take from outside, and the values that they have then. -/
def fixedVars : List String := ["IFS", "OPTIND", "PPID", "PWD"]

/-- The variables that a shell has from the start, with those from outside. -/
def imported (parent : Nat) (environment : Inherited) : List Variable :=
  let s : State := { name := [], rootPid := 0, vars := firstVars }
  let s := environment.foldl (fun s v =>
    let name := wordOf v.1
    if !isName name.toList then s
    else
      let value := if fixedVars.contains name then s.value? name else some v.2
      s.putVar { name, value, exported := true }) s
  (s.putVar { name := "PPID", value := some (digitsOf parent) }).vars

/-- Whether a path from outside names the directory of the shell. -/
def namesDirectory (d : Disk) (directory : Path) (path : Bytes) : Bool :=
  path.head? == some 47 &&
    match d.find [] (wordOf path) with
    | .ok spot => spot.path == directory && spot.entry == some .directory
    | .error _ => false

/-- A complaint at the start, and the status with which the shell ends. -/
def refusal (name : Bytes) (text : String) : Bytes × Nat :=
  (name ++ bytesOf (": 0: " ++ text ++ "\n"), 2)

/-- The script in a file. -/
def scriptAt (d : Disk) (directory : Path) (path : String) : Except SystemError Bytes := do
  let spot ← d.find directory path
  match spot.entry with
  | none => throw SystemError.noSuchFile
  | some (.file number _) => return d.contentOf number
  | some _ => return []

/-- What is said of a script that cannot be read. -/
def cannotOpen (path : String) (e : SystemError) : String :=
  "cannot open " ++ path ++ ": " ++
    (if e == .noSuchFile || e == .notDirectory then "No such file" else e.reason)

/-- The shell of some words, or why there is none. -/
def start (d : Disk) (directory : Path) (pid parent : Nat) (deaf : List Nat) (words : List Bytes)
    (environment : Inherited) : Except (Bytes × Nat) State := do
  let name := words.headD []
  let given := (environment.find? fun v => v.1 == bytesOf "PWD").map (·.2)
  let named := match given with
    | some path => if namesDirectory d directory path then wordOf path else Disk.written directory
    | none => Disk.written directory
  let blank : State := { name, rootPid := pid, deaf, vars := imported parent environment }
  let s := { blank.putVar { name := "PWD", value := some (bytesOf named), exported := true } with
    directory := some named }
  match Deed.setOptions ['c', 'l'] (words.length + 1) { state := s, rest := words.drop 1 } with
  | .error text => throw (refusal name text)
  | .ok g =>
    let s := g.state
    if g.others.contains 'c' then
      match g.rest with
      | [] => throw (refusal name "-c requires an argument")
      | script :: rest =>
        return { s with name := rest.headD name, arguments := rest.drop 1
                        frames := [.script (.ofBytes script) false] }
    else
      match g.rest, s.isOn .stdin with
      | path :: rest, false =>
        match scriptAt d directory (wordOf path) with
        | .ok script =>
          return { s with name := path, arguments := rest
                          frames := [.script (.ofBytes script) false] }
        | .error e => throw (refusal name (cannotOpen (wordOf path) e))
      | rest, _ =>
        return { s.turn .stdin true with
          arguments := rest, frames := [.stream { rest := [], ended := false }] }

end State
end Shell
end Rehearsal
end Parley
