import Parley.Rehearsal.Shell.Deed.Variables

/-!
# Parley.Rehearsal.Shell.Deed.Lookup

What a name stands for as a command, and how a shell tells.

* `Lookup.find`: what a name stands for.
* `Deed.typeOf`, `commandOf`, `hashOf`: the commands that tell of it.
-/

namespace Parley
namespace Rehearsal
namespace Shell

/-- What a name stands for as a command. -/
inductive Lookup
  | keyword
  | nickname (text : Bytes)
  | function
  | own (special : Bool)
  | program (path : String)
deriving DecidableEq, Repr

namespace Lookup

/-- Where a program is found; one that was found before is remembered. -/
def programOf? (d : Disk) (directory : Path) (s : State) (name : String) : Option String :=
  if name.toList.contains '/' then
    match d.findAt directory name with
    | .ok _ => some name
    | .error _ => none
  else
    match s.found.lookup name with
    | some path => some path
    | none =>
      let found := d.search directory name SystemError.noSuchFile (s.searchPath.splitOn ":")
      found.toOption.map (·.1)

def find (d : Disk) (directory : Path) (s : State) (name : String) : Option Lookup :=
  if keywords.contains name then some .keyword
  else
    match s.aliases.lookup name with
    | some text => some (.nickname text)
    | none =>
      if (s.functions.lookup name).isSome then some .function
      else if specialNames.contains name then some (.own true)
      else if regularNames.contains name then some (.own false)
      else (programOf? d directory s name).map .program

/-- What a shell says of a name at length, and in short. -/
def tell (s : State) (name : String) : Lookup → String
  | keyword => name ++ " is a shell keyword\n"
  | nickname text => name ++ " is an alias for " ++ wordOf text ++ "\n"
  | function => name ++ " is a shell function\n"
  | own special => name ++ " is a " ++ (if special then "special " else "") ++ "shell builtin\n"
  | program path =>
    name ++ (if (s.found.lookup name).isSome then " is a tracked alias for " else " is ") ++ path ++
      "\n"

def tellShort (name : String) : Lookup → String
  | nickname text => "alias " ++ aliasText text ++ "\n"
  | program path => path ++ "\n"
  | _ => name ++ "\n"
where
  aliasText (text : Bytes) : String := name ++ "=" ++ Deed.quoted text

/-- Remembers where a program was found. -/
def remember (s : State) (name path : String) : State :=
  if name.toList.contains '/' || (s.found.lookup name).isSome then s
  else { s with found := s.found ++ [(name, path)] }

def note (s : State) (name : String) : Lookup → State
  | program path => remember s name path
  | _ => s

/-- Whether a shell runs a command itself. -/
def isOwn (s : State) (name : String) : Bool :=
  (s.functions.lookup name).isSome || (specialNames ++ regularNames).contains name

/-- Remembers where the program is found with which a command begins. -/
def foresee (d : Disk) (directory : Path) (s : State) : Command → State
  | .simple _ _ (w :: _) _ =>
    let name := wordOf ((plainText? w).getD [])
    if isName name.toList && !isOwn s name then
      match programOf? d directory s name with
      | some path => remember s name path
      | none => s
    else s
  | _ => s

end Lookup

namespace Deed

/-- Tells what some names stand for. -/
def tellAll (d : Disk) (directory : Path) (s : State) (names : List Bytes) : Deed :=
  let start : State × String := ({ s with status := 0 }, "")
  let (s, output) := names.foldl (fun (s, output) w =>
    let name := wordOf w
    match Lookup.find d directory s name with
    | some l => (l.note s name, output ++ l.tell s name)
    | none => ({ s with status := 127 }, output ++ name ++ ": not found\n")) start
  .done s (bytesOf output) []

/-- The command `command` where it does not run anything. -/
def commandOf (d : Disk) (directory : Path) (s : State) (arguments : List Bytes) : Deed :=
  withOptions [('p', false), ('v', false), ('V', false)] arguments fun given rest =>
    match given.find? (· != 'p'), rest with
    | some 'v', w :: _ =>
      let name := wordOf w
      match Lookup.find d directory s name with
      | some l => print (l.note s name) (l.tellShort name)
      | none => status s 127
    | some _, w :: _ => tellAll d directory s [w]
    | _, _ => status s 0

def hashOf (d : Disk) (directory : Path) (s : State) (arguments : List Bytes) : Deed :=
  withOptions [('r', false), ('v', false)] arguments fun given rest =>
    if given.contains 'r' then status { s with found := [] } 0
    else if rest.isEmpty then
      let lines := (List.range 31).flatMap fun slot =>
        s.found.filter fun f =>
          let cs := f.1.toList.map Char.toNat
          (cs.headD 0 * 16 + cs.foldl (· + ·) 0) % 31 == slot
      print s (String.join (lines.map fun f => f.2 ++ "\n"))
    else
      let start : State × Bytes := ({ s with status := 0 }, [])
      let (s, complaint) := rest.foldl (fun (s, complaint) w =>
        let name := wordOf w
        if Lookup.isOwn s name then (s, complaint)
        else
          match Lookup.programOf? d directory s name with
          | some path => (Lookup.remember s name path, complaint)
          | none =>
            let text := { s with speaker := some "hash" }.complaint (name ++ ": not found")
            ({ s with status := 1 }, complaint ++ text)) start
      .done s [] complaint

end Deed
end Shell
end Rehearsal
end Parley
