import Parley.Rehearsal.Shell.Deed.Variables

/-!
# Parley.Rehearsal.Shell.Deed.Directory

Commands about the directory of a shell and what new files allow. A directory is known by the way on
which the shell came to it, so that `..` leads back on that way.

* `Deed.cdOf`, `pwdOf`: the directory.
* `Deed.umaskOf`, `ulimitOf`: limits.
-/

namespace Parley
namespace Rehearsal
namespace Shell
namespace Deed

/-- The directory of a shell as it is named. -/
def directoryOf (directory : Path) (s : State) : String :=
  s.directory.getD (Disk.written directory)

/-- A path without detours, on its way from another one. -/
def straight (start path : String) : String :=
  let names := (if path.toList.head? == some '/' then [] else start.splitOn "/") ++
    path.splitOn "/"
  Disk.written (names.foldl (fun acc name =>
    if name == "" || name == "." then acc
    else if name == ".." then acc.dropLast
    else acc ++ [name]) [])

/-- Goes to a directory, if it is one. -/
def goTo (d : Disk) (directory : Path) (s : State) (physical told : Bool) (path : String) :
    Option Deed :=
  let named := straight (directoryOf directory s) path
  match d.find directory (if physical then path else named) with
  | .ok ⟨place, some .directory⟩ =>
    some (.go place (if physical then Disk.written place else named) told)
  | _ => none

/-- The places at which a directory may be, and whether the shell says where it was. -/
def candidates (s : State) (path : String) : List (String × Bool) :=
  let first := (path.splitOn "/").headD ""
  if path.toList.head? == some '/' || first == "." || first == ".." then [(path, false)]
  else
    let path := if path == "" then "." else path
    let places := match s.value? "CDPATH" with
      | some bs => (wordOf bs).splitOn ":"
      | none => [""]
    (places.map fun place => if place == "" then (path, false) else (place ++ "/" ++ path, true)) ++
      [(path, false)]

def cdOf (d : Disk) (directory : Path) (s : State) (arguments : List Bytes) : Deed :=
  withOptions [('L', false), ('P', false)] arguments fun given rest =>
    let valueOf (name : String) : String := wordOf ((s.value? name).getD [])
    let (path, told) := match rest with
      | [] => (valueOf "HOME", false)
      | w :: _ => if wordOf w == "-" then (valueOf "OLDPWD", true) else (wordOf w, false)
    let physical := given.getLast? == some 'P'
    match (candidates s path).findSome? fun c => goTo d directory s physical (told || c.2) c.1 with
    | some deed => deed
    | none => .fault ("can't cd to " ++ path)

def pwdOf (directory : Path) (s : State) (arguments : List Bytes) : Deed :=
  withOptions [('L', false), ('P', false)] arguments fun given _ =>
    print s ((if given.getLast? == some 'P' then Disk.written directory
      else directoryOf directory s) ++ "\n")

/-- Goes on in another directory. -/
def arrive (directory : Path) (s : State) (named : String) : State :=
  let old := directoryOf directory s
  let set (s : State) (name text : String) : State :=
    (s.setVar? name (some (bytesOf text)) true).getD s
  { set (set s "OLDPWD" old) "PWD" named with directory := some named }

/-! ## Limits -/

/-- The letters of what is allowed. -/
def allowed (bits : Nat) : String :=
  (if bits &&& 4 != 0 then "r" else "") ++ (if bits &&& 2 != 0 then "w" else "") ++
    (if bits &&& 1 != 0 then "x" else "")

/-- The bits of a letter, for all who are meant. -/
def allowedBits (c : Char) : Option Nat :=
  [('r', 0o444), ('w', 0o222), ('x', 0o111), ('X', 0o111)].lookup c

def whoBits (c : Char) : Option Nat :=
  [('u', 0o700), ('g', 0o070), ('o', 0o007), ('a', 0o777)].lookup c

/-- What is allowed after a change by letters. -/
def changed (bits : Nat) (clause : List Char) : Option Nat :=
  let who := clause.takeWhile fun c => (whoBits c).isSome
  let whom := if who.isEmpty then 0o777
    else who.foldl (fun n c => n ||| (whoBits c).getD 0) 0
  match clause.drop who.length with
  | sign :: what =>
    match what.mapM allowedBits with
    | none => none
    | some given =>
      let given := given.foldl (· ||| ·) 0 &&& whom
      match sign with
      | '=' => some ((bits &&& (0o777 - whom)) ||| given)
      | '+' => some (bits ||| given)
      | '-' => some (bits - (bits &&& given))
      | _ => none
  | [] => none

def umaskOf (mask : Nat) (s : State) (arguments : List Bytes) : Deed :=
  withOptions [('S', false)] arguments fun given rest =>
    let granted := 0o777 - (mask &&& 0o777)
    match rest with
    | [] =>
      if given.isEmpty then
        let ds := Nat.toDigits 8 mask
        print s (String.ofList (List.replicate (4 - ds.length) '0' ++ ds) ++ "\n")
      else
        print s ("u=" ++ allowed (granted / 64) ++ ",g=" ++ allowed (granted / 8) ++ ",o=" ++
          allowed granted ++ "\n")
    | w :: _ =>
      let cs := letters w
      if (cs.head?.map Char.isDigit).getD false then
        if cs.all fun c => '0' ≤ c && c ≤ '7' then
          .mask (cs.foldl (fun n c => n * 8 + (c.toNat - 48)) 0 % 512)
        else .fault ("Illegal number: " ++ wordOf w)
      else
        match ((wordOf w).splitOn ",").foldl
          (fun bits clause => bits.bind fun bits => changed bits clause.toList) (some granted) with
        | some bits => .mask (0o777 - bits)
        | none => .fault ("Illegal mode: " ++ wordOf w)

/-- The limits of a shell: letters, names, and values of which none is no limit. -/
def limits : List (Char × String × Option Nat) :=
  [('t', "time(seconds)", none), ('f', "file(blocks)", none), ('d', "data(kbytes)", none),
   ('s', "stack(kbytes)", some 8192), ('c', "coredump(blocks)", some 0),
   ('m', "memory(kbytes)", none), ('l', "locked memory(kbytes)", some 8192),
   ('p', "process", none), ('n', "nofiles", some 1048576), ('v', "vmemory(kbytes)", none),
   ('w', "locks", none), ('r', "rtprio", some 0)]

def limitText (value : Option Nat) : String := (value.map toString).getD "unlimited" ++ "\n"

def ulimitOf (s : State) (arguments : List Bytes) : Deed :=
  let known := "HSa".toList ++ limits.map (·.1)
  withOptions (known.map fun c => (c, false)) arguments fun given rest =>
    if !rest.isEmpty then status s 0
    else if given.contains 'a' then
      print s (String.join (limits.map fun (_, name, value) =>
        name ++ String.ofList (List.replicate (20 - name.length) ' ') ++ " " ++ limitText value))
    else
      let what := ((given.filter fun c => c != 'H' && c != 'S').getLast?).getD 'f'
      print s (limitText ((limits.lookup what).bind (·.2)))

end Deed
end Shell
end Rehearsal
end Parley
