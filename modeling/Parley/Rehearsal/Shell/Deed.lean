import Parley.Number.Leading
import Parley.Rehearsal.Shell.SignalName
import Parley.Rehearsal.Shell.State

/-!
# Parley.Rehearsal.Shell.Deed

What the commands that a shell has of its own come to. Some only change the shell and write
something; the others need the machine and are named here for it.

* `Deed`: what such a command comes to.
* `Deed.options`: the options in front of arguments.
-/

namespace Parley
namespace Rehearsal
namespace Shell

/-- A process to which a signal goes. -/
inductive Target
  | process (pid : Nat)
  /-- The processes of a job, which have no group of their own. -/
  | group (number : Nat)
deriving DecidableEq, Repr

/-- What a command of the shell comes to. -/
inductive Deed
  /-- The shell goes on in a new state, once something is written. -/
  | done (s : State) (output complaint : Bytes)
  /-- The command fails, which ends the shell if it is a special one. -/
  | fault (text : String)
  /-- Ends the shell. -/
  | leave (code : Nat)
  /-- Leaves so many loops, and goes on with the last of them if `again`. -/
  | skip (loops : Nat) (again : Bool)
  /-- Ends a function. -/
  | comeBack (code : Nat)
  /-- Some signals come to nothing from now on, and some others are heeded again. -/
  | heed (s : State) (ignored heeded : List Nat) (complaint : Bytes)
  | signal (n : Nat) (targets : List Target)
  /-- Becomes another program. -/
  | become (words : List Bytes)
  | readLine (raw : Bool) (names : List String)
  /-- Waits, and begins with a status. -/
  | wait (how : Waiting) (status : Nat)
  /-- Runs a script. -/
  | script (text : Bytes)
  /-- Runs the script in a file. -/
  | file (path : Bytes)
  /-- Goes to a directory, which is named so, and perhaps says that. -/
  | go (directory : Path) (named : String) (told : Bool)
  /-- New files allow no more than this leaves. -/
  | mask (bits : Nat)

namespace Deed

/-- Goes on with a status. -/
def status (s : State) (n : Nat) : Deed := .done { s with status := n } [] []

/-- Writes something and succeeds. -/
def print (s : State) (text : String) : Deed := .done { s with status := 0 } (bytesOf text) []

/-- Takes options that stand together. Those that are known have a value if they are marked. -/
def cluster (known : List (Char × Bool)) (acc : List (Char × Bytes)) (rest : List Bytes) :
    List Char → Except String (List (Char × Bytes) × List Bytes)
  | [] => .ok (acc, rest)
  | c :: cs =>
    match known.lookup c with
    | none => .error ("Illegal option -" ++ String.ofList [c])
    | some false => cluster known ((c, []) :: acc) rest cs
    | some true =>
      if !cs.isEmpty then .ok ((c, ofLetters cs) :: acc, rest)
      else
        match rest with
        | value :: rest => .ok ((c, value) :: acc, rest)
        | [] => .error ("No arg for -" ++ String.ofList [c] ++ " option")

/-- The options in front of arguments, each with its value. -/
def optionsFrom (known : List (Char × Bool)) (acc : List (Char × Bytes)) :
    Nat → List Bytes → Except String (List (Char × Bytes) × List Bytes)
  | 0, words => .ok (acc.reverse, words)
  | _ + 1, [] => .ok (acc.reverse, [])
  | fuel + 1, w :: rest =>
    match letters w with
    | '-' :: c :: cs =>
      if c == '-' && cs.isEmpty then .ok (acc.reverse, rest)
      else do
        let (acc, rest) ← cluster known acc rest (c :: cs)
        optionsFrom known acc fuel rest
    | _ => .ok (acc.reverse, w :: rest)

def options (known : List (Char × Bool)) (words : List Bytes) :
    Except String (List (Char × Bytes) × List Bytes) :=
  optionsFrom known [] (words.length + 1) words

/-- A deed by the options and the arguments of a command. -/
def withOptions (known : List (Char × Bool)) (words : List Bytes)
    (f : List Char → List Bytes → Deed) : Deed :=
  match options known words with
  | .ok (given, rest) => f (given.map (·.1)) rest
  | .error text => .fault text

/-- A number that is not negative. -/
def number (w : Bytes) : Except String Nat :=
  let s := wordOf w
  let trimmed := s.toList.dropWhile Number.isBlank
  let (negative, ds) := Number.readSign trimmed
  let run := ds.takeWhile Char.isDigit
  let n := Number.digitsValue run
  if run.isEmpty || !(ds.drop run.length).all Number.isBlank || (negative && n != 0) ||
      Nat.pow 2 31 ≤ n then
    .error ("Illegal number: " ++ s)
  else .ok n

/-- A text between quotes, from which a shell reads it back. -/
def quotedFrom : Nat → List Char → List Char
  | 0, _ => []
  | fuel + 1, cs =>
    let plain := cs.takeWhile (· != '\'')
    let rest := cs.drop plain.length
    let quotes := rest.takeWhile (· == '\'')
    let rest := rest.drop quotes.length
    '\'' :: plain ++ ['\''] ++
      (if quotes.isEmpty then [] else '"' :: quotes ++ ['"']) ++
      if rest.isEmpty then [] else quotedFrom fuel rest

def quoted (bs : Bytes) : String :=
  let cs := letters bs
  String.ofList (quotedFrom (cs.length + 1) cs)

end Deed
end Shell
end Rehearsal
end Parley
