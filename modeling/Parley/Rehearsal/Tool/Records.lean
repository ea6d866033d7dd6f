import Parley.Rehearsal.Tool.Call
import Parley.Rehearsal.Tool.Records.Reader
import Parley.Rehearsal.Tool.Records.Run

/-!
# Parley.Rehearsal.Tool.Records

The language for records as a tool.

* `Records.awk`: the tool.
-/

namespace Parley
namespace Rehearsal
namespace Records

/-- What stands among the words of a call. -/
structure Options where
  /-- The texts of scripts, or files in which they stand. -/
  files : List Bytes := []
  separator : Option Bytes := none
  assigned : List (String × Bytes) := []
  words : List Bytes := []

/-- Takes the value of an option from its word or from the next one. -/
def valueOf (letter : Char) (cs : List Char) (rest : List Bytes) :
    Except String (Bytes × List Bytes) :=
  match cs, rest with
  | [], [] => .error ("option -" ++ String.ofList [letter] ++ " lacks argument")
  | [], w :: rest => .ok (w, rest)
  | cs, rest => .ok (ofLetters cs, rest)

/-- Reads options up to the first other word. -/
def optionsFrom (o : Options) : Nat → List Bytes → Except String Options
  | 0, words => .ok { o with words }
  | _ + 1, [] => .ok o
  | fuel + 1, w :: rest =>
    match letters w with
    | ['-', '-'] => .ok { o with words := rest }
    | '-' :: 'f' :: cs => do
      let (v, rest) ← valueOf 'f' cs rest
      optionsFrom { o with files := o.files ++ [v] } fuel rest
    | '-' :: 'F' :: cs => do
      let (v, rest) ← valueOf 'F' cs rest
      optionsFrom { o with separator := some (unescapedBytes v) } fuel rest
    | '-' :: 'v' :: cs => do
      let (v, rest) ← valueOf 'v' cs rest
      match assignment? v with
      | some (name, value) =>
        let assigned := o.assigned ++ [(name, unescapedBytes value)]
        optionsFrom { o with assigned } fuel rest
      | none => .error ("improper assignment: -v " ++ wordOf v)
    | '-' :: 'W' :: cs => do
      let (_, rest) ← valueOf 'W' cs rest
      optionsFrom o fuel rest
    | '-' :: _ :: _ => .error ("not an option: " ++ wordOf w)
    | _ => .ok { o with words := w :: rest }

/-- The text of the script, and the words behind it; none if there is no script. -/
def scriptOf (c : Call) (o : Options) : Except String (Option (Bytes × List Bytes)) := do
  if o.files.isEmpty then
    match o.words with
    | w :: rest => return some (w, rest)
    | [] => return none
  let texts ← o.files.mapM fun path =>
    match c.source path with
    | .bytes bs => .ok bs
    | .failed e => .error ("cannot open \"" ++ wordOf path ++ "\" (" ++ e.reason ++ ")")
    | .directory => .error "read error (Is a directory)"
    | _ => .ok []
  return some (texts.flatten, o.words)

/-- Why a file cannot be written. -/
def refusalOf? (c : Call) (path : Bytes) : Option SystemError :=
  match c.disk.find c.directory (wordOf path) with
  | .error e => some e
  | .ok spot => if spot.entry == some .directory then some .isDirectory else none

/-- What is said by the last name of the tool. -/
def complaint (c : Call) (text : String) : String := c.shortName ++ ": " ++ text ++ "\n"

/-- What comes of a script. -/
def outcomeOf (c : Call) (r : Result) (s : State) : Outcome :=
  let output := s.pieces.reverse.flatten
  let errors := s.errors.reverse.flatten
  let files := s.written.reverse.map fun w => (w.path, w.appends, w.pieces.reverse.flatten)
  match r with
  | .waiting =>
    let flushed := ((s.pieces.drop (s.pieces.length - s.flushed)).map List.length).foldl (· + ·) 0
    { output, flushed, errors, code := none }
  | .ended code => { output, errors, files, code := some code }
  | .failed text =>
    { output, errors := errors ++ bytesOf (complaint c text), files, code := some 2 }

/-- How many bytes of its input a script takes at once. -/
def blockSize : Nat := 4096

def usage : String :=
  "Usage: mawk [Options] [Program] [file ...]\n\nProgram:\n" ++
  "    The -f option value is the name of a file containing program text.\n" ++
  "    If no -f option is given, a \"--\" ends option processing; the following\n" ++
  "    parameters are the program text.\n\nOptions:\n" ++
  "    -f program-file  Program  text is read from file instead of from the\n" ++
  "                     command-line.  Multiple -f options are accepted.\n" ++
  "    -F value         sets the field separator, FS, to value.\n" ++
  "    -v var=value     assigns value to program variable var.\n" ++
  "    --               unambiguous end of options.\n\n" ++
  "    Implementation-specific options are prefixed with \"-W\".  They can be\n" ++
  "    abbreviated:\n\n" ++
  "    -W version       show version information and exit.\n" ++
  "    -W compat        pre-POSIX 2001.\n" ++
  "    -W dump          show assembler-like listing of program and exit.\n" ++
  "    -W help          show this message and exit.\n" ++
  "    -W interactive   set unbuffered output, line-buffered input.\n" ++
  "    -W exec file     use file as program as well as last option.\n" ++
  "    -W posix         stricter POSIX checking.\n" ++
  "    -W random=number set initial random seed.\n" ++
  "    -W sprintf=number adjust size of sprintf buffer.\n" ++
  "    -W usage         show this message and exit.\n"

/-- Runs a script. -/
def launch (c : Call) (o : Options) (script : Script) (words : List Bytes) : Launch :=
  .filter fun bs ended =>
    let known := if ended then bs else bs.take (bs.length / blockSize * blockSize)
    let k : Settings := { script, ended, source := c.source, refusal? := refusalOf? c }
    let given := (o.separator.map fun fs => ("FS", fs)).toList ++ o.assigned
    let s := given.foldl (fun s v => s.setSlot (.shared v.1) (.value (.ofOuter v.2)))
      (initial known c.environment (bytesOf c.called :: words))
    let (r, s) := run k s
    outcomeOf c r s

def awk (c : Call) : Launch :=
  if c.arguments.isEmpty then .failure usage 0
  else
    let made : Except String Launch := do
      let o ← optionsFrom {} (c.arguments.length + 1) c.arguments
      match ← scriptOf c o with
      | none => return .print []
      | some (text, words) => return launch c o (← readScript text) words
    match made with
    | .ok l => l
    | .error text => .failure (complaint c text) 2

end Records
end Rehearsal
end Parley
