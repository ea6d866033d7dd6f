import Parley.Settings.Load

/-!
# Parley.CommandLine.Options

The options of the command line, which count above the file and the environment. Arguments are read
in order, and the first one that settles the matter counts.

* `Options.ofArguments`: what arguments say.
* `Options.settings`: the settings of all layers.
-/

namespace Parley
namespace CommandLine

structure Options where
  /-- What the console is to connect to. -/
  port : Option String := none
  binary : Option String := none
  timeout : Option Duration := none
  /-- The path of a file with settings. -/
  config : Option String := none
  quiet : Bool := false
  /-- How often more messages are asked for. -/
  verbosity : Nat := 0
deriving DecidableEq, Repr

/-- Why arguments are not taken as options for a check. -/
inductive Halt
  | version
  | usage
  | wrongArguments
  /-- A timeout that no clock can count. -/
  | endlessTimeout
deriving DecidableEq, Repr

abbrev Reading := Except Halt Options

namespace Options

/-- Gives an option its value; no option is given twice. -/
def once {α : Type} (current : Option α) (set : α → Options) (value : α) : Reading :=
  if current.isSome then .error .wrongArguments else .ok (set value)

/-- The timeout of a number of seconds, which is finite and above zero. A number so small that it
rounds to nothing is one too. -/
def timeoutOfSeconds (x : Binary64) : Except Halt Duration :=
  match x with
  | .finite false (_ + 1) _ =>
    match Duration.ofSeconds? x with
    | some d => .ok d
    | none => .error .endlessTimeout
  | _ => .error .wrongArguments

def timeoutOf (s : String) : Except Halt Duration :=
  match Binary64.ofText? s with
  | some x => timeoutOfSeconds x
  | none => .error .wrongArguments

/-- A path, which is not empty. -/
def pathOf (s : String) : Except Halt String :=
  if s.isEmpty then .error .wrongArguments else .ok s

/-- Takes an option with its value; none if there is no such option. -/
def takeValue? (o : Options) (name value : String) : Option Reading :=
  match name with
  | "binary" => some ((pathOf value).bind (once o.binary fun v => { o with binary := some v }))
  | "config" => some ((pathOf value).bind (once o.config fun v => { o with config := some v }))
  | "timeout" =>
    some ((timeoutOf value).bind (once o.timeout fun v => { o with timeout := some v }))
  | _ => none

/-- Whether an option has a value. -/
def hasValue (name : String) : Bool := ["binary", "config", "timeout"].contains name

def takeQuiet (o : Options) : Reading :=
  if o.quiet then .error .wrongArguments else .ok { o with quiet := true }

def takeVerbose (o : Options) : Options := { o with verbosity := min 255 (o.verbosity + 1) }

/-- Takes an option without a value. -/
def takeFlag (o : Options) (name : String) : Reading :=
  match name with
  | "quiet" => o.takeQuiet
  | "verbose" => .ok o.takeVerbose
  | "version" => .error .version
  | "help" => .error .usage
  | _ => .error .wrongArguments

/-- Takes options that are written as letters. -/
def takeLetters (o : Options) : List Char → Reading
  | [] => .ok o
  | 'q' :: rest => o.takeQuiet.bind fun o => takeLetters o rest
  | 'v' :: rest => takeLetters o.takeVerbose rest
  | 'V' :: _ => .error .version
  | 'h' :: _ => .error .usage
  | _ :: _ => .error .wrongArguments

/-- Takes the target, of which there is one. -/
def takePort (o : Options) (a : String) : Reading :=
  once o.port (fun v => { o with port := some v }) a

def takePorts (o : Options) : List String → Reading
  | [] => .ok o
  | a :: rest => (o.takePort a).bind fun o => takePorts o rest

/-- Whether an argument is an option rather than a value. -/
def isOption (a : String) : Bool := a.toList.head? == some '-' && a != "-"

/-- Takes an option that is written with its value in one argument. -/
def takeAttached (o : Options) (name value : String) : Reading :=
  (o.takeValue? name value).getD (.error .wrongArguments)

/-- Reads arguments in order; behind `--` there are no options. -/
def read (o : Options) : List String → Reading
  | [] => .ok o
  | [a] => if a == "--" then .ok o else readOne o a
  | a :: b :: rest =>
    if a == "--" then o.takePorts (b :: rest)
    else
      match a.toList with
      | '-' :: '-' :: name =>
        let name := String.ofList name
        if hasValue name then
          if isOption b then .error .wrongArguments
          else (o.takeAttached name b).bind fun o => read o rest
        else (readOne o a).bind fun o => read o (b :: rest)
      | _ => (readOne o a).bind fun o => read o (b :: rest)
where
  /-- Reads an argument that needs no other one. -/
  readOne (o : Options) (a : String) : Reading :=
    match a.toList with
    | '-' :: '-' :: text =>
      let name := text.takeWhile (· != '=')
      match text.drop name.length with
      | _ :: value => o.takeAttached (String.ofList name) (String.ofList value)
      | [] => o.takeFlag (String.ofList name)
    | '-' :: c :: letters => o.takeLetters (c :: letters)
    | _ => o.takePort a

/-- The options of arguments. -/
def ofArguments (arguments : List String) : Reading :=
  (read {} arguments).bind fun o =>
    if o.port.isSome then .ok o else .error .wrongArguments

/-- Settings with what the options set over them. -/
def upon (o : Options) (s : Settings) : Settings :=
  { s with
    binary := o.binary.getD s.binary
    timeout := o.timeout.getD s.timeout
    echo := s.echo && !o.quiet }

/-- The settings of all layers. -/
def settings (o : Options) (read : FileReader) (e : Environment) : Except Failure Settings :=
  (Settings.load read o.config { environment := e }).map o.upon

end Options

end CommandLine
end Parley
