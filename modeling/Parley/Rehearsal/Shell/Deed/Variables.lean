import Parley.Rehearsal.Shell.Deed

/-!
# Parley.Rehearsal.Shell.Deed.Variables

Commands about variables, options and arguments of a shell.

* `State.makeLocal?`, `State.giveBack`: variables that last as long as a command.
* `Deed.exportOf`, `unsetOf`, `localOf`: variables.
* `Deed.setOf`, `shiftOf`, `getoptsOf`: options and arguments.
* `Deed.aliasOf`, `unaliasOf`: aliases.
-/

namespace Parley
namespace Rehearsal
namespace Shell

namespace State

/-- Gives a variable a value until the current command has ended. -/
def makeLocal? (s : State) (name : String) (value : Option Bytes) (exported : Bool) :
    Option State :=
  let saved := (name, s.var? name)
  let s := { s with locals := match s.locals with
                      | here :: outer => (saved :: here) :: outer
                      | [] => [[saved]] }
  match value, saved.2 with
  | none, some _ => some s
  | value, _ => s.setVar? name value exported

/-- Gives variables back what they had before. -/
def giveBack (s : State) (saved : List (String × Option Variable)) : State :=
  saved.foldl (fun s v =>
    match v.2 with
    | some old => s.putVar old
    | none => s.dropVar v.1) s

/-- Ends the current command, with the variables that it had of its own. -/
def endLocals (s : State) : State :=
  match s.locals with
  | here :: outer => { s.giveBack here with locals := outer }
  | [] => s

end State

namespace Deed

/-- A name, and the text behind an equals sign. -/
def assignmentOf (w : Bytes) : String × Option Bytes :=
  let cs := letters w
  let name := cs.takeWhile (· != '=')
  match cs.drop name.length with
  | _ :: value => (String.ofList name, some (ofLetters value))
  | [] => (String.ofList name, none)

def badName (name : String) : String := name ++ ": bad variable name"

/-- The variables that pass a test, in the order of their names. -/
def listing (s : State) (lead : String) (test : Variable → Bool) : String :=
  let vars := (s.vars.filter test).mergeSort fun a b => decide (a.name ≤ b.name)
  String.join (vars.map fun v =>
    lead ++ v.name ++ (match v.value with
      | some bs => "=" ++ quoted bs
      | none => "") ++ "\n")

/-- Marks variables, and gives them values. -/
def markAll (mark : Variable → Variable) : State → List Bytes → Except String State
  | s, [] => .ok s
  | s, w :: rest =>
    let (name, value) := assignmentOf w
    if !isName name.toList then .error (badName name)
    else
      let set := match value with
        | some _ => s.setVar? name value false
        | none => some s
      match set with
      | none => .error (State.readOnlyText name)
      | some s =>
        let old := (s.var? name).getD { name, value := none }
        markAll mark (s.putVar (mark old)) rest

/-- The commands that mark variables. -/
def exportOf (s : State) (command : String) (arguments : List Bytes) : Deed :=
  let isExport := command == "export"
  let mark (v : Variable) : Variable :=
    if isExport then { v with exported := true } else { v with readonly := true }
  withOptions [('p', false)] arguments fun given rest =>
    if rest.isEmpty || given.contains 'p' then
      print s (listing s (command ++ " ") fun v => if isExport then v.exported else v.readonly)
    else
      match markAll mark s rest with
      | .ok s => status s 0
      | .error text => .fault text

def unsetVars : State → List Bytes → Except String State
  | s, [] => .ok s
  | s, w :: rest =>
    let name := (assignmentOf w).1
    if !isName name.toList then .error (badName name)
    else if (s.var? name).any (·.readonly) then .error (State.readOnlyText name)
    else unsetVars (s.dropVar name) rest

def unsetOf (s : State) (arguments : List Bytes) : Deed :=
  withOptions [('v', false), ('f', false)] arguments fun given rest =>
    if given.getLast? == some 'f' then
      let names := rest.map wordOf
      status { s with functions := s.functions.filter fun f => !names.contains f.1 } 0
    else
      match unsetVars s rest with
      | .ok s => status s 0
      | .error text => .fault text

def localAll : State → List Bytes → Except String State
  | s, [] => .ok s
  | s, w :: rest =>
    let (name, value) := assignmentOf w
    if name == "-" then localAll s rest
    else if !isName name.toList then .error (badName name)
    else
      match s.makeLocal? name value false with
      | some s => localAll s rest
      | none => .error (State.readOnlyText name)

def localOf (s : State) (arguments : List Bytes) : Deed :=
  if s.locals.isEmpty then .fault "not in a function"
  else
    match localAll s arguments with
    | .ok s => status s 0
    | .error text => .fault text

/-! ## Options and arguments -/

/-- What is switched on and off. -/
def switchListing (s : State) (asCommands : Bool) : String :=
  if asCommands then
    String.join (Switch.all.map fun (w, name, _) =>
      "set " ++ (if s.isOn w then "-o " else "+o ") ++ name ++ "\n")
  else
    "Current option settings\n" ++ String.join (Switch.all.map fun (w, name, _) =>
      name ++ String.ofList (List.replicate (16 - name.length) ' ') ++
        (if s.isOn w then "on" else "off") ++ "\n")

/-- What options have made of a shell. -/
structure Setting where
  state : State
  output : String := ""
  /-- What is left of the words. -/
  rest : List Bytes
  /-- Whether the words behind the options are arguments even if there are none. -/
  marked : Bool := false
  /-- Letters that only the call of a shell knows. -/
  others : List Char := []

/-- Turns on or off what letters stand for; `known` are letters that stand for something else. -/
def setLetters (known : List Char) (on : Bool) (g : Setting) :
    List Char → Except String Setting
  | [] => .ok g
  | 'o' :: cs =>
    match g.rest with
    | [] => setLetters known on { g with output := g.output ++ switchListing g.state (!on) } cs
    | name :: rest =>
      match Switch.all.find? fun t => t.2.1 == wordOf name with
      | some (w, _, _) => setLetters known on { g with state := g.state.turn w on, rest } cs
      | none => .error ("Illegal option -o " ++ wordOf name)
  | c :: cs =>
    if known.contains c then setLetters known on { g with others := c :: g.others } cs
    else
      match Switch.all.find? fun t => t.2.2 == some c with
      | some (w, _, _) => setLetters known on { g with state := g.state.turn w on } cs
      | none => .error ("Illegal option -" ++ String.ofList [c])

/-- Takes the options in front of words. -/
def setOptions (known : List Char) : Nat → Setting → Except String Setting
  | 0, g => .ok g
  | fuel + 1, g =>
    match g.rest with
    | [] => .ok g
    | w :: rest =>
      match letters w with
      | ['-'] =>
        let state := if known.isEmpty then (g.state.turn .xtrace false).turn .verbose false
          else g.state
        .ok { g with state, rest }
      | ['-', '-'] => .ok { g with rest, marked := true }
      | '-' :: cs => (setLetters known true { g with rest } cs).bind (setOptions known fuel)
      | '+' :: cs => (setLetters known false { g with rest } cs).bind (setOptions known fuel)
      | _ => .ok g

def setOf (s : State) (arguments : List Bytes) : Deed :=
  if arguments.isEmpty then print s (listing s "" fun v => v.value.isSome)
  else
    match setOptions [] (arguments.length + 1) { state := s, rest := arguments } with
    | .error text => .fault text
    | .ok g =>
      let s := if g.marked || !g.rest.isEmpty then
          { g.state with arguments := g.rest, optionIndex := 1, optionOffset := 0 }
        else g.state
      if s.isOn .monitor then
        let text := { s with speaker := some "set" }.complaint State.noTerminalText
        .done ({ s with status := 0 }.turn .monitor false) (bytesOf g.output) text
      else print s g.output

/-- A count in front of other arguments; one if there is none. -/
def countOf (arguments : List Bytes) : Except String Nat :=
  match arguments with
  | [] => .ok 1
  | a :: _ => number a

def shiftOf (s : State) (arguments : List Bytes) : Deed :=
  match countOf arguments with
  | .error text => .fault text
  | .ok n =>
    if s.arguments.length < n then .fault "can't shift that many"
    else status { s with arguments := s.arguments.drop n, optionIndex := 1, optionOffset := 0 } 0

/-- What the next option comes to. -/
structure FoundOption where
  /-- The letter that the variable gets. -/
  letter : Char
  /-- The value of the option; none if it loses the one from before. -/
  value : Option Bytes := none
  keeps : Bool := false
  index : Nat
  offset : Nat := 0
  complaint : String := ""
  atEnd : Bool := false

/-- The next option among words, of those that a text tells. -/
def nextOption (known : List Char) (words : List Bytes) (index offset : Nat) : FoundOption :=
  let index := if words.length + 1 < index then 1 else index
  let word (i : Nat) : List Char := (words[i]?.map letters).getD []
  let left := if index ≤ 1 || offset == 0 then [] else (word (index - 2)).drop offset
  let begin? : Option (List Char × Nat × Nat) :=
    if !left.isEmpty then some (left, index, offset)
    else
      match word (index - 1) with
      | '-' :: c :: cs => if c == '-' && cs.isEmpty then none else some (c :: cs, index + 1, 1)
      | _ => none
  match begin? with
  | none =>
    let index := if word (index - 1) == ['-', '-'] && words[index - 1]?.isSome then index + 1
      else index
    { letter := '?', keeps := true, index, atEnd := true }
  | some ([], index, _) => { letter := '?', keeps := true, index, atEnd := true }
  | some (c :: cs, index, offset) =>
    let silent := known.head? == some ':'
    let offset := if cs.isEmpty then 0 else offset + 1
    let behind := (known.drop (if silent then 1 else 0)).dropWhile (· != c)
    let one := ofLetters [c]
    if c == ':' || behind.isEmpty then
      if silent then { letter := '?', value := some one, index, offset }
      else
        { letter := '?', index, offset
          complaint := "Illegal option -" ++ String.ofList [c] ++ "\n" }
    else if behind.tail.head? == some ':' then
      if !cs.isEmpty then { letter := c, value := some (ofLetters cs), index }
      else
        match words[index - 1]? with
        | some w => { letter := c, value := some w, index := index + 1 }
        | none =>
          if silent then { letter := ':', value := some one, index }
          else
            { letter := '?', index
              complaint := "No arg for -" ++ String.ofList [c] ++ " option\n" }
    else { letter := c, value := some [], index, offset }

def getoptsOf (s : State) (arguments : List Bytes) : Deed :=
  match arguments with
  | known :: name :: words =>
    let words := if words.isEmpty then s.arguments else words
    let name := (assignmentOf name).1
    let o := nextOption (letters known) words s.optionIndex s.optionOffset
    if !isName name.toList then .fault (badName name)
    else
      let s := if o.keeps then some s
        else
          match o.value with
          | some bs => s.setVar? "OPTARG" (some bs) false
          | none => some (s.dropVar "OPTARG")
      let s := s.bind fun s => s.setVar? "OPTIND" (some (digitsOf o.index)) false
      match s.bind fun s => s.setVar? name (some (ofLetters [o.letter])) false with
      | some s =>
        .done { s with optionIndex := o.index, optionOffset := o.offset
                       status := if o.atEnd then 1 else 0 } [] (bytesOf o.complaint)
      | none => .fault (State.readOnlyText name)
  | _ => .fault "Usage: getopts optstring var [arg...]"

/-! ## Aliases -/

/-- Aliases in the order in which they are told. -/
def aliasesOf (s : State) : List (String × Bytes) :=
  (List.range 39).flatMap fun slot => s.aliases.filter fun a => State.slotOf a.1 == slot

def aliasLine (a : String × Bytes) : String := a.1 ++ "=" ++ quoted a.2 ++ "\n"

def aliasOf (s : State) (arguments : List Bytes) : Deed :=
  if arguments.isEmpty then print s (String.join ((aliasesOf s).map aliasLine))
  else
    let start : State × String × String := ({ s with status := 0 }, "", "")
    let (s, output, complaint) := arguments.foldl (fun (s, output, complaint) w =>
      match assignmentOf w with
      | (name, some text) =>
        let others := s.aliases.filter fun a => a.1 != name
        let aliases := if others.length < s.aliases.length then
            s.aliases.map fun a => if a.1 == name then (name, text) else a
          else s.aliases ++ [(name, text)]
        ({ s with aliases }, output, complaint)
      | (name, none) =>
        match s.aliases.lookup name with
        | some text => (s, output ++ aliasLine (name, text), complaint)
        | none =>
          ({ s with status := 1 }, output, complaint ++ "alias: " ++ name ++ " not found\n"))
      start
    .done s (bytesOf output) (bytesOf complaint)

def unaliasOf (s : State) (arguments : List Bytes) : Deed :=
  withOptions [('a', false)] arguments fun given rest =>
    if !given.isEmpty then status { s with aliases := [] } 0
    else
      let start : State × String := ({ s with status := 0 }, "")
      let (s, complaint) := rest.foldl (fun (s, complaint) w =>
        let name := wordOf w
        if (s.aliases.lookup name).isSome then
          ({ s with aliases := s.aliases.filter fun a => a.1 != name }, complaint)
        else ({ s with status := 1 }, complaint ++ "unalias: " ++ name ++ " not found\n")) start
      .done s [] (bytesOf complaint)

end Deed
end Shell
end Rehearsal
end Parley
