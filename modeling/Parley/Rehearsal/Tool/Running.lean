import Parley.Rehearsal.Shell.SignalName
import Parley.Rehearsal.Tool.Amount
import Parley.Rehearsal.Tool.Saying

/-!
# Parley.Rehearsal.Tool.Running

Tools that run other programs, and those that only wait.

* `Running.env`, `printenv`: the variables of programs.
* `Running.nice`, `nohup`, `setsid`, `stdbuf`: programs in the place of a tool.
* `Running.timeout`, `sleep`: time.
* `Running.xargs`: programs whose words are read.
-/

namespace Parley
namespace Rehearsal
namespace Running

open Call

/-- Another program in the place of a tool, with the same surroundings. -/
def instead (c : Call) (words : Words) (ignored : List Nat) (complaint : String) : Launch :=
  .other words c.environment c.directory ignored (c.called ++ ": " ++ complaint)

/-! ## Variables -/

def setVariable (e : Inherited) (name value : Bytes) : Inherited :=
  if (e.lookup name).isSome then e.map fun v => if v.1 == name then (name, value) else v
  else e ++ [(name, value)]

/-- Assignments in front of a command, and the command. -/
def assignments (e : Inherited) : List Bytes → Inherited × Words
  | [] => (e, [])
  | w :: rest =>
    let name := w.takeWhile (· != 61)
    if name.length < w.length then
      assignments (setVariable e name (w.drop (name.length + 1))) rest
    else (e, w :: rest)

def envKnown : Known :=
  { known "+iu:0C:vS:" [("ignore-environment", .bare, "i"), ("null", .bare, "0"),
      ("unset", .valued, "u"), ("chdir", .valued, "C"), ("debug", .bare, "v"),
      ("split-string", .valued, "S")] with mixed := false }

def env (c : Call) : Launch :=
  c.options envKnown 125 fun p =>
    let bare := p.operands.head? == some [45]
    let operands := if bare then p.operands.drop 1 else p.operands
    let split := (p.given.filter fun g => g.1 == "S").flatMap fun g =>
      (((wordOf g.2).splitOn " ").filter (· != "")).map bytesOf
    let start := if p.has "i" || bare then [] else c.environment
    let unset := (p.given.filter fun g => g.1 == "u").map (·.2)
    let (e, words) := assignments (start.filter fun v => !unset.contains v.1) (split ++ operands)
    if words.isEmpty then
      let ends : Bytes := if p.has "0" then [0] else [10]
      .print (e.flatMap fun v => v.1 ++ [61] ++ v.2 ++ ends)
    else if p.has "0" then c.misuse "cannot specify --null (-0) with command" 125
    else
      let name := words.headD []
      let complaint := c.called ++ ": " ++ cited name
      let path := ((e.lookup (bytesOf "PATH")).map wordOf).getD Disk.defaultPath
      let isMissing := match c.disk.locate c.directory path (wordOf name) with
        | .error e => e == .noSuchFile
        | .ok _ => false
      let refuse (path : Bytes) (e : SystemError) : Launch :=
        c.fail ("cannot change directory to " ++ asWord path ++ ": " ++ e.reason) 125
      match p.value? "C" with
      | none =>
        if isMissing && name.contains 32 then
          .failure (complaint ++ ": " ++ SystemError.noSuchFile.reason ++ "\n" ++
            c.complaint "use -[v]S to pass options in shebang lines") 127
        else .other words e c.directory [] complaint
      | some path =>
        match c.disk.find c.directory (wordOf path) with
        | .ok ⟨place, some .directory⟩ => .other words e place [] complaint
        | .ok _ => refuse path .notDirectory
        | .error e => refuse path e

def printenv (c : Call) : Launch :=
  c.options { known "0" [("null", .bare, "0")] with mixed := false } 2 fun p =>
    let ends : Bytes := if p.has "0" then [0] else [10]
    if p.operands.isEmpty then .print (c.environment.flatMap fun v => v.1 ++ [61] ++ v.2 ++ ends)
    else
      let found := p.operands.filterMap fun w => c.environment.lookup w
      .tool (.print (found.flatMap fun v => v ++ ends) []
        (if found.length < p.operands.length then 1 else 0)) []

/-! ## Programs in the place of a tool -/

/-- Words in which an adjustment that stands alone behind a sign is an option. -/
def niceWords : List Bytes → List Bytes
  | w :: rest =>
    match letters w with
    | '-' :: d :: ds =>
      if d.isDigit && ds.all Char.isDigit then bytesOf "-n" :: ofLetters (d :: ds) :: niceWords rest
      else if d == 'n' && ds.isEmpty then
        match rest with
        | n :: rest => w :: n :: niceWords rest
        | [] => [w]
      else w :: rest
    | _ => w :: rest
  | [] => []

def nice (c : Call) : Launch :=
  let c := { c with arguments := niceWords c.arguments }
  c.options { known "n:" [("adjustment", .valued, "n")] with mixed := false } 125
    fun p =>
      let isNumber (w : Bytes) : Bool :=
        match letters w with
        | '-' :: ds => !ds.isEmpty && ds.all Char.isDigit
        | '+' :: ds => !ds.isEmpty && ds.all Char.isDigit
        | ds => !ds.isEmpty && ds.all Char.isDigit
      match p.value? "n", p.operands with
      | none, [] => .print (bytesOf "0\n")
      | some _, [] => c.misuse "a command must be given with an adjustment" 125
      | n, words =>
        if (n.map isNumber).getD true then
          instead c words [] (cited (words.headD []))
        else c.fail ("invalid adjustment " ++ cited (n.getD [])) 125

/-- A tool that becomes its operands. -/
def passing (c : Call) (k : Known) (code : Nat) (ignored : List Nat) (missing : String)
    (complaint : String → String) : Launch :=
  c.options { k with mixed := false } code fun p =>
    match p.operands with
    | [] => c.misuse missing code
    | w :: rest => instead c (w :: rest) ignored (complaint (wordOf w))

def failedToRun (name : String) : String := "failed to run command " ++ cited (bytesOf name)

def nohup (c : Call) : Launch :=
  passing c (known "" []) 125 [1] "missing operand" failedToRun

def setsid (c : Call) : Launch :=
  let options := known "cfw" [("ctty", .bare, "c"), ("fork", .bare, "f"), ("wait", .bare, "w")]
  passing c { options with hint := shortHint } 1 [] "no command specified" fun name =>
    "failed to execute " ++ name

/-- The name under which programs find how they hold back one of their streams. -/
def bufferName (stream : String) : Bytes := bytesOf ("_STDBUF_" ++ stream.map Char.toUpper)

/-- How a stream is held back: by lines, not at all, or up to a size. -/
def bufferMode? (w : Bytes) : Option Bytes :=
  if w == bytesOf "L" then some w else (Amount.read? w).map digitsOf

def stdbuf (c : Call) : Launch :=
  let names := [("input", .valued, "i"), ("output", .valued, "o"), ("error", .valued, "e")]
  c.options { known "i:o:e:" names with mixed := false } 125 fun p =>
    let wrong := p.given.find? fun g => (bufferMode? g.2).isNone
    match wrong, p.operands with
    | some g, _ => c.fail ("invalid mode " ++ cited g.2) 125
    | none, [] => c.misuse "missing operand" 125
    | none, words =>
      if p.value? "i" == some (bytesOf "L") then
        c.misuse "line buffering stdin is meaningless" 125
      else if p.given.isEmpty then c.misuse "you must specify a buffering mode option" 125
      else
        let modes := ["i", "o", "e"].filterMap fun k =>
          ((p.value? k).bind bufferMode?).map fun mode => (bufferName k, mode)
        let loaded := (bytesOf "LD_PRELOAD", bytesOf "/usr/libexec/coreutils/libstdbuf.so")
        let e := (modes ++ [loaded]).foldl (fun e v => setVariable e v.1 v.2) c.environment
        instead { c with environment := e } words [] (failedToRun (wordOf (words.headD [])))

/-- Another shell, in the place of which the usual one runs what both understand. -/
def bash (c : Call) : Launch :=
  let shell := instead c (bytesOf "sh" :: c.arguments) [] "sh"
  match c.arguments with
  | [] => shell
  | w :: _ =>
    match letters w with
    | '-' :: '-' :: _ => c.fail (wordOf w ++ ": invalid option") 2
    | '-' :: _ => shell
    | _ =>
      match c.disk.find c.directory (wordOf w) with
      | .ok ⟨_, some .directory⟩ => c.fail (wordOf w ++ ": Is a directory") 126
      | .ok ⟨_, some _⟩ => shell
      | _ => c.fail (wordOf w ++ ": No such file or directory") 127

/-! ## Time -/

def sleep (c : Call) : Launch :=
  c.options (known "" []) 1 fun p =>
    match p.operands with
    | [] => c.misuse "missing operand" 1
    | words =>
      let bad := words.filter fun w => (Amount.time? w).isNone
      if bad.isEmpty then
        .tool (.sleep ((words.filterMap Amount.time?).foldl (· + ·) .zero) none) []
      else
        .failure (String.join (bad.map fun w =>
          c.complaint ("invalid time interval " ++ cited w)) ++ c.hint) 1

def signalOf? (w : Bytes) : Option Nat :=
  let name := wordOf w
  let name := if "SIG".toList.isPrefixOf name.toList then String.ofList (name.toList.drop 3)
    else name
  Shell.SignalName.number? name

def timeout (c : Call) : Launch :=
  c.options { known "k:s:vfp" [("kill-after", .valued, "k"), ("signal", .valued, "s"),
      ("verbose", .bare, "v"), ("foreground", .bare, "f"), ("preserve-status", .bare, "p")] with mixed := false } 125 fun p =>
    match p.operands, signalOf? ((p.value? "s").getD (bytesOf "TERM")) with
    | _, none => c.misuse (cited ((p.value? "s").getD []) ++ ": invalid signal") 125
    | time :: name :: rest, some signal =>
      let badTime (w : Bytes) : Launch :=
        c.misuse ("invalid time interval " ++ cited w) 125
      match Amount.time? time, (p.value? "k").map fun w => (w, Amount.time? w) with
      | none, _ => badTime time
      | some _, some (w, none) => badTime w
      | some time, later =>
        .limited (name :: rest) (if time.isZero then none else some time) signal
          (later.bind (·.2)) (p.has "p") (c.called ++ ": " ++ failedToRun (wordOf name))
    | _, some _ => .failure c.hint 125

/-! ## Programs whose words are read -/

/-- Words that are read: between blanks, with quotes and backslashes. -/
structure Reading where
  words : List Bytes := []
  current : Option Bytes := none
  lines : List (List Bytes) := []

def Reading.close (r : Reading) : Reading :=
  match r.current with
  | some w => { r with words := r.words ++ [w.reverse], current := none }
  | none => r

/-- Ends a line; one without words does not count, and neither does the end of one that goes on. -/
def Reading.endLine (r : Reading) : Reading :=
  let r := r.close
  if r.words.isEmpty then r else { r with words := [], lines := r.lines ++ [r.words] }

def Reading.add (r : Reading) (bs : Bytes) : Reading :=
  { r with current := some (bs.reverse ++ r.current.getD []) }

/-- The words on each line of a text. -/
def readWords : Nat → Reading → Bytes → Except String Reading
  | 0, r, _ => .ok r.endLine
  | _ + 1, r, [] => .ok r.endLine
  | fuel + 1, r, b :: rest =>
    if b == 10 then readWords fuel r.endLine rest
    else if b == 32 || b == 9 then
      let goesOn := (rest.headD 0) == 10
      readWords fuel r.close (if goesOn then rest.drop 1 else rest)
    else if b == 92 then
      match rest with
      | d :: rest => readWords fuel (r.add [d]) rest
      | [] => readWords fuel r []
    else if b == 34 || b == 39 then
      let inner := rest.takeWhile fun d => d != b && d != 10
      match rest.drop inner.length with
      | d :: more =>
        if d == b then readWords fuel (r.add inner) more else .error (unmatched b)
      | [] => .error (unmatched b)
    else readWords fuel (r.add [b]) rest
where
  unmatched (b : UInt8) : String :=
    "unmatched " ++ (if b == 34 then "double" else "single") ++
      " quote; by default quotes are special to xargs unless you use the -0 option"

/-- Pieces of a text between single bytes. -/
def piecesAt (separator : UInt8) (bs : Bytes) : List Bytes :=
  let all := bs.foldr (fun b (acc : List Bytes) =>
    if b == separator then [] :: acc
    else
      match acc with
      | p :: rest => (b :: p) :: rest
      | [] => [[b]]) [[]]
  if all.getLast? == some [] then all.dropLast else all

/-- A text in which each place of another one is taken by a third. -/
def substitute (mark value : Bytes) : Nat → Bytes → Bytes
  | 0, bs => bs
  | _ + 1, [] => []
  | fuel + 1, b :: rest =>
    if !mark.isEmpty && startsWith mark (b :: rest) then
      value ++ substitute mark value fuel ((b :: rest).drop mark.length)
    else b :: substitute mark value fuel rest

/-- Lists of at most so many items. -/
def groupsOf {α : Type} (n : Nat) : Nat → List α → List (List α)
  | 0, _ => []
  | _ + 1, [] => []
  | fuel + 1, ws => ws.take n :: groupsOf n fuel (ws.drop n)

/-- How words are made into commands. -/
structure Making where
  command : Words
  separator : Option UInt8
  perCommand : Option Nat
  linesPer : Option Nat
  mark : Option Bytes
  notEmpty : Bool

def Making.plan (k : Making) (called : String) (input : Bytes) :
    Except (Bytes × Nat) (List Words) := do
  let lines ← match k.separator with
    | some s => pure ((piecesAt s input).map fun w => [w])
    | none =>
      match k.mark with
      | some _ =>
        pure (((piecesAt 10 input).map fun w => w.dropWhile fun b => b == 32 || b == 9).filter
          (!·.isEmpty) |>.map fun w => [w])
      | none =>
        match readWords (input.length + 1) {} input with
        | .ok r => pure r.lines
        | .error text => throw (bytesOf (called ++ ": " ++ text ++ "\n"), 1)
  let words := lines.flatten
  match k.mark, k.linesPer, k.perCommand with
  | some mark, _, _ =>
    return lines.map fun l =>
      k.command.map fun w => substitute mark (joinWith [32] l) (w.length + 1) w
  | none, some n, _ =>
    return (groupsOf n (lines.length + 1) lines).map fun ls => k.command ++ ls.flatten
  | none, none, some n =>
    if words.isEmpty then return if k.notEmpty then [] else [k.command]
    return (groupsOf n (words.length + 1) words).map (k.command ++ ·)
  | none, none, none =>
    if words.isEmpty && k.notEmpty then return []
    return [k.command ++ words]

def xargsKnown : Known :=
  { known "0rtxpoI:i::n:L:l::P:d:s:E:e::a:" [("null", .bare, "0"), ("no-run-if-empty", .bare, "r"),
      ("verbose", .bare, "t"), ("exit", .bare, "x"), ("replace", .maybe, "I"),
      ("max-args", .valued, "n"), ("max-lines", .maybe, "L"), ("max-procs", .valued, "P"),
      ("delimiter", .valued, "d"), ("max-chars", .valued, "s"), ("eof", .maybe, "E"),
      ("arg-file", .valued, "a"), ("interactive", .bare, "p"), ("open-tty", .bare, "o")] with mixed := false }

def xargs (c : Call) : Launch :=
  c.options xargsKnown 1 fun p =>
    let count (key : String) : Option Nat := (p.value? key).bind Amount.plain?
    let delimiter := (p.value? "d").map fun w =>
      match Format.escape ((letters w).drop 1), w.head? with
      | (e, _), some 92 => UInt8.ofNat e.toNat
      | _, b => b.getD 10
    let mark := (p.value? "I" <|> p.value? "i").map fun w => if w.isEmpty then [123, 125] else w
    let k : Making :=
      { command := if p.operands.isEmpty then [bytesOf "echo"] else p.operands
        separator := if p.has "0" then some 0 else delimiter
        perCommand := count "n"
        linesPer := if p.has "l" then some ((count "l").getD 1) else count "L"
        mark
        notEmpty := p.has "r" }
    let joints := (p.value? "a").toList.map fun w => (0, Shell.Opening.read, wordOf w)
    .tool (.batch (k.plan c.called) (p.has "t") []) joints

end Running
end Rehearsal
end Parley
