import Parley.Rehearsal.Format
import Parley.Rehearsal.Shell.Condition
import Parley.Rehearsal.Tool.Call

/-!
# Parley.Rehearsal.Tool.Saying

Tools that say something without reading anything.

* `Saying.echo`, `printf`: their words.
* `Saying.test`: whether a condition holds.
* `Saying.basename`, `dirname`: parts of paths.
* `Saying.id`, `uname` and others: where and as whom they run.
-/

namespace Parley
namespace Rehearsal
namespace Saying

open Call

/-! ## Words -/

/-- Whether a word is made of options of `echo`. -/
def isEchoOption (w : Bytes) : Bool :=
  match letters w with
  | '-' :: c :: cs => (c :: cs).all fun c => c == 'n' || c == 'e' || c == 'E'
  | _ => false

/-- A text with escapes, among which are some by octal digits and by digits in base sixteen; `false`
says that the output ends there. -/
def unescape (acc : List Char) : Nat → List Char → List Char × Bool
  | 0, _ => (acc.reverse, true)
  | _ + 1, [] => (acc.reverse, true)
  | fuel + 1, '\\' :: rest =>
    match rest with
    | 'c' :: _ => (acc.reverse, false)
    | 'x' :: ds =>
      match Format.hexEscape ds with
      | some (c, rest) => unescape (c :: acc) fuel rest
      | none => unescape ('\\' :: acc) fuel rest
    | '0' :: ds =>
      let (c, rest) := Format.octal 0 3 ds
      unescape (c :: acc) fuel rest
    | rest =>
      let (c, rest) := Format.escape rest
      unescape (c :: acc) fuel rest
  | fuel + 1, c :: rest => unescape (c :: acc) fuel rest

def echo (c : Call) : Launch :=
  let options := c.arguments.takeWhile isEchoOption
  let words := c.arguments.drop options.length
  let flags := options.flatMap fun w => (letters w).drop 1
  let ending : List Char := if flags.contains 'n' then [] else ['\n']
  let text := letters (joinWith [32] words)
  let last := (flags.filter (· != 'n')).getLast?
  let (out, goesOn) := if last == some 'e' then unescape [] (text.length + 1) text else (text, true)
  .print (ofLetters (if goesOn then out ++ ending else out))

def printf (c : Call) : Launch :=
  let words := if c.arguments.head? == some [45, 45] then c.arguments.drop 1 else c.arguments
  match words with
  | [] => c.misuse "missing operand" 1
  | format :: rest =>
    let w := Format.printf .program format rest
    let excess := match w.took, w.fault, rest with
      | false, none, a :: _ =>
        if w.goesOn then
          [c.complaint ("warning: ignoring excess arguments, starting with " ++ cited a)]
        else []
      | _, _, _ => []
    let errors := (w.doubts.reverse ++ w.fault.toList).map c.complaint ++ excess
    let failed := w.fault.isSome || !w.doubts.isEmpty
    .tool (.print w.bytes (bytesOf (String.join errors)) (if failed then 1 else 0)) []

/-! ## Conditions -/

/-- Why a condition cannot be judged. -/
def conditionFault (words : List Bytes) (text : String) : String :=
  let cs := text.toList
  let lead := "Illegal number: "
  if lead.toList.isPrefixOf cs then
    "invalid integer " ++ cited (ofLetters (cs.drop lead.length))
  else
    let word (i : Nat) : String := ((words[i]?).map cited).getD ""
    match words.length with
    | 2 => "missing argument after " ++ word 1
    | 3 => word 1 ++ ": binary operator expected"
    | _ => "extra argument " ++ word 1

def test (c : Call) (bracket : Bool) : Launch :=
  let closed := c.arguments.getLast? == some [93]
  if bracket && !closed then c.fail "missing ']'" 2
  else
    let words := if bracket then c.arguments.dropLast else c.arguments
    let plain := words.map fun w => if w == [61, 61] then [61] else w
    match Shell.Condition.value ⟨c.disk, c.directory, c.descriptors⟩ plain with
    | .ok holds => .tool (.print [] [] (if holds then 0 else 1)) []
    | .error text => c.fail (conditionFault words text) 2

/-! ## Paths -/

/-- A path without slashes at its end, unless there is nothing else. -/
def unslashed (path : Bytes) : Bytes :=
  let short := (path.reverse.dropWhile (· == 47)).reverse
  if short.isEmpty && !path.isEmpty then [47] else short

/-- The last name of a path, without an ending that is not all of it. -/
def lastName (ending path : Bytes) : Bytes :=
  let path := unslashed path
  if path == [47] then path
  else
    let name := (path.reverse.takeWhile (· != 47)).reverse
    if ending.length < name.length && startsWith ending.reverse name.reverse then
      name.take (name.length - ending.length)
    else name

def basename (c : Call) : Launch :=
  let k : Known := { known "as:z" [("multiple", .bare, "a"), ("suffix", .valued, "s"),
    ("zero", .bare, "z")] with mixed := false }
  c.options k 1 fun p =>
    let ends : Bytes := if p.has "z" then [0] else [10]
    let several := p.has "a" || p.has "s"
    match p.operands, several with
    | [], _ => c.misuse "missing operand" 1
    | names, true =>
      .print (names.flatMap fun n => lastName ((p.value? "s").getD []) n ++ ends)
    | [name], false => .print (lastName [] name ++ ends)
    | [name, ending], false => .print (lastName ending name ++ ends)
    | _ :: _ :: w :: _, false => c.misuse ("extra operand " ++ cited w) 1

/-- A path without its last name. -/
def parentOf (path : Bytes) : Bytes :=
  let path := unslashed path
  if path == [47] then path
  else
    let rest := path.reverse.dropWhile (· != 47)
    if rest.isEmpty then [46] else unslashed rest.reverse

def dirname (c : Call) : Launch :=
  c.options (known "z" [("zero", .bare, "z")]) 1 fun p =>
    let ends : Bytes := if p.has "z" then [0] else [10]
    if p.operands.isEmpty then c.misuse "missing operand" 1
    else .print (p.operands.flatMap fun n => parentOf n ++ ends)

def pwd (c : Call) : Launch :=
  c.options (known "LP" [("logical", .bare, "L"), ("physical", .bare, "P")]) 1 fun p =>
    let errors := if p.operands.isEmpty then "" else c.complaint "ignoring non-option arguments"
    .tool (.print (bytesOf (Disk.written c.directory ++ "\n")) (bytesOf errors) 0) []

/-! ## Surroundings -/

/-- A tool without operands that says one thing. -/
def saying (c : Call) (text : String) : Launch :=
  c.options (known "" []) 1 fun p =>
    match p.operands with
    | [] => .print (bytesOf (text ++ "\n"))
    | w :: _ => c.misuse ("extra operand " ++ cited w) 1

def tty (c : Call) : Launch :=
  c.options (known "s" [("silent", .bare, "s"), ("quiet", .bare, "s")]) 2 fun p =>
    match p.operands with
    | [] => .tool (.print (if p.has "s" then [] else bytesOf "not a tty\n") [] 1) []
    | w :: _ => c.misuse ("extra operand " ++ cited w) 2

def id (c : Call) : Launch :=
  c.options (known "agGnruzZ" [("group", .bare, "g"), ("groups", .bare, "G"), ("name", .bare, "n"),
      ("real", .bare, "r"), ("user", .bare, "u"), ("zero", .bare, "z")]) 1 fun p =>
    match p.operands.find? fun w => wordOf w != "root" && wordOf w != "0" with
    | some w => c.fail (cited w ++ ": no such user") 1
    | none =>
      let what := p.last? ["g", "G", "u"]
      let ends := if p.has "z" then "\x00" else "\n"
      if what.isNone then
        if p.has "n" || p.has "r" then
          c.fail "printing only names or real IDs requires -u, -g, or -G" 1
        else .print (bytesOf ("uid=0(root) gid=0(root) groups=0(root)" ++ ends))
      else .print (bytesOf ((if p.has "n" then "root" else "0") ++ ends))

def uname (c : Call) : Launch :=
  c.options (known "asnrvmpio" [("all", .bare, "a"), ("kernel-name", .bare, "s"),
      ("nodename", .bare, "n"), ("kernel-release", .bare, "r"), ("kernel-version", .bare, "v"),
      ("machine", .bare, "m"), ("processor", .bare, "p"), ("hardware-platform", .bare, "i"),
      ("operating-system", .bare, "o")]) 1 fun p =>
    match p.operands with
    | w :: _ => c.misuse ("extra operand " ++ cited w) 1
    | [] =>
      let parts := [("s", "Linux"), ("n", "localhost"), ("r", "6.8.0"), ("v", "#1 SMP"),
        ("m", "x86_64"), ("p", "x86_64"), ("i", "x86_64"), ("o", "GNU/Linux")]
      let told := parts.filter fun (key, _) =>
        p.has key || (p.has "a" && key != "p" && key != "i") || (p.given.isEmpty && key == "s")
      .print (bytesOf (" ".intercalate (told.map (·.2)) ++ "\n"))

end Saying
end Rehearsal
end Parley
