import Parley.Number.Leading
import Parley.Rehearsal.Shell.State

/-!
# Parley.Rehearsal.Shell.Condition

The conditions of `test`: about texts, about whole numbers, and about what stands on the disk, with
`!`, `-a`, `-o` and brackets between them.

* `Condition.value`: whether a condition holds, or what is wrong with it.
-/

namespace Parley
namespace Rehearsal
namespace Shell
namespace Condition

/-- What conditions may ask about. -/
structure Setting where
  disk : Disk
  directory : Path
  descriptors : Descriptors

/-- What a word is in a condition. -/
inductive Sign
  /-- Asks about the word behind it. -/
  | unary
  /-- Compares the words around it. -/
  | binary
  | negation
  | both
  | either
  | opening
  | closing
deriving DecidableEq, Repr

def signOf? (word : String) : Option Sign :=
  if ["-r", "-w", "-x", "-e", "-f", "-d", "-c", "-b", "-p", "-u", "-g", "-k", "-s", "-t", "-z",
      "-n", "-h", "-L", "-O", "-G", "-S"].contains word then some .unary
  else if ["=", "!=", "<", ">", "-eq", "-ne", "-ge", "-gt", "-le", "-lt", "-nt", "-ot",
      "-ef"].contains word then some .binary
  else
    match word with
    | "!" => some .negation
    | "-a" => some .both
    | "-o" => some .either
    | "(" => some .opening
    | ")" => some .closing
    | _ => none

/-- A number in base ten, with blanks around it. -/
def number (word : String) : Except String Int :=
  let cs := word.toList.dropWhile Number.isBlank
  let (negative, ds) := Number.readSign cs
  let run := ds.takeWhile Char.isDigit
  let n : Int := Number.digitsValue run
  let n := if negative then -n else n
  if run.isEmpty || !(ds.drop run.length).all Number.isBlank || n < -(Int.pow 2 63) ||
      Int.pow 2 63 ≤ n then
    .error ("Illegal number: " ++ word)
  else .ok n

/-! ## Files -/

/-- What stands at a path, without the last link being followed. -/
def isLink (c : Setting) (path : String) : Bool :=
  match path.splitOn "/" |>.filter (· != "") with
  | [] => false
  | names =>
    match c.disk.find c.directory ("/" ++ "/".intercalate names.dropLast) with
    | .ok spot =>
      match c.disk.entryAt? (spot.path ++ [names.getLast?.getD ""]) with
      | some (.link _) => true
      | some (.stream _) => true
      | some (.executable _) =>
        spot.path == ["usr", "bin"] && linked.contains (names.getLast?.getD "")
      | _ => false
    | .error _ => false
where
  /-- Programs that stand under another name. -/
  linked : List String := ["sh", "awk", "nawk", "which"]

def isPipe (c : Setting) (descriptor : Nat) : Bool :=
  match c.descriptors.lookup descriptor with
  | some (.reading _) => true
  | some (.writing _) => true
  | _ => false

/-- Whether something about a path is so. -/
def holdsOfFile (c : Setting) (sign path : String) : Bool :=
  match (c.disk.find c.directory path).toOption.bind (·.entry) with
  | none => false
  | some e =>
    match sign with
    | "-e" => true
    | "-r" => true
    | "-w" => true
    | "-O" => true
    | "-G" => true
    | "-d" => e == .directory
    | "-f" =>
      match e with
      | .file .. => true
      | .executable _ => true
      | _ => false
    | "-x" =>
      match e with
      | .directory => true
      | .executable _ => true
      | .file _ mode => Disk.mayRun mode
      | _ => false
    | "-c" =>
      match e with
      | .device _ => true
      | .stream d => (c.descriptors.lookup d).any fun e => e == .device .null
      | _ => false
    | "-p" =>
      match e with
      | .stream d => isPipe c d
      | _ => false
    | "-s" =>
      match e with
      | .directory => true
      | .executable _ => true
      | .file number _ => !(c.disk.contentOf number).isEmpty
      | _ => false
    | "-k" => path == "/tmp" || path == "/var/tmp"
    | _ => false

/-! ## Conditions -/

/-- How far a condition has been read: the word at which a part of it has ended. -/
abbrev Reading := StateT Nat (Except String)

def complain {α : Type} (text : String) : Reading α := throw text

section

variable (c : Setting) (words : Array String)

/-- Whether the sign of a question is a word of its own, because nothing follows about which it
could ask, or because it is compared with something. -/
def standsAlone (i : Nat) : Bool :=
  match words[i + 1]? with
  | none => true
  | some next => words[i + 2]?.isSome && signOf? next == some .binary

/-- The sign at a place. -/
def signAt (i : Nat) : Option Sign :=
  match words[i]? with
  | none => none
  | some w =>
    match signOf? w with
    | some .unary => if standsAlone words i then none else some .unary
    | some .opening => if words[i + 1]?.isNone then none else some .opening
    | s => s

def unary (sign word : String) : Except String Bool :=
  match sign with
  | "-z" => .ok (word == "")
  | "-n" => .ok (word != "")
  | "-t" => (number word).map fun _ => false
  | "-h" => .ok (isLink c word)
  | "-L" => .ok (isLink c word)
  | s => .ok (holdsOfFile c s word)

def binary (a sign b : String) : Except String Bool :=
  let numbers (holds : Int → Int → Bool) : Except String Bool := do
    let x ← number a
    let y ← number b
    return holds x y
  match sign with
  | "=" => .ok (a == b)
  | "!=" => .ok (a != b)
  | "<" => .ok (decide (a < b))
  | ">" => .ok (decide (b < a))
  | "-eq" => numbers (· == ·)
  | "-ne" => numbers (· != ·)
  | "-lt" => numbers fun x y => decide (x < y)
  | "-le" => numbers fun x y => decide (x ≤ y)
  | "-gt" => numbers fun x y => decide (y < x)
  | "-ge" => numbers fun x y => decide (y ≤ x)
  | "-ef" =>
    match c.disk.find c.directory a, c.disk.find c.directory b with
    | .ok x, .ok y => .ok (x.entry.isSome && x.path == y.path)
    | _, _ => .ok false
  | _ => .ok false

/-- A comparison at the current place. -/
def comparison : Reading Bool := do
  let i ← get
  match words[i]?, words[i + 1]?, words[i + 2]? with
  | some a, some sign, some b =>
    set (i + 2)
    match binary c a sign b with
    | .ok v => return v
    | .error e => complain e
  | _, some sign, none => complain (sign ++ ": argument expected")
  | _, _, _ => return false

mutual

def either : Nat → Reading Bool
  | 0 => complain "too deep"
  | fuel + 1 => do eitherFrom false fuel

def eitherFrom (acc : Bool) : Nat → Reading Bool
  | 0 => complain "too deep"
  | fuel + 1 => do
    let v ← both true fuel
    let i ← get
    if signAt words (i + 1) == some .either then
      set (i + 2)
      eitherFrom (acc || v) fuel
    else return acc || v

def both (acc : Bool) : Nat → Reading Bool
  | 0 => complain "too deep"
  | fuel + 1 => do
    let v ← negated fuel
    let i ← get
    if signAt words (i + 1) == some .both then
      set (i + 2)
      both (acc && v) fuel
    else return acc && v

def negated : Nat → Reading Bool
  | 0 => complain "too deep"
  | fuel + 1 => do
    let i ← get
    if signAt words i == some .negation then
      if words[i + 1]?.isSome then
        set (i + 1)
        return !(← negated fuel)
      else return true
    else single fuel

def single : Nat → Reading Bool
  | 0 => complain "too deep"
  | fuel + 1 => do
    let i ← get
    match words[i]?, signAt words i with
    | none, _ => return false
    | some _, some .opening =>
      set (i + 1)
      if signAt words (i + 1) == some .closing then return false
      else
        let v ← either fuel
        let j ← get
        set (j + 1)
        if signAt words (j + 1) == some .closing then return v
        else complain "closing paren expected"
    | some w, some .unary =>
      match words[i + 1]? with
      | none => complain (w ++ ": argument expected")
      | some operand =>
        set (i + 1)
        match unary c w operand with
        | .ok v => return v
        | .error e => complain e
    | some w, _ =>
      if signAt words (i + 1) == some .binary then comparison c words
      else return w != ""

end

end

/-- Whether a condition holds. -/
def value (c : Setting) (arguments : List Bytes) : Except String Bool :=
  judge (arguments.length + 1) true (arguments.map wordOf)
where
  read (yes : Bool) (words : List String) (x : Reading Bool) : Except String Bool := do
    let (v, i) ← x.run 0
    match words[i]?, words[i + 1]? with
    | some w, some _ =>
      throw (if w == "" then "unexpected operator" else w ++ ": unexpected operator")
    | _, _ => return v == yes
  judge : Nat → Bool → List String → Except String Bool
    | 0, yes, _ => .ok !yes
    | fuel + 1, yes, words =>
      let all := words.toArray
      let whole : Reading Bool := either c all (8 * words.length + 16)
      match words with
      | [] => .ok !yes
      | first :: rest =>
        if words.length == 3 && (words[1]?.bind signOf?) == some .binary then
          read yes words (do
            let v ← comparison c all
            return v)
        else if (words.length == 3 || words.length == 4) && first == "(" &&
            rest.getLast? == some ")" then
          let inner := rest.dropLast
          read yes inner (either c inner.toArray (8 * inner.length + 16))
        else if (words.length == 3 || words.length == 4) && first == "!" then judge fuel (!yes) rest
        else read yes words whole

end Condition
end Shell
end Rehearsal
end Parley
