import Parley.Rehearsal.Shell.Arithmetic
import Parley.Rehearsal.Shell.Glob
import Parley.Rehearsal.Shell.State

/-!
# Parley.Rehearsal.Shell.Expand

What words stand for: the values of parameters take their places, what was not quoted is split into
fields, and fields that are patterns give way to the paths for which they stand.

A word may need the output of a command. Then its expansion stops and says so; once the output is
known, the expansion is done again from the start, with that output as an answer. Since nothing but
the answers comes from outside, it goes the same way again.

* `Expansion`: an expansion, which stops with a `Halt`.
* `Expand.fields`, `Expand.command`: the fields of some words.
* `Expand.text`, `Expand.pattern`: a word as one text and as a pattern.
-/

namespace Parley
namespace Rehearsal
namespace Shell

/-- What stops an expansion. -/
inductive Halt
  /-- The output of a command is needed, which runs in this state. -/
  | output (c : Command) (s : State)
  | fault (text : String)

structure Expanding where
  state : State
  /-- The outputs that are known and were not yet asked for. -/
  answers : List (Bytes × Nat)

abbrev Expansion := StateT Expanding (Except Halt)

/-- Where a shell stands. -/
structure Place where
  disk : Disk
  directory : Path

namespace Expand

/-- A piece of what a word stands for. -/
inductive Item
  | byte (b : UInt8) (quoted splits : Bool)
  /-- Separates fields as a blank does. -/
  | gap
  /-- Separates fields, empty ones as well. -/
  | cut
  /-- Quotes, which make a field even of nothing. -/
  | mark
deriving DecidableEq, Repr

/-- Where a tilde stands for a directory. -/
inductive Tilde
  | nowhere
  | atStart
  /-- At the start and behind every colon. -/
  | inValue
deriving DecidableEq, Repr

/-- How a word is expanded. -/
structure Mode where
  /-- Values are split into fields. -/
  splits : Bool := false
  /-- So is text, because it stands in the word of a parameter. -/
  textSplits : Bool := false
  tilde : Tilde := .nowhere

def fault {α : Type} (text : String) : Expansion α := throw (.fault text)

def quotedBytes (bs : Bytes) : List Item := bs.map fun b => .byte b true false

/-! ## Tildes -/

/-- The directory of a user. -/
def homeOf (s : State) (user : String) : Option Bytes :=
  if user == "" then (s.value? "HOME").filter fun bs => !bs.isEmpty
  else (Disk.users.find? fun u => u.1 == user).map fun u => bytesOf u.2.2

/-- A text of which the beginning may stand for a directory. With `open` something that is no text
follows it. -/
def tilded (s : State) (bs : Bytes) (isOpen : Bool) (splits : Bool) : List Item :=
  let plain (bs : Bytes) : List Item := bs.map fun b => .byte b false splits
  match bs with
  | 126 :: rest =>
    let user := rest.takeWhile (· != 47)
    if isOpen && user.length == rest.length then plain bs
    else
      match homeOf s (wordOf user) with
      | some home => quotedBytes home ++ plain (rest.drop user.length)
      | none => plain bs
  | bs => plain bs

/-- Pieces of a text, each but the last with the colon behind it. -/
def colonPieces (bs : Bytes) : List Bytes :=
  bs.foldr (fun b acc =>
    match acc with
    | p :: rest => if b == 58 then [b] :: p :: rest else (b :: p) :: rest
    | [] => [[b]]) [[]]

/-- A text without quotes. -/
def textItems (s : State) (m : Mode) (atStart isOpen : Bool) (bs : Bytes) : List Item :=
  let plain (bs : Bytes) : List Item := bs.map fun b => .byte b false m.textSplits
  match m.tilde with
  | .nowhere => plain bs
  | .atStart => if atStart then tilded s bs isOpen m.textSplits else plain bs
  | .inValue =>
    let pieces := colonPieces bs
    let count := pieces.length
    (pieces.zipIdx.map fun (piece, i) =>
      if i == 0 && !atStart then plain piece
      else if i + 1 == count then tilded s piece isOpen m.textSplits
      else
        tilded s piece.dropLast false m.textSplits ++ plain (piece.drop (piece.length - 1))).flatten

/-! ## Parameters -/

/-- The value of a parameter: a text, or the arguments. -/
inductive Value
  | one (bs : Bytes)
  | all (values : List Bytes)

/-- The letters of what is switched on, the last one first. -/
def switchLetters (s : State) : Bytes :=
  ofLetters (Switch.all.reverse.filterMap fun (w, _, letter) => if s.isOn w then letter else none)

def valueOf (s : State) (name : String) : Option Value :=
  let number (n : Nat) : Option Value := some (.one (digitsOf n))
  match name with
  | "@" => if s.arguments.isEmpty then none else some (.all s.arguments)
  | "*" => if s.arguments.isEmpty then none else some (.all s.arguments)
  | "#" => number s.arguments.length
  | "?" => number s.status
  | "$" => number s.rootPid
  | "!" => s.lastBackground.bind number
  | "-" => some (.one (switchLetters s))
  | "0" => some (.one s.name)
  | name =>
    match name.toNat? with
    | some 0 => some (.one s.name)
    | some n => (s.arguments[n - 1]?).map .one
    | none => (s.value? name).map .one

/-- What stands between arguments that are put together. -/
def joiner (s : State) : Bytes :=
  match s.value? "IFS" with
  | some ifs => ifs.take 1
  | none => [32]

/-- A value in a word. -/
def valueItems (s : State) (m : Mode) (quoted : Bool) (name : String) (v : Value) : List Item :=
  let bytes (bs : Bytes) : List Item := bs.map fun b => .byte b quoted (m.splits && !quoted)
  match v with
  | .one bs => bytes bs
  | .all values =>
    if m.splits && !quoted then [Item.gap].intercalate (values.map bytes)
    else if m.splits && name == "@" then
      [Item.cut].intercalate (values.map fun bs => Item.mark :: bytes bs)
    else bytes (joinWith (joiner s) values)

/-- The length of a value. -/
def lengthOf (s : State) (m : Mode) (quoted : Bool) (name : String) (v : Value) : Nat :=
  ((valueItems s m quoted name v).filter (· != .mark)).length

/-- What pieces stand for as a text; a separation counts as one byte. -/
def itemByte : Item → UInt8
  | .byte b _ _ => b
  | _ => 0

/-- How much of a text a pattern takes away at one of its ends; none if it stands for no part
there. -/
def trimLength (atEnd longest : Bool) (gs : List Glob) (bs : Bytes) : Option Nat :=
  let part (n : Nat) : Bytes := if atEnd then bs.drop (bs.length - n) else bs.take n
  let lengths := List.range (bs.length + 1)
  (if longest then lengths.reverse else lengths).find? fun n => Glob.fits gs (part n)

/-- Pieces without what a pattern stands for at one of their ends. -/
def trim (atEnd longest : Bool) (gs : List Glob) (items : List Item) : List Item :=
  let solid := items.filter (· != .mark)
  let kept := match trimLength atEnd longest gs (solid.map itemByte) with
    | some n => if atEnd then solid.take (solid.length - n) else solid.drop n
    | none => solid
  if items.contains .mark then
    .mark :: kept.flatMap fun i => if i == .cut then [i, .mark] else [i]
  else kept

/-- Pieces as bytes, each with whether it was quoted. -/
def marked (items : List Item) : List Marked :=
  items.filterMap fun
    | .byte b quoted _ => some (b, quoted)
    | .mark => none
    | _ => some (32, true)

def plainBytes (items : List Item) : Bytes := (marked items).map (·.1)

/-- A variable as a number. -/
def readNumber (s : State) (name : String) : Except String Int :=
  let cs := letters ((s.value? name).getD [])
  let illegal : Except String Int := .error ("Illegal number: " ++ String.ofList cs)
  match Number.leadingInt? cs with
  | some (i, rest) =>
    if rest.all Number.isBlank && -(Int.pow 2 63) ≤ i && i < Int.pow 2 63 then .ok i else illegal
  | none => if cs.all Number.isBlank then .ok 0 else illegal

def writeNumber (s : State) (name : String) (i : Int) : Except String State :=
  match s.setVar? name (some (bytesOf (toString i))) false with
  | some s => .ok s
  | none => .error (State.readOnlyText name)

def access : Arithmetic.Access State := ⟨readNumber, writeNumber⟩

/-- Gives a parameter a value. -/
def assign (name : String) (bs : Bytes) : Expansion Unit := do
  let e ← get
  if !isName name.toList then fault (name ++ ": bad variable name")
  else
    match e.state.setVar? name (some bs) false with
    | some state => set { e with state }
    | none => fault (State.readOnlyText name)

/-- The output of a command, without line feeds at its end. -/
def outputOf (c : Command) : Expansion Bytes := do
  let e ← get
  match e.answers with
  | (bs, status) :: answers =>
    set { e with state := { e.state with outputStatus := status }, answers }
    return ((bs.filter (· != 0)).reverse.dropWhile (· == 10)).reverse
  | [] => throw (.output c e.state)

mutual

/-- What a part of a word stands for. With `atStart` it is the first one, and with `isOpen` not the
last one. -/
def part (m : Mode) (quoted atStart isOpen : Bool) : Part → Expansion (List Item)
  | .text bs => do
    if quoted then return quotedBytes bs else return textItems (← get).state m atStart isOpen bs
  | .literal bs => return .mark :: quotedBytes bs
  | .quotes ps => do
    let items ← parts { m with tilde := .nowhere } true true ps
    match quoted, ps with
    | false, [.parameter "@" .value] => return items
    | _, _ => return .mark :: items
  | .parameter name u => use m quoted name u
  | .output none => return []
  | .output (some c) => do
    let bs ← outputOf c
    return bs.map fun b => .byte b quoted (m.splits && !quoted)
  | .arithmetic expression => do
    let items ← parts {} true true expression
    let e ← get
    match Arithmetic.value access e.state (letters (plainBytes items)) with
    | .ok (i, state) =>
      set { e with state }
      return (bytesOf (toString i)).map fun b => .byte b quoted (m.splits && !quoted)
    | .error text => fault text

/-- What is asked about a parameter. -/
def use (m : Mode) (quoted : Bool) (name : String) : Use → Expansion (List Item)
  | .value => do
    let s := (← get).state
    match valueOf s name with
    | some v => return valueItems s m quoted name v
    | none => unset s
  | .length => do
    let s := (← get).state
    match valueOf s name with
    | some v =>
      let n := lengthOf s m quoted name v
      return (digitsOf n).map fun b => .byte b quoted (m.splits && !quoted)
    | none =>
      let _ ← unset s
      return [.byte 48 quoted (m.splits && !quoted)]
  | .malformed => fault "Bad substitution"
  | .substitute how orEmpty word => do
    let s := (← get).state
    let value := (valueOf s name).filter fun v => !orEmpty || lengthOf s m quoted name v != 0
    let inWord : Mode := { m with textSplits := m.splits && !quoted, tilde := .atStart }
    match how, value with
    | .instead, none => return []
    | .instead, some _ => parts inWord quoted true word
    | _, some v => return valueItems s m quoted name v
    | .otherwise, none => parts inWord quoted true word
    | .assigned, none =>
      let items ← parts { tilde := .atStart } quoted true word
      let bs := plainBytes items
      assign name bs
      return valueItems (← get).state m quoted name (.one bs)
    | .demanded, none =>
      let items ← parts { tilde := .atStart } quoted true word
      let told := if word.isEmpty then "parameter not set" ++ (if orEmpty then " or null" else "")
        else wordOf (plainBytes items)
      fault (name ++ ": " ++ told)
  | .trimmed atEnd longest pattern => do
    let s := (← get).state
    match valueOf s name with
    | none => unset s
    | some v =>
      let items ← parts { tilde := .atStart } false true pattern
      let gs := Glob.ofMarked (marked items)
      return trim atEnd longest gs (valueItems s m quoted name v)
where
  /-- A parameter that has no value. -/
  unset (s : State) : Expansion (List Item) :=
    if s.isOn .nounset && name != "@" && name != "*" then fault (name ++ ": parameter not set")
    else return []

/-- What the parts of a word stand for. -/
def parts (m : Mode) (quoted atStart : Bool) : List Part → Expansion (List Item)
  | [] => return []
  | p :: rest => do
    let items ← part m quoted atStart (!rest.isEmpty) p
    let others ← parts m quoted false rest
    return items ++ others

end

/-! ## Fields -/

/-- Fields while pieces are read: those that are complete, the last one first, and the current
one. -/
structure Fields where
  done : List (List Marked) := []
  current : Option (List Marked) := none
  /-- Whether a blank has ended the last field, so that one more separator may stand there. -/
  afterBlank : Bool := false

namespace Fields

/-- Ends the current field. -/
def close (f : Fields) : Fields :=
  { f with done := (f.current.getD []).reverse :: f.done, current := none }

/-- Ends the current field if there is one, as a blank does. -/
def blank (f : Fields) : Fields :=
  match f.current with
  | some _ => { f.close with afterBlank := true }
  | none => f

/-- Ends the current field, which may be empty. -/
def separate (f : Fields) : Fields :=
  if f.afterBlank && f.current.isNone then { f with afterBlank := false } else f.close

def add (f : Fields) (cs : List Marked) : Fields :=
  { f with current := some (cs ++ f.current.getD []), afterBlank := false }

def item (separators : Bytes) (f : Fields) : Item → Fields
  | .byte b quoted splits =>
    if splits && separators.contains b then
      (if [32, 9, 10].contains b then f.blank else f.separate)
    else f.add [(b, quoted)]
  | .gap => f.blank
  | .cut => f.close
  | .mark => f.add []

end Fields

/-- The fields of pieces. -/
def split (separators : Bytes) (items : List Item) : List (List Marked) :=
  let f := items.foldl (Fields.item separators) {}
  let f := if f.current.isSome then f.close else f
  f.done.reverse

/-- The paths that a field stands for, or the field itself. -/
def found (place : Place) (s : State) (cs : List Marked) : List Bytes :=
  if s.isOn .noglob || !Glob.isPattern cs then [cs.map (·.1)]
  else
    match Glob.paths place.disk place.directory cs with
    | [] => [cs.map (·.1)]
    | paths => paths.map bytesOf

/-- The fields of a word. -/
def wordFields (place : Place) (w : Word) : Expansion (List Bytes) := do
  let items ← parts { splits := true, tilde := .atStart } false true w
  let s := (← get).state
  return (split s.separators items).flatMap (found place s)

/-- A word as one text. -/
def text (tilde : Tilde) (w : Word) : Expansion Bytes :=
  return plainBytes (← parts { tilde } false true w)

/-- A text with parameters in it. -/
def document (w : Word) : Expansion Bytes := return plainBytes (← parts {} true true w)

/-- A word as a pattern. -/
def pattern (w : Word) : Expansion (List Glob) :=
  return Glob.ofMarked (marked (← parts { tilde := .atStart } false true w))

/-- The fields of some words. -/
def fields (place : Place) (words : List Word) : Expansion (List Bytes) :=
  return (← words.mapM (wordFields place)).flatten

/-- The words of a command without those that only say that it is no function, and whether there
were such words; none if these words ask for something else. -/
def bareWords : List Bytes → Bool × List Bytes
  | [] => (false, [])
  | a :: rest =>
    if wordOf a == "command" then (pass rest).elim (false, a :: rest) fun words => (true, words)
    else (false, a :: rest)
where
  pass : List Bytes → Option (List Bytes)
    | [] => none
    | w :: rest =>
      match letters w with
      | ['-', '-'] => if rest.isEmpty then none else some (inner rest)
      | '-' :: c :: cs => if (c :: cs).all (· == 'p') then pass rest else none
      | _ => some (inner (w :: rest))
  inner : List Bytes → List Bytes
    | [] => []
    | a :: rest => if wordOf a == "command" then (pass rest).getD (a :: rest) else a :: rest

/-- Whether the next words of a command may be assignments, which are not split. -/
def assigns (s : State) (before : List Bytes) : Bool :=
  match bareWords before with
  | (direct, a :: _) =>
    let name := wordOf a
    ["alias", "export", "local", "readonly"].contains name &&
      (direct || (s.functions.lookup name).isNone)
  | _ => false

/-- The fields of a command. -/
def commandFrom (place : Place) (acc : List Bytes) : List Word → Expansion (List Bytes)
  | [] => return acc
  | w :: rest => do
    match if assigns (← get).state acc then assignment? w else none with
    | some (name, value) =>
      let bs ← text .inValue value
      commandFrom place (acc ++ [bytesOf (name ++ "=") ++ bs]) rest
    | none => commandFrom place (acc ++ (← wordFields place w)) rest

def command (place : Place) (words : List Word) : Expansion (List Bytes) :=
  commandFrom place [] words

/-! ## Redirections -/

/-- What a descriptor is to be joined to. -/
inductive Joint
  | file (opening : Opening) (path : Bytes)
  | copyOf (descriptor : Option Nat)
  | document (text : Bytes)

def joint : Redirect → Expansion (Nat × Joint)
  | .mk d (.file opening path) => return (d, .file opening (← text .atStart path))
  | .mk d (.copyOf n) => return (d, .copyOf n)
  | .mk d (.copyOfWord w) => do
    match letters (← text .atStart w) with
    | ['-'] => return (d, .copyOf none)
    | [c] =>
      if c.isDigit then return (d, .copyOf (some (c.toNat - 48)))
      else fault "Syntax error: Bad fd number"
    | _ => fault "Syntax error: Bad fd number"
  | .mk d (.document w) => return (d, .document (← document w))

def joints (redirects : List Redirect) : Expansion (List (Nat × Joint)) := redirects.mapM joint

/-- The outcome of an expansion in a state. -/
def run {α : Type} (x : Expansion α) (s : State) : Except Halt (α × State) :=
  match x.run { state := s, answers := s.answers } with
  | .ok (a, e) => .ok (a, { e.state with answers := [] })
  | .error h => .error h

end Expand
end Shell
end Rehearsal
end Parley
