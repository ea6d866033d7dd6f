import Parley.Rehearsal.Expression.Search
import Parley.Rehearsal.Tool.Editing.Script

/-!
# Parley.Rehearsal.Tool.Editing.Run

How an editor of streams goes through its lines: each line is put into a space, the commands change
that, and what is left is written. An editor stops where it needs a line that has not come yet.

* `Editing.State`: an editor at work.
* `Editing.run`: all that comes of some lines.
-/

namespace Parley
namespace Rehearsal
namespace Editing

/-! ## State -/

/-- A line of a text, and whether its line feed is there. -/
structure Line where
  text : Bytes
  ended : Bool := true
  /-- The name of the text. -/
  name : Bytes := []

structure Settings where
  commands : Array Command
  /-- Whether lines are written only on demand. -/
  quiet : Bool := false
  /-- Whether all lines have come. -/
  ended : Bool
  ending : UInt8 := 10
  width : Nat := 70
  /-- What stands in files that commands read. -/
  files : List (Bytes × Bytes) := []

/-- What is written behind a line. -/
inductive Appended
  | text (bs : Bytes)
  | file (bs : Bytes)

structure State where
  space : Bytes := []
  hold : Bytes := []
  /-- Whether the line in the space had its line feed. -/
  ended : Bool := true
  name : Bytes := []
  number : Nat := 0
  rest : List Line
  /-- What has been written, the last piece first. -/
  pieces : List Bytes := []
  /-- Whether a line feed is still missing behind that. -/
  missing : Bool := false
  appended : List Appended := []
  replaced : Bool := false
  /-- The ranges that are open, by their commands, with the line up to which they go if that is
  known. -/
  openRanges : List (Nat × Option Nat) := []
  lastSought : Option Sought := none
  /-- How many lines of files have been read. -/
  linesRead : List (Bytes × Nat) := []
  /-- What has been written to files, the last piece first. -/
  written : List (Bytes × Bytes) := []

/-- Why an editor stops. -/
inductive Stop
  /-- It needs a line that has not come. -/
  | needsLine
  | quit (code : Nat)
  | failed (text : String)
  /-- The next line is taken, unless `again` says that the space stays. -/
  | next (again : Bool)

abbrev Editor (α : Type) := ExceptT Stop (StateM State) α

/-! ## Output -/

/-- Writes a text with its line feed, which stays away if the text had none. -/
def put (ending : UInt8) (text : Bytes) (ended : Bool) (s : State) : State :=
  let front : Bytes := if s.missing then [ending] else []
  let back : Bytes := if ended then [ending] else []
  { s with pieces := (front ++ text ++ back) :: s.pieces, missing := !ended }

/-- Writes a text as it is. -/
def putBare (ending : UInt8) (text : Bytes) (s : State) : State :=
  if text.isEmpty then s
  else
    let front : Bytes := if s.missing then [ending] else []
    { s with pieces := (front ++ text) :: s.pieces, missing := false }

def putSpace (k : Settings) : Editor Unit :=
  modify fun s => put k.ending s.space s.ended s

/-- Writes what was to follow the line. -/
def putAppended (k : Settings) : Editor Unit :=
  modify fun s =>
    let s := s.appended.foldl (fun s a =>
      match a with
      | .text bs => putBare k.ending bs s
      | .file bs =>
        if bs.isEmpty then s
        else
          let s := putBare k.ending bs s
          { s with missing := false }) s
    { s with appended := [] }

/-- Writes a text for a file. -/
def putFile (k : Settings) (path text : Bytes) (ended : Bool) : Editor Unit :=
  modify fun s =>
    if wordOf path == "/dev/stdout" then put k.ending text ended s
    else
      let line := text ++ if ended then [k.ending] else []
      { s with written := (path, line) :: s.written }

/-! ## Lines -/

/-- Whether the line in the space is the last one. -/
def isLast (k : Settings) : Editor Bool := do
  let s ← get
  if !s.rest.isEmpty then return false
  if k.ended then return true
  throw .needsLine

/-- Takes the next line, if there is one. -/
def takeLine? (k : Settings) : Editor (Option Line) := do
  let s ← get
  match s.rest with
  | l :: rest =>
    set { s with rest, number := s.number + 1, replaced := false, ended := l.ended, name := l.name }
    return some l
  | [] => if k.ended then return none else throw .needsLine

/-! ## Places -/

def subject (space : Bytes) (s : Sought) : Expression.Subject :=
  { bytes := space.toArray, ignoresCase := s.ignoresCase, hasLines := s.hasLines }

/-- What is looked for; nothing stands for what was last looked for. -/
def resolve (sought : Option Sought) : Editor Sought := do
  match sought with
  | some s =>
    modify fun t => { t with lastSought := some s }
    return s
  | none =>
    match (← get).lastSought with
    | some s => return s
    | none => throw (.failed "no previous regular expression")

def isAt (k : Settings) (p : Place) : Editor Bool := do
  match p with
  | .line n => return (← get).number == n
  | .last => isLast k
  | .step first step =>
    let n := (← get).number
    return if step == 0 then n == first else first ≤ n && (n - first) % step == 0
  | .found sought =>
    let s ← resolve sought
    return s.expression.isIn (subject (← get).space s)

def closeRange (i : Nat) : Editor Unit :=
  modify fun s => { s with openRanges := s.openRanges.filter fun r => r.1 != i }

def openRange (i : Nat) (line : Option Nat) : Editor Unit :=
  modify fun s => { s with openRanges := (i, line) :: s.openRanges.filter fun r => r.1 != i }

/-- Begins a range at this line. -/
def beginRange (i : Nat) (limit : Limit) : Editor Bool := do
  let n := (← get).number
  let upTo (m : Nat) : Editor Bool := do
    if n < m then openRange i (some m)
    return true
  match limit with
  | .place (.line m) => upTo m
  | .place _ =>
    openRange i none
    return true
  | .further m => upTo (n + m)
  | .multiple m => if m == 0 then return true else upTo ((n / m + 1) * m)

/-- Whether a command is meant for the line in the space. -/
def selects (k : Settings) (i : Nat) (c : Command) : Editor Bool := do
  match c.start, c.limit with
  | none, _ => return true
  | some p, none => isAt k p
  | some p, some limit =>
    let s ← get
    let fromZero := isZeroLine p && s.number == 1 && !(s.openRanges.any fun r => r.1 == i) &&
      !(s.openRanges.any fun r => r.1 == i + zeroMark)
    if fromZero then openRange i none
    match (← get).openRanges.lookup i with
    | some (some m) =>
      let n := (← get).number
      if m ≤ n then closeRange i
      if m < n then
        if ← isAt k p then beginRange i limit else return false
      else return true
    | some none =>
      match limit with
      | .place q =>
        if ← isAt k q then
          closeRange i
          if isZeroLine p then openRange (i + zeroMark) none
        return true
      | _ => return true
    | none => if ← isAt k p then beginRange i limit else return false
where
  /-- Marks ranges from before the first line that have been closed. -/
  zeroMark : Nat := 1000000

/-! ## Replacements -/

/-- In which case texts are written: all that follow, and the next letter. -/
structure Casing where
  all : Option Char := none
  one : Option Char := none

def lowered (b : UInt8) : UInt8 := Expression.lower b
def raised (b : UInt8) : UInt8 := Expression.upper b

def Casing.apply (c : Casing) (bs : Bytes) : Bytes × Casing :=
  let body := match c.all with
    | some 'U' => bs.map raised
    | some 'L' => bs.map lowered
    | _ => bs
  match c.one, body with
  | some 'u', b :: rest => (raised b :: rest, { c with one := none })
  | some 'l', b :: rest => (lowered b :: rest, { c with one := none })
  | _, body => (body, c)

/-- What is put in the place of something that was found. -/
def filled (pieces : List Piece) (s : Expression.Subject) (f : Expression.Found) : Bytes :=
  (pieces.foldl (fun (acc : Bytes × Casing) p =>
    match p with
    | .case 'E' => (acc.1, {})
    | .case c =>
      (acc.1, if c.isUpper then { acc.2 with all := some c } else { acc.2 with one := some c })
    | .text bs =>
      let (bs, c) := acc.2.apply bs
      (acc.1 ++ bs, c)
    | .group n =>
      let (bs, c) := acc.2.apply (f.group s n)
      (acc.1 ++ bs, c)) ([], {})).1

/-- A text with what is found in it replaced, from a place on. `count` counts what has been found,
and `last` is where the last one ended. -/
def replacedFrom (r : Replacement) (e : Expression) (s : Expression.Subject) :
    Nat → Nat → Nat → Option Nat → Bytes × Bool
  | 0, i, _, _ => (s.slice i s.bytes.size, false)
  | fuel + 1, i, count, last =>
    match e.find? s i with
    | none => (s.slice i s.bytes.size, false)
    | some f =>
      let isEmpty := f.start == f.stop
      if isEmpty && last == some f.start then
        let (more, done) := replacedFrom r e s fuel (f.start + 1) count last
        (s.slice i (f.start + 1) ++ (if f.start < s.bytes.size then more else []), done)
      else
        let front := s.slice i f.start
        let wanted := r.which ≤ count + 1
        let new := if wanted then filled r.pieces s f else s.slice f.start f.stop
        if wanted && !r.everywhere then (front ++ new ++ s.slice f.stop s.bytes.size, true)
        else if s.bytes.size < f.stop || (isEmpty && s.bytes.size ≤ f.stop) then
          (front ++ new, wanted)
        else
          let step := if isEmpty then f.stop + 1 else f.stop
          let skipped := s.slice f.stop step
          let (more, done) := replacedFrom r e s fuel step (count + 1) (some f.stop)
          (front ++ new ++ skipped ++ more, wanted || done)

def replace (k : Settings) (r : Replacement) : Editor Unit := do
  let sought ← resolve r.sought
  let s := subject (← get).space sought
  let (text, done) := replacedFrom r sought.expression s (s.bytes.size + 2) 0 0 none
  if done then
    modify fun t => { t with space := text, replaced := true }
    if r.print then putSpace k
    if let some path := r.file then putFile k path text (← get).ended

/-! ## Commands -/

/-- A byte as it is shown without doubt. -/
def shown (b : UInt8) : Bytes :=
  match [(92, "\\\\"), (7, "\\a"), (8, "\\b"), (12, "\\f"), (10, "\\n"), (13, "\\r"), (9, "\\t"),
      (11, "\\v")].lookup b.toNat with
  | some t => bytesOf t
  | none =>
    if 32 ≤ b && b < 127 then [b]
    else
      let digit (n : Nat) : UInt8 := UInt8.ofNat (48 + n % 8)
      [92, digit (b.toNat / 64), digit (b.toNat / 8), digit b.toNat]

/-- A text in lines of a width, each but the last one with a backslash at its end. -/
def listed (width : Nat) (space : Bytes) : Bytes :=
  let (out, _) := space.foldl (fun (acc : Bytes × Nat) b =>
    let text := shown b
    if 1 < width && width - 1 < acc.2 + text.length then (acc.1 ++ [92, 10] ++ text, text.length)
    else (acc.1 ++ text, acc.2 + text.length)) ([], 0)
  out ++ [36, 10]

/-- The next line of a file that is read line by line. -/
def nextLine (k : Settings) (path : Bytes) : Editor Unit := do
  let s ← get
  let n := (s.linesRead.lookup path).getD 0
  let ls := (linesOf ((k.files.lookup path).getD [])).map bare
  if let some l := ls[n]? then
    set { s with
      linesRead := (path, n + 1) :: s.linesRead.filter fun r => r.1 != path
      appended := s.appended ++ [Appended.text (l ++ [10])] }

/-- Ends the work on a line. -/
def endCycle (k : Settings) : Editor Unit := do
  if !k.quiet then putSpace k
  putAppended k

/-- A command that is a letter alone. -/
def letter (k : Settings) (c : Char) : Editor Unit := do
  let s ← get
  match c with
  | '=' => set (put 10 (digitsOf s.number) true s)
  | 'd' => throw (.next false)
  | 'D' =>
    if s.space.contains 10 then
      set { s with space := (s.space.dropWhile (· != 10)).drop 1 }
      throw (.next true)
    else throw (.next false)
  | 'F' => set (put 10 (if s.name.isEmpty then [45] else s.name) true s)
  | 'g' => set { s with space := s.hold }
  | 'G' => set { s with space := s.space ++ k.ending :: s.hold }
  | 'h' => set { s with hold := s.space }
  | 'H' => set { s with hold := s.hold ++ k.ending :: s.space }
  | 'x' => set { s with space := s.hold, hold := s.space }
  | 'p' => putSpace k
  | 'P' =>
    if s.space.contains k.ending then set (put k.ending (s.space.takeWhile (· != k.ending)) true s)
    else putSpace k
  | 'z' => set { s with space := [] }
  | 'n' =>
    if ← isLast k then
      endCycle k
      throw (.quit 0)
    if !k.quiet then putSpace k
    putAppended k
    if let some l ← takeLine? k then modify fun t => { t with space := l.text }
  | 'N' =>
    if ← isLast k then
      endCycle k
      throw (.quit 0)
    putAppended k
    if let some l ← takeLine? k then
      modify fun t => { t with space := s.space ++ k.ending :: l.text }
  | _ => return

/-- The place of a label, or of the end. -/
def labelPlace (commands : Array Command) (name : Bytes) : Nat :=
  if name.isEmpty then commands.size
  else
    (commands.findIdx? fun c =>
      match c.action with
      | .label n => n == name
      | _ => false).getD commands.size

/-- Does what a command says; the answer is the place of the next one. -/
def perform (k : Settings) (i : Nat) (c : Command) : Editor Nat := do
  match c.action with
  | .letter ch =>
    letter k ch
    return i + 1
  | .text 'a' bs =>
    modify fun s => { s with appended := s.appended ++ [.text bs] }
    return i + 1
  | .text 'i' bs =>
    modify (putBare 10 bs)
    return i + 1
  | .text _ bs =>
    let s ← get
    if c.limit.isNone || c.negated || !(s.openRanges.any fun r => r.1 == i) then
      modify (putBare 10 bs)
    throw (.next false)
  | .quit silent code =>
    if !silent then endCycle k
    throw (.quit code)
  | .list width =>
    modify fun s => putBare 10 (listed (width.getD k.width) s.space) s
    return i + 1
  | .readFile path =>
    modify fun s => { s with appended := s.appended ++ [.file ((k.files.lookup path).getD [])] }
    return i + 1
  | .readLine path =>
    nextLine k path
    return i + 1
  | .write path onlyFirst =>
    let s ← get
    if onlyFirst && s.space.contains 10 then putFile k path (s.space.takeWhile (· != 10)) true
    else putFile k path s.space s.ended
    return i + 1
  | .replace r =>
    replace k r
    return i + 1
  | .exchange pairs =>
    modify fun s => { s with space := s.space.map fun b => (pairs.lookup b).getD b }
    return i + 1
  | .jump kind name =>
    let s ← get
    let goes := match kind with
      | .always => true
      | .replaced => s.replaced
      | .notReplaced => !s.replaced
    if kind != .always then set { s with replaced := false }
    return if goes then labelPlace k.commands name else i + 1
  | _ => return i + 1

/-- The commands from one on, for the line in the space. Each turn of the count is a command. -/
def commandsAt (k : Settings) : Nat → Nat → Editor Unit
  | 0, _ => throw .needsLine
  | fuel + 1, i => do
    match k.commands[i]? with
    | none => endCycle k
    | some c =>
      if (← selects k i c) != c.negated then commandsAt k fuel (← perform k i c)
      else
        match c.action with
        | .opening close => commandsAt k fuel (close + 1)
        | _ => commandsAt k fuel (i + 1)

/-- How many commands are run for one line at most. -/
def patience : Nat := 200000

/-- What an editor has come to. -/
inductive Result
  | waiting
  | ended (code : Nat)
  | failed (text : String)

/-- Goes through the lines. Each turn of the count is a line, or the rest of one. -/
def cycles (k : Settings) : Nat → Bool → State → Result × State
  | 0, _, s => (.ended 0, s)
  | fuel + 1, again, s =>
    let work : Editor Unit := do
      if !again then
        match ← takeLine? k with
        | none => throw (.quit 0)
        | some l => modify fun s => { s with space := l.text }
      commandsAt k patience 0
    match work.run s with
    | (.ok (), s) => cycles k fuel false s
    | (.error .needsLine, s) => (.waiting, s)
    | (.error (.quit code), s) => (.ended code, s)
    | (.error (.failed text), s) => (.failed text, s)
    | (.error (.next again), s) =>
      let ((), s) := (((putAppended k).run.map fun _ => ()).run s : Unit × State)
      cycles k fuel again s

/-- All that comes of some lines. -/
def run (k : Settings) (lines : List Line) : Result × State :=
  let size := (lines.map fun l => l.text.length + 2).foldl (· + ·) 0
  cycles k (size + 2) false { rest := lines }

/-- What has been written. -/
def State.output (s : State) : Bytes := s.pieces.reverse.flatten

end Editing
end Rehearsal
end Parley
