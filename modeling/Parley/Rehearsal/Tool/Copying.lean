import Parley.Rehearsal.Tool.Amount

/-!
# Parley.Rehearsal.Tool.Copying

Tools that write what they read, or a part of it.

* `Copying.cat`, `tee`, `yes`, `dd`: the whole of it, to one place or to several.
* `Copying.head`, `tail`: its beginning and its end.
* `Copying.tac`: its lines, the last one first.
-/

namespace Parley
namespace Rehearsal
namespace Copying

open Call

/-! ## Whole texts -/

/-- How lines are shown. -/
structure Manner where
  numbers : Bool := false
  /-- Blank lines have no numbers. -/
  skipsBlank : Bool := false
  squeezes : Bool := false
  marksEnds : Bool := false
  marksTabs : Bool := false
  visible : Bool := false

/-- A byte as it is shown where every byte is visible. -/
def shown (m : Manner) (b : UInt8) : Bytes :=
  let low (b : UInt8) : Bytes :=
    if b < 32 then [94, b + 64] else if b == 127 then [94, 63] else [b]
  if b == 9 then (if m.marksTabs then [94, 73] else [9])
  else if !m.visible || b == 10 then [b]
  else if b < 128 then low b
  else [77, 45] ++ low (b - 128)

/-- Where the numbering of lines stands: the next number, and how many blank lines come before. -/
structure Numbering where
  next : Nat := 1
  blanks : Nat := 0
  /-- Whether the last line has not ended. -/
  isOpen : Bool := false

def padLeft (width : Nat) (bs : Bytes) : Bytes := List.replicate (width - bs.length) 32 ++ bs

/-- A line as it is shown. -/
def showLine (m : Manner) (n : Numbering) (line : Bytes) : Bytes × Numbering :=
  let body := bare line
  let ends := body.length < line.length
  let blank := body.isEmpty && ends && !n.isOpen
  if blank && m.squeezes && 0 < n.blanks then ([], n)
  else
    let counted := m.numbers && !n.isOpen && !(m.skipsBlank && blank)
    let lead := if counted then padLeft 6 (digitsOf n.next) ++ [9] else []
    let endMark := if ends then (if m.marksEnds then [36, 10] else [10]) else []
    (lead ++ body.flatMap (shown m) ++ endMark,
      { next := if counted then n.next + 1 else n.next
        blanks := if blank then n.blanks + 1 else 0
        isOpen := !ends })

def showLines (m : Manner) (n : Numbering) (content : Bytes) : Bytes × Numbering :=
  (linesOf content).foldl (fun (acc, n) line =>
    let (bs, n) := showLine m n line
    (acc ++ bs, n)) ([], n)

def catKnown : Known :=
  known "AbeEnstTuv"
    [("number-nonblank", .bare, "b"), ("number", .bare, "n"), ("squeeze-blank", .bare, "s"),
     ("show-nonprinting", .bare, "v"), ("show-ends", .bare, "E"), ("show-tabs", .bare, "T"),
     ("show-all", .bare, "A")]

def catManner (p : Parsed) : Manner where
  numbers := p.has "n" || p.has "b"
  skipsBlank := p.has "b"
  squeezes := p.has "s"
  marksEnds := p.has "E" || p.has "e" || p.has "A"
  marksTabs := p.has "T" || p.has "t" || p.has "A"
  visible := p.has "v" || p.has "e" || p.has "t" || p.has "A"

def missing (c : Call) (name : Bytes) (e : SystemError) : Bytes :=
  bytesOf (c.complaint (asName name ++ ": " ++ e.reason))

/-- A tool that copies texts; one that is missing makes it fail. -/
def copyAll (supplies : List Supply) : Launch :=
  .tool (.copy supplies (if supplies.any Supply.isMissing then 1 else 0)) []

def cat (c : Call) : Launch :=
  c.options catKnown 1 fun p =>
    let m := catManner p
    let sources := c.sources p.operands
    if p.given.isEmpty then
      let zeros := sources.any fun s =>
        match s.2 with
        | .zeros => true
        | _ => false
      match p.operands, zeros with
      | [path], true => .tool (.copy [.input] 0) [(0, .read, wordOf path)]
      | _, _ =>
        copyAll (sources.map fun (name, source) =>
          match source with
          | .input => Supply.input
          | .bytes bs => .bytes bs
          | .zeros => .bytes []
          | .failed e => .missing (missing c name e)
          | .directory => .missing (missing c name .isDirectory))
    else if readsInput sources then
      .filter fun bs ended =>
        let texts := textsOf sources bs
        let (content, errors) := c.joined texts
        let (output, _) := showLines m {} content
        { output, errors, code := if ended then some (if errors.isEmpty then 0 else 1) else none }
    else
      let (supplies, _) := (textsOf sources []).foldl (fun (acc, n) t =>
        match t.content with
        | .ok bs =>
          let (shown, n) := showLines m n bs
          (acc ++ [Supply.bytes shown], n)
        | .error e => (acc ++ [.missing (missing c t.name e)], n))
        (([] : List Supply), ({} : Numbering))
      copyAll supplies

def teeKnown : Known :=
  known "aip" [("append", .bare, "a"), ("ignore-interrupts", .bare, "i"),
    ("output-error", .maybe, "p")]
    [("p", [["warn"], ["warn-nopipe"], ["exit"], ["exit-nopipe"]])]

/-- Why a file cannot be written, if it cannot. -/
def unwritable? (c : Call) (path : Bytes) : Option SystemError :=
  match c.disk.find c.directory (wordOf path) with
  | .error e => some e
  | .ok spot => if spot.entry == some .directory then some .isDirectory else none

def tee (c : Call) : Launch :=
  c.options teeKnown 1 fun p =>
    let opening : Shell.Opening := if p.has "a" then .append else .write
    let good := p.operands.filter fun w => (unwritable? c w).isNone
    let faults := p.operands.filterMap fun w => (unwritable? c w).map fun e => missing c w e
    let descriptors := (List.range good.length).map (· + 3)
    let joints := (good.zip descriptors).map fun (w, d) => (d, opening, wordOf w)
    .tool (.share descriptors (if faults.isEmpty then 0 else 1) faults.flatten) joints

def yes (c : Call) : Launch :=
  c.options (known "" []) 1
    fun p =>
      let line := if p.operands.isEmpty then bytesOf "y\n" else joinWith [32] p.operands ++ [10]
      .tool (.repeated (List.replicate (max 1 (8192 / line.length)) line).flatten) []

/-! ## Blocks -/

/-- What is copied in blocks, and where to. -/
structure Plan where
  size : Nat := 512
  count : Option Nat := none
  skip : Nat := 0
  seek : Nat := 0
  input : Option Bytes := none
  output : Option Bytes := none
  silent : Bool := false
  keeps : Bool := false
  /-- What is done to bytes. -/
  upper : Bool := false
  lower : Bool := false

def planFrom (c : Call) (b : Plan) : List Bytes → Except Launch Plan
  | [] => .ok b
  | w :: rest =>
    let cs := letters w
    let key := String.ofList (cs.takeWhile (· != '='))
    let value := ofLetters ((cs.drop key.length).drop 1)
    let number (f : Nat → Plan) : Except Launch Plan :=
      match Amount.read? value with
      | some n => planFrom c (f n) rest
      | none => .error (c.fail ("invalid number: " ++ cited value) 1)
    if !cs.contains '=' then
      .error (c.misuse ("unrecognized operand " ++ cited w) 1)
    else
      match key with
      | "bs" => number fun n => { b with size := n }
      | "ibs" => number fun n => { b with size := n }
      | "obs" => number fun _ => b
      | "cbs" => number fun _ => b
      | "count" => number fun n => { b with count := some n }
      | "skip" => number fun n => { b with skip := n }
      | "iseek" => number fun n => { b with skip := n }
      | "seek" => number fun n => { b with seek := n }
      | "oseek" => number fun n => { b with seek := n }
      | "if" => planFrom c { b with input := some value } rest
      | "of" => planFrom c { b with output := some value } rest
      | "iflag" => planFrom c b rest
      | "oflag" => planFrom c b rest
      | "conv" =>
        let names := (wordOf value).splitOn ","
        planFrom c { b with
          keeps := names.contains "notrunc", upper := names.contains "ucase",
          lower := names.contains "lcase" } rest
      | "status" =>
        if ["none", "noxfer", "progress"].contains (wordOf value) then
          planFrom c { b with silent := wordOf value == "none" } rest
        else .error (c.misuse ("invalid status level: " ++ cited value) 1)
      | _ => .error (c.misuse ("unrecognized operand " ++ cited w) 1)

def dd (c : Call) : Launch :=
  c.options (known "" []) 1
    fun p =>
      match planFrom c {} p.operands with
      | .error l => l
      | .ok b =>
        if b.size == 0 then c.fail "invalid number: '0'" 1
        else
          let faults := (b.input.bind fun w =>
              match c.source w with
              | .failed e => some (w, e)
              | _ => none) <|> (b.output.bind fun w => (unwritable? c w).map fun e => (w, e))
          match faults with
          | some (w, e) => c.fail ("failed to open " ++ asWord w ++ ": " ++ e.reason) 1
          | none =>
            let opening : Shell.Opening := if b.keeps || b.seek != 0 then .readWrite else .write
            let joints := (b.input.toList.map fun w => (0, Shell.Opening.read, wordOf w)) ++
              b.output.toList.map fun w => (1, opening, wordOf w)
            let change : UInt8 → UInt8 := fun x =>
              if b.upper && 97 ≤ x && x ≤ 122 then x - 32
              else if b.lower && 65 ≤ x && x ≤ 90 then x + 32 else x
            .tool (.blocks {
              size := b.size, left := b.count, skip := b.skip, seek := b.seek * b.size, change,
              silent := b.silent }) joints

/-! ## Beginnings and ends -/

/-- How much of a text is taken. -/
structure Portion where
  lines : Bool := true
  count : Nat := 10
  /-- The count is one from the other end. -/
  opposite : Bool := false

/-- The number of lines, of which the last one may have no end. -/
def pieces (zero : Bool) (bs : Bytes) : List Bytes :=
  if !zero then linesOf bs
  else
    let swap (b : UInt8) : UInt8 := if b == 0 then 10 else if b == 10 then 0 else b
    (linesOf (bs.map swap)).map fun l => l.map swap

def front (q : Portion) (zero : Bool) (bs : Bytes) : Bytes :=
  if q.lines then
    let ls := pieces zero bs
    (ls.take (if q.opposite then ls.length - q.count else q.count)).flatten
  else bs.take (if q.opposite then bs.length - q.count else q.count)

def back (q : Portion) (zero : Bool) (bs : Bytes) : Bytes :=
  if q.lines then
    let ls := pieces zero bs
    (ls.drop (if q.opposite then q.count - 1 else ls.length - q.count)).flatten
  else bs.drop (if q.opposite then q.count - 1 else bs.length - q.count)

/-- The portion that an option asks for; one sign in front of the count turns it round. -/
def portion (c : Call) (lines : Bool) (sign other : UInt8) (w : Bytes) : Except Launch Portion :=
  let (opposite, digits) := match w with
    | b :: rest =>
      if b == sign then (true, rest) else if b == other then (false, rest) else (false, w)
    | [] => (false, w)
  match Amount.read? digits with
  | some count => .ok { lines, count, opposite }
  | none =>
    let what := if lines then "lines" else "bytes"
    .error (c.fail ("invalid number of " ++ what ++ ": " ++ cited digits) 1)

/-- The last of the options about portions. -/
def portionOf (c : Call) (sign other : UInt8) (p : Parsed) : Except Launch Portion :=
  p.given.foldl (fun (acc : Except Launch Portion) g => do
    let q ← acc
    if g.1 == "n" || g.1 == "c" then portion c (g.1 == "n") sign other g.2 else return q) (.ok {})

def portionKnown : Known :=
  known "c:n:qvz0" [("bytes", .valued, "c"), ("lines", .valued, "n"), ("quiet", .bare, "q"),
    ("silent", .bare, "q"), ("verbose", .bare, "v"), ("zero-terminated", .bare, "z")]

/-- Words with a count in front that stands alone behind a sign, as options. -/
def modernized (plus : Bool) (words : List Bytes) : List Bytes :=
  match words with
  | w :: rest =>
    let cs := letters w
    let sign := cs.headD ' '
    let digits := (cs.drop 1).takeWhile Char.isDigit
    let others := (cs.drop 1).drop digits.length
    if (sign == '-' || (plus && sign == '+')) && !digits.isEmpty &&
        others.all fun c => "cbklnqvzf".toList.contains c then
      let lead := if sign == '+' then "+" else ""
      let unit := if others.contains 'k' then "k" else if others.contains 'b' then "b" else ""
      let isBytes := others.contains 'c' || unit != ""
      let letter := if isBytes then "-c" else "-n"
      let flags := others.filter fun c => c == 'q' || c == 'v' || c == 'z'
      bytesOf letter :: bytesOf (lead ++ String.ofList digits ++ unit) ::
        flags.map (fun f => ofLetters ['-', f]) ++ rest
    else words
  | [] => []

/-- A heading above the portion of a text. -/
def heading (name : Bytes) : Bytes :=
  bytesOf "==> " ++ (if name == [45] then bytesOf "standard input" else name) ++ bytesOf " <==\n"

/-- Portions of some texts, with headings if they are wanted. -/
def portions (c : Call) (take : Bytes → Bytes) (headings : Bool) (texts : List Text) : Outcome :=
  let (output, errors) := texts.foldl (fun (output, errors) t =>
    let lead := if !headings then []
      else (if output.isEmpty then [] else [10]) ++ heading t.name
    match t.content with
    | .ok bs => (output ++ lead ++ take bs, errors)
    | .error .isDirectory =>
      let text := "error reading " ++ asWord t.name ++ ": Is a directory"
      (output ++ lead, errors ++ bytesOf (c.complaint text))
    | .error e =>
      let text := "cannot open " ++ asWord t.name ++ " for reading: " ++ e.reason
      (output, errors ++ bytesOf (c.complaint text))) (([] : Bytes), ([] : Bytes))
  { output, errors, code := some (if errors.isEmpty then 0 else 1) }

def wantsHeadings (p : Parsed) : Bool :=
  match p.last? ["q", "v"] with
  | some "v" => true
  | some _ => false
  | none => 1 < p.operands.length

/-- Whether a file can be read. -/
def isReadable : Source → Bool
  | .failed _ => false
  | .directory => false
  | _ => true

def head (c : Call) : Launch :=
  let c := { c with arguments := modernized false c.arguments }
  c.options portionKnown 1 fun p =>
    match portionOf c 45 43 p with
    | .error l => l
    | .ok q =>
      let zero := p.has "z"
      let headings := wantsHeadings p
      if !q.opposite && !headings && p.operands.length ≤ 1 && !(zero && q.lines) then
        match p.operands with
        | [] => .tool (.first q.lines q.count) []
        | w :: _ =>
          if w == [45] then .tool (.first q.lines q.count) []
          else if isReadable (c.source w) then
            .tool (.first q.lines q.count) [(0, .read, wordOf w)]
          else c.overWhole p.operands (portions c (front q zero) headings)
      else c.overWhole p.operands (portions c (front q zero) headings)

def tailKnown : Known :=
  { portionKnown with
    letters := portionKnown.letters ++ [('f', .bare), ('F', .bare), ('s', .valued)]
    names := portionKnown.names ++ [("follow", .maybe, "f"), ("retry", .bare, "retry"),
      ("pid", .valued, "pid"), ("sleep-interval", .valued, "s")]
    choices := [("f", [["descriptor"], ["name"]])] }

def tail (c : Call) : Launch :=
  let c := { c with arguments := modernized true c.arguments }
  c.options tailKnown 1 fun p =>
    match portionOf c 43 45 p with
    | .error l => l
    | .ok q => c.overWhole p.operands (portions c (back q (p.has "z")) (wantsHeadings p))

/-! ## Reversed lines -/

/-- The pieces of a text, each with the separator at its end. -/
def separated (separator : Bytes) : Nat → Bytes → Bytes → List Bytes
  | 0, acc, _ => [acc.reverse]
  | _ + 1, acc, [] => if acc.isEmpty then [] else [acc.reverse]
  | fuel + 1, acc, b :: rest =>
    if !separator.isEmpty && startsWith separator (b :: rest) then
      (acc.reverse ++ separator) :: separated separator fuel [] ((b :: rest).drop separator.length)
    else separated separator fuel (b :: acc) rest

def tac (c : Call) : Launch :=
  c.options (known "brs:" [("before", .bare, "b"), ("regex", .bare, "r"),
      ("separator", .valued, "s")]) 1 fun p =>
    let separator := (p.value? "s").getD [10]
    c.overWhole p.operands fun texts =>
      let (output, errors) := texts.foldl (fun (output, errors) t =>
        match t.content with
        | .ok bs =>
          (output ++ (separated separator (bs.length + 1) [] bs).reverse.flatten, errors)
        | .error .isDirectory =>
          let text := asName t.name ++ ": read error: Is a directory"
          (output, errors ++ bytesOf (c.complaint text))
        | .error e =>
          let text := "failed to open " ++ asWord t.name ++ " for reading: " ++ e.reason
          (output, errors ++ bytesOf (c.complaint text))) (([] : Bytes), ([] : Bytes))
      { output, errors, code := some (if errors.isEmpty then 0 else 1) }

end Copying
end Rehearsal
end Parley
