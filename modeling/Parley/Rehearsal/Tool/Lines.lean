import Parley.Rehearsal.Tool.Amount
import Parley.Rehearsal.Tool.Copying

/-!
# Parley.Rehearsal.Tool.Lines

Tools that go through texts line by line.

* `Lines.cut`, `paste`: parts of lines, and lines side by side.
* `Lines.wc`, `nl`: how many lines there are, and their numbers.
* `Lines.rev`, `fold`, `expand`, `unexpand`: lines in another form.
-/

namespace Parley
namespace Rehearsal
namespace Lines

open Call

/-- The lines of a text without their ends; of a text that goes on, only whole lines. -/
def wholeLines (ended : Bool) (bs : Bytes) : List Bytes :=
  let ls := linesOf bs
  (if ended then ls else ls.filter fun l => l.getLast? == some 10).map bare

def line (bs : Bytes) : Bytes := bs ++ [10]

/-- A tool that changes each line by itself. -/
def each (c : Call) (operands : List Bytes) (change : Bytes → Bytes) : Launch :=
  c.overLines operands 1 fun bs ended =>
    { output := (wholeLines ended bs).flatMap change, code := if ended then some 0 else none }

/-! ## Parts of lines -/

/-- A list of places, as in `1,3-5,7-`. -/
abbrev Ranges := List (Nat × Option Nat)

/-- Why a word is no list of places. -/
inductive RangeFault
  | zero
  | noEnds
  | decreasing
  | twoDashes
  /-- A number by its digits that is out of reach. -/
  | tooLarge (digits : List Char)
  /-- What stands where a digit, a dash or the end of a range should be. -/
  | malformed (rest : List Char)

/-- What is known of a range while it is read. -/
structure RangeSoFar where
  first : Nat := 1
  value : Nat := 0
  dashed : Bool := false
  hasLow : Bool := false
  hasHigh : Bool := false

namespace RangeSoFar

/-- The range that ends here. -/
def finish (r : RangeSoFar) : Except RangeFault (Nat × Option Nat) :=
  if !r.dashed then
    if r.value == 0 then .error .zero else .ok (r.value, some r.value)
  else if !r.hasHigh then
    if r.hasLow then .ok (r.first, none) else .error .noEnds
  else if r.value < r.first then .error .decreasing
  else .ok (r.first, some r.value)

/-- A dash in a range. -/
def dash (r : RangeSoFar) : Except RangeFault RangeSoFar :=
  if r.dashed then .error .twoDashes
  else if r.hasLow && r.value == 0 then .error .zero
  else .ok { r with dashed := true, first := if r.hasLow then r.value else 1, value := 0 }

/-- A number in a range. -/
def number (r : RangeSoFar) (digits : List Char) : Except RangeFault RangeSoFar :=
  let value := Number.digitsValue digits
  if Nat.pow 2 64 ≤ value then .error (.tooLarge digits)
  else
    .ok { r with value, hasLow := r.hasLow || !r.dashed, hasHigh := r.hasHigh || r.dashed }

end RangeSoFar

def rangesFrom : Nat → RangeSoFar → List Char → Except RangeFault Ranges
  | 0, _, _ => .ok []
  | _ + 1, r, [] => do return [← r.finish]
  | fuel + 1, r, c :: cs =>
    if c == ',' || c == ' ' || c == '\t' then do
      let range ← r.finish
      return range :: (← rangesFrom fuel {} cs)
    else if c == '-' then do rangesFrom fuel (← r.dash) cs
    else if c.isDigit then do
      let digits := (c :: cs).takeWhile Char.isDigit
      rangesFrom fuel (← r.number digits) ((c :: cs).drop digits.length)
    else .error (.malformed (c :: cs))

def ranges? (w : Bytes) : Except RangeFault Ranges :=
  rangesFrom (w.length + 1) {} (letters w)

/-- What is said of a word that is no list of places. -/
def RangeFault.text (byField : Bool) : RangeFault → String
  | zero => (if byField then "fields" else "byte/character positions") ++ " are numbered from 1"
  | noEnds => "invalid range with no endpoint: -"
  | decreasing => "invalid decreasing range"
  | twoDashes => if byField then "invalid field range" else "invalid byte or character range"
  | tooLarge digits =>
    (if byField then "field number " else "byte/character offset ") ++ cited (ofLetters digits) ++
      " is too large"
  | malformed rest =>
    "invalid " ++ (if byField then "field value " else "byte/character position ") ++
      cited (ofLetters rest)

def isIn (rs : Ranges) (i : Nat) : Bool :=
  rs.any fun r => r.1 ≤ i && (r.2.map fun high => decide (i ≤ high)).getD true

/-- The fields of a line between single bytes. -/
def fieldsAt (separator : UInt8) (bs : Bytes) : List Bytes :=
  bs.foldr (fun b (acc : List Bytes) =>
    if b == separator then [] :: acc
    else
      match acc with
      | p :: rest => (b :: p) :: rest
      | [] => [[b]]) [[]]

/-- The chosen bytes of a line, with a text between pieces that do not belong to one range. -/
def chosenBytes (wanted : Nat → Bool) (starts : Nat → Bool) (between : Option Bytes)
    (bs : Bytes) : Bytes :=
  (bs.zipIdx 1).foldl (fun (out : Bytes) (b, i) =>
    if !wanted i then out
    else
      match between with
      | some t => if starts i && !out.isEmpty then out ++ t ++ [b] else out ++ [b]
      | none => out ++ [b]) []

def cutKnown : Known :=
  known "b:c:d:f:nsz" [("bytes", .valued, "b"), ("characters", .valued, "c"),
    ("fields", .valued, "f"), ("delimiter", .valued, "d"), ("only-delimited", .bare, "s"),
    ("output-delimiter", .valued, "output"), ("complement", .bare, "complement"),
    ("zero-terminated", .bare, "z")]

def cut (c : Call) : Launch :=
  c.options cutKnown 1 fun p =>
    let lists := p.given.filter fun g => ["b", "c", "f"].contains g.1
    let delimiter := p.value? "d"
    match lists with
    | [] =>
      if delimiter.any fun d => 1 < d.length then
        c.misuse "the delimiter must be a single character" 1
      else c.misuse "you must specify a list of bytes, characters, or fields" 1
    | _ :: _ :: _ => c.misuse "only one list may be specified" 1
    | [(kind, w)] =>
      let byField := kind == "f"
      if delimiter.any fun d => 1 < d.length then
        c.misuse "the delimiter must be a single character" 1
      else if !byField && delimiter.isSome then
        c.misuse "an input delimiter may be specified only when operating on fields" 1
      else if !byField && p.has "s" then
        c.misuse "suppressing non-delimited lines makes sense\n\tonly when operating on fields" 1
      else
        match ranges? w with
        | .error fault => c.misuse (fault.text byField) 1
        | .ok rs =>
          let opposite := p.has "complement"
          let wanted (i : Nat) : Bool := isIn rs i != opposite
          let starts (i : Nat) : Bool :=
            if opposite then !wanted (i - 1) else rs.any fun r => r.1 == i
          let d := ((delimiter.getD [9]).head?).getD 0
          let between := p.value? "output"
          each c p.operands fun l =>
            if byField then
              let fields := fieldsAt d l
              if fields.length == 1 then (if p.has "s" then [] else line l)
              else
                let kept := (fields.zipIdx 1).filter fun f => wanted f.2
                line (joinWith (between.getD [d]) (kept.map (·.1)))
            else line (chosenBytes wanted starts between l)

/-! ## Lines side by side -/

/-- The separators of a list, in which a backslash makes some letters special. -/
def separatorsOf : List Char → Option (List Bytes)
  | [] => some []
  | ['\\'] => none
  | '\\' :: ch :: rest =>
    let one : Bytes := match ch with
      | '0' => []
      | 'n' => [10]
      | 't' => [9]
      | 'b' => [8]
      | 'f' => [12]
      | 'r' => [13]
      | 'v' => [11]
      | ch => ofLetters [ch]
    (separatorsOf rest).map (one :: ·)
  | ch :: rest => (separatorsOf rest).map (ofLetters [ch] :: ·)

/-- Texts with separators between them, which are taken in turn. -/
def interleave (separators : List Bytes) (texts : List Bytes) : Bytes :=
  let n := max separators.length 1
  (texts.zipIdx.map fun (t, i) =>
    if i == 0 then t else (separators[(i - 1) % n]?).getD [] ++ t).flatten

/-- The lines of texts side by side. The input is shared by all that name it. -/
def sideBySide (separators : List Bytes) : Nat → List (List Bytes) → Bytes
  | 0, _ => []
  | fuel + 1, columns =>
    if columns.all List.isEmpty then []
    else
      line (interleave separators (columns.map fun col => col.headD [])) ++
        sideBySide separators fuel (columns.map (·.drop 1))

/-- The lines that each of some texts gets, where the input gives its lines in turn. -/
def columnsOf (texts : List (Bool × List Bytes)) : List (List Bytes) :=
  let shared := ((texts.filter (·.1)).map (·.2)).headD []
  let count := (texts.filter (·.1)).length
  let places := texts.foldl (fun (acc : List Nat × Nat) t =>
    (acc.1 ++ [acc.2], if t.1 then acc.2 + 1 else acc.2)) ([], 0)
  (texts.zip places.1).map fun ((isInput, ls), place) =>
    if isInput then (shared.zipIdx.filter fun l => l.2 % count == place).map (·.1) else ls

def paste (c : Call) : Launch :=
  c.options (known "d:sz" [("delimiters", .valued, "d"), ("serial", .bare, "s"),
      ("zero-terminated", .bare, "z")]) 1 fun p =>
    let given := (p.value? "d").getD [9]
    match separatorsOf (letters given) with
    | none =>
      c.fail ("delimiter list ends with an unescaped backslash: " ++ wordOf given) 1
    | some separators =>
      let sources := c.sources p.operands
      let isInput (s : Source) : Bool :=
        match s with
        | .input => true
        | _ => false
      let flags := sources.map fun s => isInput s.2
      c.overWhole p.operands fun texts =>
        let errors := (c.joined texts).2
        if !errors.isEmpty && !p.has "s" then { errors, code := some 1 }
        else
          let input := (texts.zip flags).findSome? fun (t, isInput) =>
            if isInput then some (t.content.toOption.getD []) else none
          let columns := (texts.zip flags).map fun (t, isInput) =>
            (isInput, wholeLines true (if isInput then input.getD [] else
              t.content.toOption.getD []))
          let output := if p.has "s" then
              ((texts.zip flags).filter fun t => t.1.content.toOption.isSome).flatMap fun (t, _) =>
                line (interleave separators (wholeLines true (t.content.toOption.getD [])))
            else
              let count := (columns.map (·.2.length)).foldl max 0 + 1
              sideBySide separators count (columnsOf columns)
          { output, errors, code := some (if errors.isEmpty then 0 else 1) }

/-! ## Counts and numbers -/

/-- What is counted in a text. -/
structure Counts where
  lines : Nat := 0
  words : Nat := 0
  bytes : Nat := 0
  longest : Nat := 0

def isSpace (b : UInt8) : Bool := b == 32 || (9 ≤ b && b ≤ 13)

/-- The width of a line as it is shown, with stops for tabs. -/
def shownWidth (l : Bytes) : Nat :=
  (l.foldl (fun (acc : Nat × Nat) b =>
    let now := if b == 9 then (acc.1 / 8 + 1) * 8
      else if b == 13 || b == 12 then 0
      else if 32 ≤ b && b < 127 then acc.1 + 1 else acc.1
    (now, max acc.2 now)) (0, 0)).2

def countsOf (bs : Bytes) : Counts where
  lines := bs.count 10
  words := (bs.foldl (fun (acc : Nat × Bool) b =>
    if isSpace b then (acc.1, false) else (if acc.2 then acc.1 else acc.1 + 1, true)) (0, false)).1
  bytes := bs.length
  longest := ((wholeLines true bs).map shownWidth).foldl max 0

def Counts.add (a b : Counts) : Counts where
  lines := a.lines + b.lines
  words := a.words + b.words
  bytes := a.bytes + b.bytes
  longest := max a.longest b.longest

/-- Which counts are told, in their order. -/
def Counts.chosen (k : Counts) (p : Parsed) : List Nat :=
  let any := ["l", "w", "m", "c", "L"].any p.has
  (if p.has "l" || !any then [k.lines] else []) ++ (if p.has "w" || !any then [k.words] else []) ++
    (if p.has "m" then [k.bytes] else []) ++ (if p.has "c" || !any then [k.bytes] else []) ++
    if p.has "L" then [k.longest] else []

/-- The size of what a word names, if it is a file; none if it is something else, and nothing if it
is not there. -/
def sizeOf (c : Call) (word : Bytes) : Option (Option Nat) :=
  if word == [45] then some none
  else
    match c.source word with
    | .bytes bs =>
      match (c.disk.find c.directory (wordOf word)).toOption.bind (·.entry) with
      | some (.file ..) => some (some bs.length)
      | _ => some none
    | .failed _ => none
    | _ => some none

def wcKnown : Known :=
  known "clLmw" [("bytes", .bare, "c"), ("chars", .bare, "m"), ("lines", .bare, "l"),
    ("words", .bare, "w"), ("max-line-length", .bare, "L"), ("total", .valued, "total"),
    ("files0-from", .valued, "files0")]
    [("total", [["auto"], ["always"], ["only"], ["never"]])]

/-- Whether the input of a tool is a file. -/
def inputIsFile (c : Call) : Bool :=
  match c.descriptors.lookup 0 with
  | some (.file _) => true
  | _ => false

def wc (c : Call) : Launch :=
  c.options wcKnown 1 fun p =>
    let words := if p.operands.isEmpty then [[45]] else p.operands
    let kinds := ({} : Counts).chosen p |>.length
    let isOne := words.length == 1 && kinds == 1
    c.overWhole p.operands fun texts =>
      let sizes := texts.map fun t =>
        if t.name == [45] && inputIsFile c then some (some (t.content.toOption.getD []).length)
        else sizeOf c t.name
      let regular := ((sizes.filterMap id).filterMap id).foldl (· + ·) 0
      let least := if (sizes.filterMap id).any Option.isNone then 7 else 1
      let width := if isOne then 1 else max least (toString regular).length
      let row (k : Counts) (name : Bytes) : Bytes :=
        joinWith [32] ((k.chosen p).map fun n => Copying.padLeft width (digitsOf n)) ++
          (if name.isEmpty then [] else 32 :: name) ++ [10]
      let named (t : Text) : Bytes := if p.operands.isEmpty then [] else t.name
      let rest := texts.flatMap fun t =>
        match t.content with
        | .ok bs => [Supply.bytes (row (countsOf bs) (named t))]
        | .error e =>
          let complaint := if t.name.isEmpty then
              bytesOf (c.complaint "invalid zero-length file name")
            else Copying.missing c t.name e
          let text := Supply.missing complaint
          if e == .isDirectory then [text, .bytes (row {} (named t))] else [text]
      let total := (texts.map fun t => countsOf (t.content.toOption.getD [])).foldl Counts.add {}
      let wantsTotal := match (p.value? "total").map wordOf with
        | some "never" => false
        | some "always" => true
        | _ => 1 < texts.length
      let ending := if wantsTotal then [Supply.bytes (row total (bytesOf "total"))] else []
      { rest := rest ++ ending, code := some (if rest.any Supply.isMissing then 1 else 0) }

/-! ### Numbered lines -/

/-- How lines are numbered. -/
structure Numbering where
  /-- The styles of bodies, headers and footers. -/
  body : Char := 't'
  header : Char := 'n'
  footer : Char := 'n'
  step : Int := 1
  blanks : Nat := 1
  separator : Bytes := [9]
  width : Nat := 6
  first : Int := 1
  format : String := "rn"
  keeps : Bool := false

structure NumberingState where
  next : Int
  style : Char
  blanks : Nat := 0

def numberText (k : Numbering) (n : Int) : Bytes :=
  let ds := bytesOf (toString n)
  match k.format with
  | "ln" => ds ++ List.replicate (k.width - ds.length) 32
  | "rz" =>
    let sign : Bytes := if n < 0 then [45] else []
    let ds := bytesOf (toString n.natAbs)
    sign ++ List.replicate (k.width - ds.length - sign.length) 48 ++ ds
  | _ => Copying.padLeft k.width ds

/-- A line with its number, or the blank line in the place of one that begins a section. -/
def numbered (k : Numbering) (s : NumberingState) (l : Bytes) : Bytes × NumberingState :=
  let part (style : Char) (anew : Bool) : Bytes × NumberingState :=
    ([10], { s with style, next := if anew && !k.keeps then k.first else s.next })
  match wordOf l with
  | "\\:\\:\\:" => part k.header true
  | "\\:\\:" => part k.body false
  | "\\:" => part k.footer false
  | _ =>
    let blank := l.isEmpty
    let counted : Bool × Nat := match s.style with
      | 'a' =>
        if blank then
          (k.blanks ≤ s.blanks + 1, if k.blanks ≤ s.blanks + 1 then 0 else s.blanks + 1)
        else (true, 0)
      | 't' => (!blank, 0)
      | _ => (false, 0)
    if counted.1 then
      (numberText k s.next ++ k.separator ++ l ++ [10],
        { s with next := s.next + k.step, blanks := counted.2 })
    else
      (List.replicate (k.width + k.separator.length) 32 ++ l ++ [10],
       { s with blanks := counted.2 })

def nlKnown : Known :=
  known "b:d:f:h:i:l:n:ps:v:w:" [("body-numbering", .valued, "b"),
    ("header-numbering", .valued, "h"), ("footer-numbering", .valued, "f"),
    ("line-increment", .valued, "i"), ("join-blank-lines", .valued, "l"),
    ("number-format", .valued, "n"), ("no-renumber", .bare, "p"),
    ("number-separator", .valued, "s"), ("starting-line-number", .valued, "v"),
    ("number-width", .valued, "w"), ("section-delimiter", .valued, "d")]

def nl (c : Call) : Launch :=
  c.options nlKnown 1 fun p =>
    let style (key : String) (usual : Char) : Char :=
      (((p.value? key).map letters).bind List.head?).getD usual
    let bad := p.given.find? fun g =>
      let style := wordOf g.2
      ["b", "h", "f"].contains g.1 && style != "a" && style != "t" && style != "n" &&
        style.toList.head? != some 'p'
    let int (key : String) (usual : Int) : Int :=
      (((p.value? key).map wordOf).bind String.toInt?).getD usual
    let format := ((p.value? "n").map wordOf).getD "rn"
    match bad with
    | some g =>
      let what := if g.1 == "b" then "body" else if g.1 == "h" then "header" else "footer"
      c.misuse ("invalid " ++ what ++ " numbering style: " ++ cited g.2) 1
    | none =>
      let isKnown := ["ln", "rn", "rz"].contains format
      if !isKnown then
        c.misuse ("invalid line numbering format: " ++ cited (bytesOf format)) 1
      else if int "w" 6 ≤ 0 then
        let given := cited ((p.value? "w").getD [])
        c.fail ("invalid line number field width: " ++ given ++ ": Numerical result out of range") 1
      else
        let k : Numbering :=
          { body := style "b" 't', header := style "h" 'n', footer := style "f" 'n'
            step := int "i" 1, blanks := (int "l" 1).toNat, separator := (p.value? "s").getD [9]
            width := (int "w" 6).toNat, first := int "v" 1, format, keeps := p.has "p" }
        c.overLines p.operands 1 fun bs ended =>
          let start : Bytes × NumberingState := ([], { next := k.first, style := k.body })
          let (output, _) := (wholeLines ended bs).foldl (fun (acc, s) l =>
            let (out, s) := numbered k s l
            (acc ++ out, s)) start
          { output, code := if ended then some 0 else none }

/-! ## Other forms -/

def rev (c : Call) : Launch :=
  let options := known "0" [("zero", .bare, "0")]
  c.options { options with hint := shortHint } 1 fun p =>
    c.overTexts p.operands fun texts ended =>
      let output := texts.flatMap fun t =>
        let ls := linesOf (t.content.toOption.getD [])
        (if ended then ls else ls.filter fun l => l.getLast? == some 10).flatMap fun l =>
          (bare l).reverse ++ l.drop (bare l).length
      let errors := texts.flatMap fun t =>
        match t.content with
        | .ok _ => []
        | .error e =>
          bytesOf (c.called ++ ": cannot open ") ++ t.name ++ bytesOf (": " ++ e.reason ++ "\n")
      { output, errors
        code := if ended then some (if errors.isEmpty then 0 else 1) else none }

/-- Where a line that is shown comes to with one more byte. -/
def columnAfter (byBytes : Bool) (column : Nat) (b : UInt8) : Nat :=
  if byBytes then column + 1
  else if b == 8 then column - 1
  else if b == 13 then 0
  else if b == 9 then (column / 8 + 1) * 8
  else column + 1

/-- The pieces of a line that fit into a width. -/
def folded (byBytes atBlanks : Bool) (width : Nat) : Nat → Bytes → Nat → Bytes → Bytes
  | 0, acc, _, bs => acc.reverse ++ bs
  | _ + 1, acc, _, [] => acc.reverse
  | fuel + 1, acc, column, b :: rest =>
    let after := columnAfter byBytes column b
    if width < after && !acc.isEmpty then
      let isBlank (b : UInt8) : Bool := b == 32 || b == 9
      let behind := acc.takeWhile fun b => !isBlank b
      if atBlanks && behind.length < acc.length then
        let front := acc.drop behind.length
        let column := behind.reverse.foldl (columnAfter byBytes) 0
        front.reverse ++ 10 :: folded byBytes atBlanks width fuel behind column (b :: rest)
      else acc.reverse ++ 10 :: folded byBytes atBlanks width fuel [] 0 (b :: rest)
    else folded byBytes atBlanks width fuel (b :: acc) after rest

/-- Words in which a number that stands alone behind a sign is an option. -/
def widthWords (letter : Char) (words : List Bytes) : List Bytes :=
  words.map fun w =>
    match letters w with
    | '-' :: d :: ds => if d.isDigit then ofLetters ('-' :: letter :: d :: ds) else w
    | _ => w

def fold (c : Call) : Launch :=
  let c := { c with arguments := widthWords 'w' c.arguments }
  c.options (known "bsw:" [("bytes", .bare, "b"), ("spaces", .bare, "s"),
      ("width", .valued, "w")]) 1 fun p =>
    let given := (p.value? "w").getD (bytesOf "80")
    match Amount.plain? given with
    | none => c.fail ("invalid number of columns: " ++ cited given) 1
    | some 0 =>
      let text := "invalid number of columns: " ++ cited given
      c.fail (text ++ ": Numerical result out of range") 1
    | some width =>
      c.overLines p.operands 1 fun bs ended =>
        let ls := linesOf bs
        let ls := if ended then ls else ls.filter fun l => l.getLast? == some 10
        { output := ls.flatMap fun l =>
            folded (p.has "b") (p.has "s") width (2 * l.length + 2) [] 0 (bare l) ++
              l.drop (bare l).length
          code := if ended then some 0 else none }

/-- The stops of tabs: a distance, or places. -/
def stopsOf (w : Bytes) : Option (List Nat) :=
  (((wordOf w).map fun ch => if ch == ' ' then ',' else ch).splitOn ",").mapM String.toNat?

/-- The column of the next stop. -/
def nextStop (stops : List Nat) (column : Nat) : Nat :=
  match stops with
  | [n] => (column / max n 1 + 1) * max n 1
  | ns => (ns.find? fun n => column < n).getD (column + 1)

/-- A line with blanks in the place of tabs. -/
def expanded (stops : List Nat) (onlyLeading : Bool) : Bool → Nat → Bytes → Bytes
  | _, _, [] => []
  | leading, column, b :: rest =>
    if b == 9 && leading then
      let n := nextStop stops column
      List.replicate (n - column) 32 ++ expanded stops onlyLeading leading n rest
    else
      let column := if b == 8 then column - 1 else column + 1
      b :: expanded stops onlyLeading (leading && (!onlyLeading || b == 32)) column rest

/-- A tool with stops of tabs. -/
def withStops (c : Call) (k : Known) (make : Parsed → List Nat → Bytes → Bytes) : Launch :=
  let c := { c with arguments := widthWords 't' c.arguments }
  c.options k 1 fun p =>
    let given := (p.value? "t").getD (bytesOf "8")
    match stopsOf given with
    | none => c.fail ("tab size contains invalid character(s): " ++ cited given) 1
    | some stops =>
      c.overLines p.operands 1 fun bs ended =>
        let ls := linesOf bs
        let ls := if ended then ls else ls.filter fun l => l.getLast? == some 10
        { output := ls.flatMap fun l => make p stops (bare l) ++ l.drop (bare l).length
          code := if ended then some 0 else none }

def expand (c : Call) : Launch :=
  withStops c (known "it:" [("initial", .bare, "i"), ("tabs", .valued, "t")])
    fun p stops l => expanded stops (p.has "i") true 0 l

/-- A line with tabs in the place of blanks that reach a stop. `pending` counts blanks that may
become a tab. -/
def unexpanded (stops : List Nat) (all : Bool) : Bool → Nat → Nat → Bytes → Bytes
  | _, _, pending, [] => List.replicate pending 32
  | active, column, pending, b :: rest =>
    if active && b == 32 then
      let stop := nextStop stops column
      let reaches := column + 1 == stop
      if reaches && (0 < pending || stop == column + 1 && 0 < pending) then
        9 :: unexpanded stops all true (column + 1) 0 rest
      else if reaches then 32 :: unexpanded stops all true (column + 1) 0 rest
      else unexpanded stops all true (column + 1) (pending + 1) rest
    else if active && b == 9 then
      9 :: unexpanded stops all true (nextStop stops column) 0 rest
    else
      List.replicate pending 32 ++ b :: unexpanded stops all (active && all) (column + 1) 0 rest

def unexpand (c : Call) : Launch :=
  withStops c (known "at:" [("all", .bare, "a"), ("first-only", .bare, "first"),
      ("tabs", .valued, "t")])
    fun p stops l => unexpanded stops ((p.has "a" || p.has "t") && !p.has "first") true 0 0 l

end Lines
end Rehearsal
end Parley
