import Parley.Number.Arithmetic
import Parley.Rehearsal.Format
import Parley.Rehearsal.Tool.Amount
import Parley.Rehearsal.Tool.Copying

/-!
# Parley.Rehearsal.Tool.Dump

Bytes as numbers and as names, line by line, with the place of each line in front of it.

* `Dump.Kind`: how bytes are shown.
* `Dump.od`: the tool.
-/

namespace Parley
namespace Rehearsal
namespace Dump

open Call

/-! ## Kinds -/

inductive Style
  | octal
  | signed
  | unsigned
  | hexadecimal
  | real
  | character
  | named
deriving DecidableEq, Repr

/-- How bytes are shown: so many of them as one field, and perhaps with a text behind them. -/
structure Kind where
  style : Style
  size : Nat
  hasText : Bool := false
deriving Repr

/-- How wide a field is without the blank in front of it. -/
def Kind.width (k : Kind) : Nat :=
  match k.style with
  | .octal => (8 * k.size + 2) / 3
  | .signed => match k.size with
    | 1 => 4
    | 2 => 6
    | 4 => 11
    | _ => 20
  | .unsigned => match k.size with
    | 1 => 3
    | 2 => 5
    | 4 => 10
    | _ => 20
  | .hexadecimal => 2 * k.size
  | .real => if k.size == 4 then 15 else 24
  | .character => 3
  | .named => 3

def sizeLetters : List (Char × Nat) := [('C', 1), ('S', 2), ('I', 4), ('L', 8)]
def realLetters : List (Char × Nat) := [('F', 4), ('D', 8)]

/-- One kind at the front of a description, and what follows it. -/
def kind? (whole : String) : List Char → Except String (Kind × List Char)
  | [] => .ok (⟨.octal, 2, false⟩, [])
  | c :: rest =>
    let style? : Option Style := match c with
      | 'd' => some .signed
      | 'o' => some .octal
      | 'u' => some .unsigned
      | 'x' => some .hexadecimal
      | 'f' => some .real
      | 'a' => some .named
      | 'c' => some .character
      | _ => none
    match style? with
    | none =>
      let letter := "'" ++ String.ofList [c] ++ "'"
      .error ("invalid character " ++ letter ++ " in type string " ++ cited (bytesOf whole))
    | some .named => .ok (⟨.named, 1, false⟩, rest)
    | some .character => .ok (⟨.character, 1, false⟩, rest)
    | some style =>
      let isReal := style == .real
      let known := if isReal then realLetters else sizeLetters
      match (rest.head?).bind fun ch => known.lookup ch with
      | some size => .ok (⟨style, size, false⟩, rest.drop 1)
      | none =>
        let digits := rest.takeWhile Char.isDigit
        let size := if digits.isEmpty then (if isReal then 8 else 4)
          else Number.digitsValue digits
        let sizes := if isReal then [4, 8] else [1, 2, 4, 8]
        if sizes.contains size then .ok (⟨style, size, false⟩, rest.drop digits.length)
        else
          let type := if isReal then "floating point type" else "integral type"
          .error ("invalid type string " ++ cited (bytesOf whole) ++
            ";\nthis system doesn't provide a " ++ toString size ++ "-byte " ++ type)

/-- The kinds of a description. -/
def kindsFrom (whole : String) : Nat → List Char → Except String (List Kind)
  | 0, _ => .ok []
  | _ + 1, [] => .ok []
  | fuel + 1, cs => do
    let (k, rest) ← kind? whole cs
    match rest with
    | 'z' :: rest => return { k with hasText := true } :: (← kindsFrom whole fuel rest)
    | rest => return k :: (← kindsFrom whole fuel rest)

def kindsOf (w : Bytes) : Except String (List Kind) :=
  kindsFrom (wordOf w) (w.length + 1) (letters w)

/-! ## Fields -/

/-- The names of bytes that cannot be shown. -/
def names : List String :=
  ["nul", "soh", "stx", "etx", "eot", "enq", "ack", "bel", "bs", "ht", "nl", "vt", "ff", "cr",
   "so", "si", "dle", "dc1", "dc2", "dc3", "dc4", "nak", "syn", "etb", "can", "em", "sub", "esc",
   "fs", "gs", "rs", "us", "sp"]

/-- Digits with zeros in front of them. -/
def zeroed (width : Nat) (ds : List Char) : List Char :=
  List.replicate (width - ds.length) '0' ++ ds

def character (b : UInt8) : List Char :=
  match b with
  | 0 => ['\\', '0']
  | 7 => ['\\', 'a']
  | 8 => ['\\', 'b']
  | 9 => ['\\', 't']
  | 10 => ['\\', 'n']
  | 11 => ['\\', 'v']
  | 12 => ['\\', 'f']
  | 13 => ['\\', 'r']
  | b => if 32 ≤ b && b < 127 then letters [b] else zeroed 3 (Nat.toDigits 8 b.toNat)

def name (b : UInt8) : List Char :=
  let n := b.toNat % 128
  if n == 127 then "del".toList
  else ((names[n]?).map String.toList).getD [Char.ofNat n]

/-- The number with the fewest digits that reads back as itself. -/
def shortest (x : Binary64) (isSame : Binary64 → Bool) : Nat → Nat → List Char
  | 0, digits => Format.real { precision := some digits } 'g' x
  | fuel + 1, digits =>
    let cs := Format.real { precision := some digits } 'g' x
    match Number.leading? cs with
    | some (y, _) => if isSame y then cs else shortest x isSame fuel (digits + 1)
    | none => cs

/-- The number that some bits stand for. -/
def real (size : Nat) (n : Nat) : List Char :=
  if size == 4 then
    let f := Float32.ofBits (UInt32.ofNat n)
    shortest (.ofFloat f.toFloat) (fun y => y.toFloat.toFloat32.toBits == f.toBits) 3 6
  else
    let x := Binary64.ofFloat (Float.ofBits (UInt64.ofNat n))
    shortest x (fun y => y == x) 2 15

/-- A number of bytes, the least one first. -/
def number (bs : Bytes) : Nat := bs.foldr (fun b n => n * 256 + b.toNat) 0

/-- Bytes as a field. -/
def Kind.show (k : Kind) (bigFirst : Bool) (bs : Bytes) : List Char :=
  let n := number (if bigFirst then bs.reverse else bs)
  match k.style with
  | .octal => zeroed k.width (Nat.toDigits 8 n)
  | .hexadecimal => zeroed k.width (Nat.toDigits 16 n)
  | .unsigned => Nat.toDigits 10 n
  | .signed =>
    let i : Int := if n < Nat.pow 2 (8 * k.size - 1) then n else (n : Int) - Int.pow 2 (8 * k.size)
    (toString i).toList
  | .real => real k.size n
  | .character => character (bs.headD 0)
  | .named => name (bs.headD 0)

/-- Pieces of so many bytes, the last one filled with zeros. -/
def pieces (size : Nat) : Nat → Bytes → List Bytes
  | 0, _ => []
  | _ + 1, [] => []
  | fuel + 1, bs =>
    let piece := bs.take size
    (piece ++ List.replicate (size - piece.length) 0) :: pieces size fuel (bs.drop size)

/-! ## Lines -/

/-- How a text is shown. -/
structure Manner where
  kinds : List Kind
  /-- The base of places, and none if places are not shown. -/
  base : Option Nat := some 8
  /-- How many bytes stand in a line. -/
  width : Nat := 16
  showsAll : Bool := false
  bigFirst : Bool := false

def Manner.placeWidth (m : Manner) : Nat :=
  match m.base with
  | some 16 => 6
  | some _ => 7
  | none => 0

def Manner.place (m : Manner) (n : Nat) : List Char :=
  match m.base with
  | some b => zeroed m.placeWidth (Nat.toDigits b n)
  | none => []

/-- How wide the fields of a line are together. -/
def Manner.lineWidth (m : Manner) : Nat :=
  (m.kinds.map fun k => (k.width + 1) * (m.width / k.size)).foldl max 0

/-- Fields with the room that is left over between them. -/
def spread (fields room width : Nat) : Nat → Nat → List (List Char) → List Char
  | _, _, [] => []
  | left, given, f :: rest =>
    let next := room * (left - 1) / fields
    let wide := given - next + width
    List.replicate (wide - f.length) ' ' ++ f ++ spread fields room width (left - 1) next rest

/-- The text behind a line. -/
def trailer (bs : Bytes) : List Char :=
  let shown := bs.map fun b => if 32 ≤ b && b < 127 then Char.ofNat b.toNat else '.'
  "  >".toList ++ shown ++ ['<']

/-- A line in one of its kinds. -/
def row (m : Manner) (k : Kind) (bs : Bytes) : List Char :=
  let fields := m.width / k.size
  let room := m.lineWidth - k.width * fields
  let shown := (pieces k.size (bs.length + 1) bs).map (k.show m.bigFirst)
  let blank := (m.width - bs.length) / k.size
  spread fields room k.width fields room shown ++
    if k.hasText then
      List.replicate (blank * k.width + room * blank / fields) ' ' ++ trailer bs
    else []

/-- A line in all of its kinds. -/
def rows (m : Manner) (offset : Nat) (bs : Bytes) : List Char :=
  (m.kinds.zipIdx).flatMap fun (k, i) =>
    (if i == 0 then m.place offset else List.replicate m.placeWidth ' ') ++ row m k bs ++ ['\n']

/-- Lines from a place on. A whole line like the one before is only marked, and further ones are
left out. -/
def linesFrom (m : Manner) : Nat → Nat → Option Bytes → Bool → Bytes → List Char
  | 0, _, _, _, _ => []
  | _ + 1, _, _, _, [] => []
  | fuel + 1, offset, last, marked, bs =>
    let now := bs.take m.width
    let rest := bs.drop m.width
    if !m.showsAll && last == some now then
      (if marked then [] else ['*', '\n']) ++
        linesFrom m fuel (offset + now.length) last true rest
    else
      rows m offset now ++
        linesFrom m fuel (offset + now.length) (if now.length == m.width then some now else none)
          false rest

/-- The whole of a text, of which so many bytes in front are not shown. -/
def dump (m : Manner) (skip : Nat) (bs : Bytes) : Bytes :=
  let bs := bs.drop skip
  let ending := if m.base.isSome then m.place (skip + bs.length) ++ ['\n'] else []
  ofLetters (linesFrom m (bs.length + 1) skip none false bs ++ ending)

/-- The texts of a least length that a zero byte ends, with their places. -/
def textsIn (m : Manner) (least : Nat) (offset : Nat) (acc : Bytes) : Bytes → List Char
  | [] => []
  | b :: bs =>
    if b == 0 then
      let text := acc.reverse
      let place := m.place (offset - acc.length)
      (if least ≤ text.length && !text.isEmpty then
        place ++ (if place.isEmpty then [] else [' ']) ++ letters text ++ ['\n'] else []) ++
          textsIn m least (offset + 1) [] bs
    else if (32 ≤ b && b < 127) || (8 ≤ b && b ≤ 13) || b == 7 then
      textsIn m least (offset + 1) (b :: acc) bs
    else textsIn m least (offset + 1) [] bs

/-! ## The tool -/

/-- Letters that stand for kinds. -/
def letterKinds : List (String × Kind) :=
  [("a", ⟨.named, 1, false⟩), ("b", ⟨.octal, 1, false⟩), ("c", ⟨.character, 1, false⟩),
   ("D", ⟨.unsigned, 4, false⟩), ("d", ⟨.unsigned, 2, false⟩), ("e", ⟨.real, 8, false⟩),
   ("F", ⟨.real, 8, false⟩), ("f", ⟨.real, 4, false⟩), ("H", ⟨.hexadecimal, 4, false⟩),
   ("X", ⟨.hexadecimal, 4, false⟩), ("h", ⟨.hexadecimal, 2, false⟩),
   ("x", ⟨.hexadecimal, 2, false⟩), ("I", ⟨.signed, 8, false⟩), ("L", ⟨.signed, 8, false⟩),
   ("l", ⟨.signed, 8, false⟩), ("i", ⟨.signed, 4, false⟩), ("O", ⟨.octal, 4, false⟩),
   ("o", ⟨.octal, 2, false⟩), ("B", ⟨.octal, 2, false⟩), ("s", ⟨.signed, 2, false⟩)]

/-- All kinds that some options ask for. -/
def kindsGiven : List Given → Except String (List Kind)
  | [] => .ok []
  | (key, value) :: rest => do
    let some k := letterKinds.lookup key
      | if key == "t" then return (← kindsOf value) ++ (← kindsGiven rest) else kindsGiven rest
    return k :: (← kindsGiven rest)

/-- A count in digits of base ten, eight or sixteen, with a unit; or what is wrong with it. -/
def amount? (what : String) (w : Bytes) : Except String Nat :=
  let cs := letters w
  let (n, rest) : Option Nat × List Char := match cs with
    | '0' :: 'x' :: ds =>
      let hex := ds.takeWhile Number.isHex
      (if hex.isEmpty then some 0 else some (Number.hexOf hex),
        if hex.isEmpty then 'x' :: ds else ds.drop hex.length)
    | '0' :: ds =>
      let octal := ds.takeWhile Format.isOctal
      (some (octal.foldl (fun n d => n * 8 + (d.toNat - 48)) 0), ds.drop octal.length)
    | cs =>
      let ds := cs.takeWhile Char.isDigit
      (if ds.isEmpty then none else some (Number.digitsValue ds), cs.drop ds.length)
  match n, Amount.unit? rest with
  | none, _ => .error ("invalid " ++ what ++ " argument " ++ cited w)
  | some n, some unit => .ok (n * unit)
  | some _, none => .error ("invalid suffix in " ++ what ++ " argument " ++ cited w)

/-- A place in the form in which it may stand as a word of its own. -/
def place? (w : Bytes) : Option Nat :=
  let cs := letters w
  let cs := if cs.head? == some '+' then cs.drop 1 else cs
  if cs.isEmpty then none
  else if cs.getLast? == some '.' then
    let ds := cs.dropLast
    if !ds.isEmpty && ds.all Char.isDigit then some (Number.digitsValue ds) else none
  else
    match cs with
    | '0' :: 'x' :: ds =>
      if !ds.isEmpty && ds.all Number.isHex then some (Number.hexOf ds) else none
    | ds =>
      if ds.all Format.isOctal then some (ds.foldl (fun n d => n * 8 + (d.toNat - 48)) 0) else none

def odKnown : Known :=
  known "A:aBbcDdeFfHhIij:LlN:OoS:st:vw::Xx"
    [("skip-bytes", .valued, "j"), ("address-radix", .valued, "A"), ("read-bytes", .valued, "N"),
      ("format", .valued, "t"), ("output-duplicates", .bare, "v"), ("strings", .maybe, "S"),
      ("traditional", .bare, "traditional"), ("width", .maybe, "w"),
      ("endian", .valued, "endian")]
    [("endian", [["little"], ["big"]])]

/-- The least common multiple of the sizes of some kinds. -/
def unitOf (kinds : List Kind) : Nat := (kinds.map (·.size)).foldl Nat.lcm 1

/-- How a text is shown by some options, with a warning. -/
def mannerOf (p : Parsed) (kinds : List Kind) : Except String (Manner × Option String) := do
  let kinds := if kinds.isEmpty then [⟨.octal, 2, false⟩] else kinds
  let base ← match p.value? "A" with
    | none => pure (some 8)
    | some w =>
      match w.head? with
      | some 100 => pure (some 10)
      | some 111 => pure (some 8)
      | some 120 => pure (some 16)
      | some 110 => pure none
      | _ =>
        let text := "invalid output address radix " ++ cited (w.take 1)
        throw (text ++ "; it must be one character from [doxn]")
  let unit := unitOf kinds
  let usual := if unit ≤ 16 then 16 / unit * unit else unit
  let (width, warning) ← match p.value? "w" with
    | none => pure (usual, none)
    | some [] => pure (32 / unit * unit, none)
    | some w => do
      let n ← amount? "-w" w
      if n != 0 && n % unit == 0 then pure (n, none)
      else pure (unit, some ("warning: invalid width " ++ toString n ++ "; using " ++
        toString unit ++ " instead"))
  return ({ kinds, base, width, showsAll := p.has "v"
            bigFirst := p.value? "endian" == some (bytesOf "big") }, warning)

/-- Which words name texts, and how many bytes in front are not shown. -/
def operandsOf (p : Parsed) (skip : Nat) : List Bytes × Nat :=
  let modern := p.given.any fun g => ["A", "j", "N", "S", "t", "v", "w", "endian"].contains g.1
  if modern && !p.has "traditional" then (p.operands, skip)
  else
    let starts (w : Bytes) : Bool := w.head? == some 43
    let isDigit (w : Bytes) : Bool := w.head?.any fun b => 48 ≤ b && b ≤ 57
    match p.operands with
    | [w] => if starts w then ((place? w).map fun n => ([], n)).getD ([w], skip) else ([w], skip)
    | [v, w] =>
      if starts w || isDigit w then ((place? w).map fun n => ([v], n)).getD ([v, w], skip)
      else ([v, w], skip)
    | ws => (ws, skip)

def od (c : Call) : Launch :=
  c.options odKnown 1 fun p =>
    let plan : Except String (Manner × Option String × Nat × Option Nat × Option Nat) := do
      let kinds ← kindsGiven p.given
      let (m, warning) ← mannerOf p kinds
      let skip ← ((p.value? "j").map (amount? "-j")).getD (.ok 0)
      let limit ← match p.value? "N" with
        | none => pure none
        | some w => (amount? "-N" w).map some
      let least ← match p.value? "S" with
        | none => pure none
        | some [] => pure (some 3)
        | some w => (amount? "-S" w).map some
      return (m, warning, skip, limit, least)
    match plan with
    | .error text => c.fail text 1
    | .ok (m, warning, skip, limit, least) =>
      let (words, skip) := operandsOf p skip
      let said := bytesOf (((warning.map c.complaint).getD ""))
      let sources := c.sources words
      let make (taken : Bytes) (ended : Bool) : Outcome :=
        let texts := textsOf sources taken
        let (content, errors) := c.joined texts
        let code := if errors.isEmpty then 0 else 1
        let opened := (sources.zip texts).any fun (s, t) =>
          match s.2, t.content with
          | .directory, _ => true
          | _, .ok _ => true
          | _, _ => false
        if !opened then { errors, code := some 1 }
        else
          let errors := errors ++ said
          let content := limit.elim content fun n => content.take (skip + n)
          if ended && content.length < skip then
            { errors := errors ++ bytesOf (c.complaint "cannot skip past end of combined input")
              code := some 1 }
          else if !ended then
            let whole := (content.length - skip) / m.width * m.width
            if least.isSome || whole == 0 then .waiting []
            else
              .waiting (ofLetters
                (linesFrom m (content.length + 1) skip none false ((content.drop skip).take whole)))
          else
            let output := match least with
              | some n => ofLetters (textsIn m n skip [] (content.drop skip))
              | none => dump m skip content
            { output, errors, code := some code }
      if readsInput sources then
        match limit with
        | some n => .limitedFilter (skip + n) make
        | none => .filter make
      else .outcome (make [] true)

end Dump
end Rehearsal
end Parley
