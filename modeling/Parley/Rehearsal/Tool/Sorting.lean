import Parley.Number.Arithmetic
import Parley.Number.Leading
import Parley.Rehearsal.Tool.Amount
import Parley.Rehearsal.Tool.Lines

/-!
# Parley.Rehearsal.Tool.Sorting

The order of lines.

* `Sorting.Key`: a part of a line, and how such parts are compared.
* `Sorting.compareLines`: the order of two lines.
* `Sorting.sort`: the tool.
-/

namespace Parley
namespace Rehearsal
namespace Sorting

open Call

/-! ## Keys -/

/-- How parts of lines are compared. -/
structure Order where
  /-- Whether blanks in front are passed over where a part begins and where it ends. -/
  skipsStart : Bool := false
  skipsEnd : Bool := false
  dictionary : Bool := false
  fold : Bool := false
  general : Bool := false
  human : Bool := false
  printable : Bool := false
  month : Bool := false
  numeric : Bool := false
  version : Bool := false
  random : Bool := false
  reverse : Bool := false
deriving DecidableEq, Repr

/-- Whether nothing is said of the order. -/
def Order.isPlain (o : Order) : Bool := o == {}

/-- The letters of what is said of an order, without those for blanks and its direction. -/
def Order.letters (o : Order) : String :=
  String.ofList (([(o.dictionary, 'd'), (o.fold, 'f'), (o.general, 'g'), (o.human, 'h'),
    (o.printable && !o.dictionary, 'i'), (o.month, 'M'), (o.numeric, 'n'), (o.random, 'R'),
    (o.version, 'V')].filter (·.1)).map (·.2))

/-- Whether an order is told in more than one way. -/
def Order.isTorn (o : Order) : Bool :=
  let other := o.version || o.random || o.dictionary || o.printable
  1 < ([o.numeric, o.general, o.human, o.month, other].filter id).length

structure Key where
  /-- The first field and byte, counted from zero. -/
  field : Nat := 0
  byte : Nat := 0
  /-- The last field and how many of its bytes, zero for all; none if it is the rest of the line. -/
  last : Option (Nat × Nat) := none
  order : Order := {}

def isBlank (b : UInt8) : Bool := b == 32 || b == 9 || b == 10

/-- What is left of a line behind so many fields. -/
def behindFields (tab : Option UInt8) : Nat → Bytes → Bytes
  | 0, bs => bs
  | n + 1, bs =>
    match tab with
    | some t => behindFields tab n ((bs.dropWhile (· != t)).drop 1)
    | none => behindFields tab n ((bs.dropWhile isBlank).dropWhile fun b => !isBlank b)

/-- How much of a line is left behind the end of a key. -/
def leftBehind (tab : Option UInt8) (k : Key) (line : Bytes) : Nat :=
  match k.last with
  | none => 0
  | some (field, 0) =>
    match tab with
    | some t => ((behindFields tab field line).dropWhile (· != t)).length
    | none => (behindFields tab (field + 1) line).length
  | some (field, count) =>
    let rest := behindFields tab field line
    let rest := if k.order.skipsEnd then rest.dropWhile isBlank else rest
    (rest.drop count).length

/-- The part of a line that a key names. -/
def Key.part (tab : Option UInt8) (k : Key) (line : Bytes) : Bytes :=
  let rest := behindFields tab k.field line
  let rest := if k.order.skipsStart then rest.dropWhile isBlank else rest
  let rest := rest.drop k.byte
  rest.take (rest.length - leftBehind tab k line)

/-! ## Values -/

/-- A number in digits, as a whole number of parts of a power of ten. -/
def decimalOf (bs : Bytes) : Int × Nat × Bytes :=
  let bs := bs.dropWhile isBlank
  let (negative, bs) := match bs with
    | 45 :: rest => (true, rest)
    | rest => (false, rest)
  let isDigit (b : UInt8) : Bool := 48 ≤ b && b ≤ 57
  let whole := bs.takeWhile isDigit
  let rest := bs.drop whole.length
  let (part, rest) := match rest with
    | 46 :: more => (more.takeWhile isDigit, more.dropWhile isDigit)
    | rest => ([], rest)
  let n := (whole ++ part).foldl (fun (n : Nat) b => n * 10 + (b.toNat - 48)) 0
  (if negative then -n else n, part.length, rest)

def compareDecimals (a b : Int × Nat) : Ordering :=
  compare (a.1 * Nat.pow 10 b.2) (b.1 * Nat.pow 10 a.2)

/-- The rank of the unit behind a number, with the sign of the number. -/
def unitRank (n : Int) (rest : Bytes) : Int :=
  let rank : Nat := match (letters rest).head? with
    | some 'K' => 1
    | some 'k' => 1
    | some 'M' => 2
    | some 'G' => 3
    | some 'T' => 4
    | some 'P' => 5
    | some 'E' => 6
    | some 'Z' => 7
    | some 'Y' => 8
    | some 'R' => 9
    | some 'Q' => 10
    | _ => 0
  if n == 0 then 0 else if n < 0 then -rank else rank

def months : List String :=
  ["JAN", "FEB", "MAR", "APR", "MAY", "JUN", "JUL", "AUG", "SEP", "OCT", "NOV", "DEC"]

def upper (b : UInt8) : UInt8 := if 97 ≤ b && b ≤ 122 then b - 32 else b

def monthOf (bs : Bytes) : Nat :=
  let name := wordOf (((bs.dropWhile isBlank).take 3).map upper)
  ((months.findIdx? (· == name)).map (· + 1)).getD 0

/-- The rank of a byte in the name of a version. -/
def versionRank (b : Option UInt8) : Int :=
  match b with
  | none => 0
  | some b =>
    if b == 126 then -1
    else if (65 ≤ b && b ≤ 90) || (97 ≤ b && b ≤ 122) then b.toNat
    else b.toNat + 256

/-- The order of versions: digits by the numbers that they are, other bytes by their ranks. -/
def compareVersions : Nat → Bytes → Bytes → Ordering
  | 0, _, _ => .eq
  | fuel + 1, as, bs =>
    let isDigit (b : UInt8) : Bool := 48 ≤ b && b ≤ 57
    if as.isEmpty && bs.isEmpty then .eq
    else
      let (p, q) := (as.takeWhile fun b => !isDigit b, bs.takeWhile fun b => !isDigit b)
      match compareRanks (max p.length q.length + 1) p q with
      | .eq =>
        let (as, bs) := (as.drop p.length, bs.drop q.length)
        let (m, n) := (as.takeWhile isDigit, bs.takeWhile isDigit)
        let value (ds : Bytes) : Nat := ds.foldl (fun n b => n * 10 + (b.toNat - 48)) 0
        match compare (value m) (value n) with
        | .eq => compareVersions fuel (as.drop m.length) (bs.drop n.length)
        | o => o
      | o => o
where
  /-- Bytes that are no digits, by their ranks. -/
  compareRanks : Nat → Bytes → Bytes → Ordering
    | 0, _, _ => .eq
    | fuel + 1, as, bs =>
      if as.isEmpty && bs.isEmpty then .eq
      else
        match compare (versionRank as.head?) (versionRank bs.head?) with
        | .eq => compareRanks fuel (as.drop 1) (bs.drop 1)
        | o => o

/-- The order of the names of versions: names that begin with a dot come first. -/
def compareNames (as bs : Bytes) : Ordering :=
  let hidden (w : Bytes) : Bool := w.head? == some 46
  if as == bs then .eq
  else if as.isEmpty then .lt
  else if bs.isEmpty then .gt
  else if hidden as && !hidden bs then .lt
  else if hidden bs && !hidden as then .gt
  else
    match compareVersions (as.length + bs.length + 1) as bs with
    | .eq => compareBytes as bs
    | o => o

/-- A number with a power of ten: what is no number comes first, and then what is not a number. -/
def compareGeneral (as bs : Bytes) : Ordering :=
  match Number.leading? (letters as), Number.leading? (letters bs) with
  | none, none => .eq
  | none, some _ => .lt
  | some _, none => .gt
  | some (x, _), some (y, _) =>
    match x.compare? y with
    | some o => o
    | none =>
      if x == .nan && y == .nan then .eq else if x == .nan then .lt else .gt

/-- The bytes of a part that count. -/
def counting (o : Order) (bs : Bytes) : Bytes :=
  let isPlain (b : UInt8) : Bool :=
    isBlank b || (48 ≤ b && b ≤ 57) || (65 ≤ b && b ≤ 90) || (97 ≤ b && b ≤ 122)
  let bs := if o.dictionary then bs.filter isPlain
    else if o.printable then bs.filter fun b => 32 ≤ b && b < 127 else bs
  if o.fold then bs.map upper else bs

/-- The order of two parts, its direction aside. -/
def compareParts (o : Order) (as bs : Bytes) : Ordering :=
  if o.numeric then
    let (a, b) := (decimalOf as, decimalOf bs)
    compareDecimals (a.1, a.2.1) (b.1, b.2.1)
  else if o.general then compareGeneral as bs
  else if o.human then
    let (a, b) := (decimalOf as, decimalOf bs)
    match compare (unitRank a.1 a.2.2) (unitRank b.1 b.2.2) with
    | .eq => compareDecimals (a.1, a.2.1) (b.1, b.2.1)
    | r => r
  else if o.month then compare (monthOf as) (monthOf bs)
  else if o.version then compareNames (counting o as) (counting o bs)
  else compareBytes (counting o as) (counting o bs)

/-! ## Lines -/

structure Plan where
  keys : List Key
  tab : Option UInt8 := none
  reverse : Bool := false
  unique : Bool := false
  stable : Bool := false

/-- The order of two lines by the keys alone. -/
def compareKeys (tab : Option UInt8) (a b : Bytes) : List Key → Ordering
  | [] => .eq
  | k :: rest =>
    match compareParts k.order (k.part tab a) (k.part tab b) with
    | .eq => compareKeys tab a b rest
    | o => if k.order.reverse then o.swap else o

/-- The order of two lines: by the keys, and then by all their bytes. -/
def compareLines (p : Plan) (a b : Bytes) : Ordering :=
  match compareKeys p.tab a b p.keys with
  | .eq =>
    if (p.unique || p.stable) && !p.keys.isEmpty then .eq
    else if p.reverse then (compareBytes a b).swap
    else compareBytes a b
  | o => o

/-- The first of lines that count as the same. -/
def distinct (p : Plan) (last : Option Bytes) : List Bytes → List Bytes
  | [] => []
  | l :: ls =>
    if last.any fun k => compareLines p k l == .eq then distinct p last ls
    else l :: distinct p (some l) ls

def sorted (p : Plan) (ls : List Bytes) : List Bytes :=
  let ls := ls.mergeSort fun a b => compareLines p a b != .gt
  if p.unique then distinct p none ls else ls

/-- Lines of several texts, of which always the least of the first ones is taken. -/
def merged (p : Plan) : Nat → List (List Bytes) → List Bytes
  | 0, _ => []
  | fuel + 1, texts =>
    let heads := (texts.zipIdx).filterMap fun (ls, i) => ls.head?.map fun l => (l, i)
    match heads with
    | [] => []
    | h :: hs =>
      let (l, i) := hs.foldl (fun (least : Bytes × Nat) x =>
        if compareLines p x.1 least.1 == .lt then x else least) h
      l :: merged p fuel ((texts.zipIdx).map fun (ls, j) => if i == j then ls.drop 1 else ls)

/-- The first line that is not in its place, with its number. -/
def disorder? (p : Plan) (number : Nat) : List Bytes → Option (Nat × Bytes)
  | a :: b :: rest =>
    let o := compareLines p a b
    if o == .gt || (p.unique && o == .eq) then some (number + 1, b)
    else disorder? p (number + 1) (b :: rest)
  | _ => none

/-! ## Options -/

/-- A count in a description of a key, and what follows. -/
def count? (what : String) (cs : List Char) : Except String (Nat × List Char) :=
  let ds := cs.takeWhile Char.isDigit
  if ds.isEmpty then .error (what ++ ": invalid count at start of " ++ cited (ofLetters cs))
  else .ok (Number.digitsValue ds, cs.drop ds.length)

/-- The letters of an order, and what follows. -/
def ordering (atStart : Bool) (o : Order) : List Char → Order × List Char
  | [] => (o, [])
  | c :: cs =>
    let next : Option Order := match c with
      | 'b' => some (if atStart then { o with skipsStart := true } else { o with skipsEnd := true })
      | 'd' => some { o with dictionary := true }
      | 'f' => some { o with fold := true }
      | 'g' => some { o with general := true }
      | 'h' => some { o with human := true }
      | 'i' => some { o with printable := true }
      | 'M' => some { o with month := true }
      | 'n' => some { o with numeric := true }
      | 'R' => some { o with random := true }
      | 'r' => some { o with reverse := true }
      | 'V' => some { o with version := true }
      | _ => none
    match next with
    | some o => ordering atStart o cs
    | none => (o, c :: cs)

/-- A key from its description. -/
def key? (w : Bytes) : Except String Key := do
  let wrong (text : String) : String := text ++ ": invalid field specification " ++ cited w
  let offset? (cs : List Char) : Except String (Nat × List Char) :=
    match cs with
    | '.' :: cs => count? "invalid number after '.'" cs
    | cs => .ok (0, cs)
  let cs := letters w
  let (field, cs) ← count? "invalid number at field start" cs
  if field == 0 then throw (wrong "field number is zero")
  let hasOffset := cs.head? == some '.'
  let (byte, cs) ← offset? cs
  if hasOffset && byte == 0 then throw (wrong "character offset is zero")
  let (order, cs) := ordering true {} cs
  let start : Key := { field := field - 1, byte := byte - 1, order }
  match cs with
  | [] => return start
  | ',' :: cs =>
    let (last, cs) ← count? "invalid number after ','" cs
    if last == 0 then throw (wrong "field number is zero")
    let (count, cs) ← offset? cs
    let (order, cs) := ordering false order cs
    if !cs.isEmpty then throw (wrong "stray character in field spec")
    return { start with last := some (last - 1, count), order }
  | _ => throw (wrong "stray character in field spec")

/-- The kinds of order by their names. -/
def sortNames : List (String × Char) :=
  [("general-numeric", 'g'), ("human-numeric", 'h'), ("month", 'M'), ("numeric", 'n'),
   ("random", 'R'), ("version", 'V')]

def sortKnown : Known :=
  known "bcCdfghik:mMno:rRsS:t:T:uVyz"
    [("ignore-leading-blanks", .bare, "b"), ("check", .maybe, "check"),
      ("compress-program", .valued, "program"), ("debug", .bare, "debug"),
      ("dictionary-order", .bare, "d"), ("ignore-case", .bare, "f"),
      ("files0-from", .valued, "files0"), ("general-numeric-sort", .bare, "g"),
      ("ignore-nonprinting", .bare, "i"), ("key", .valued, "k"), ("merge", .bare, "m"),
      ("month-sort", .bare, "M"), ("numeric-sort", .bare, "n"), ("human-numeric-sort", .bare, "h"),
      ("version-sort", .bare, "V"), ("random-sort", .bare, "R"),
      ("random-source", .valued, "source"),
      ("sort", .valued, "sort"), ("output", .valued, "o"), ("reverse", .bare, "r"),
      ("stable", .bare, "s"), ("batch-size", .valued, "batch"), ("buffer-size", .valued, "S"),
      ("field-separator", .valued, "t"), ("temporary-directory", .valued, "T"),
      ("unique", .bare, "u"), ("zero-terminated", .bare, "z"),
      ("parallel", .valued, "parallel")]
    [("check", [["quiet", "silent"], ["diagnose-first"]]),
     ("sort", sortNames.map fun n => [n.1])]

/-- The plan of some options. -/
def planOf (p : Parsed) : Except String Plan := do
  let named := (p.given.filter fun g => g.1 == "sort").filterMap fun g =>
    sortNames.lookup (wordOf g.2)
  let flags := (p.given.filter fun g => g.1.length == 1 && g.2.isEmpty).flatMap fun g => g.1.toList
  let usual := ((flags ++ named).filter fun c => "bdfghiMnRrV".toList.contains c).foldl
    (fun o c => (ordering true o [c]).1) {}
  let usual := { usual with skipsEnd := usual.skipsStart }
  let given ← (p.given.filter fun g => g.1 == "k").mapM fun g => key? g.2
  let keys := given.map fun k => if k.order.isPlain then { k with order := usual } else k
  let keys := if keys.isEmpty && !({ usual with reverse := false } : Order).isPlain then
      [{ order := usual }]
    else keys
  let torn := (if keys.isEmpty then [usual] else keys.map (·.order)).find? Order.isTorn
  if let some o := torn then throw ("options '-" ++ o.letters ++ "' are incompatible")
  let tab ← match p.value? "t" with
    | none => pure none
    | some [] => throw "empty tab"
    | some [b] => pure (some b)
    | some w => if wordOf w == "\\0" then pure (some 0) else
        throw ("multi-character tab " ++ cited w)
  return { keys, tab, reverse := usual.reverse, unique := p.has "u", stable := p.has "s" }

/-- The lines of a text up to where `ending` stands. -/
def linesAt (ending : UInt8) (bs : Bytes) : List Bytes :=
  let pieces := Lines.fieldsAt ending bs
  if pieces.getLast? == some [] then pieces.dropLast else pieces

/-- Sorts texts, or tells why they cannot be read. -/
def sortTexts (c : Call) (p : Parsed) (plan : Plan) (ending : UInt8) (texts : List Text) :
    Outcome :=
  let faults := texts.filterMap fun t =>
    match t.content with
    | .ok _ => none
    | .error e =>
      let what := if e == .isDirectory then "read failed: " else "cannot read: "
      some (what ++ asName t.name ++ ": " ++ e.reason)
  match faults with
  | f :: _ => .failure (c.complaint f) 2
  | [] =>
    let columns := texts.map fun t => linesAt ending (t.content.toOption.getD [])
    let check := (p.given.filter fun g => ["c", "C", "check"].contains g.1).getLast?
    match check with
    | some (key, value) =>
      let silent := key == "C" || wordOf value == "quiet"
      match disorder? plan 1 columns.flatten with
      | none => {}
      | some (n, l) =>
        if silent then { code := some 1 }
        else
          let name := ((texts.map (·.name)).head?).getD [45]
          { errors := bytesOf (c.complaint (wordOf name ++ ":" ++ toString n ++ ": disorder: " ++
              wordOf l)), code := some 1 }
    | none =>
      let ls := if p.has "m" then
          let ls := merged plan (columns.flatten.length + 1) columns
          if plan.unique then distinct plan none ls else ls
        else sorted plan columns.flatten
      { output := ls.flatMap fun l => l ++ [ending] }

def sort (c : Call) : Launch :=
  c.options sortKnown 2 fun p =>
    match planOf p with
    | .error text => c.fail text 2
    | .ok plan =>
      let ending : UInt8 := if p.has "z" then 0 else 10
      let outputs := ((p.given.filter fun g => g.1 == "o").map (·.2)).eraseDups
      let checks := ["c", "C", "check"].any p.has
      match outputs, checks, p.operands with
      | _ :: _ :: _, _, _ => c.fail "multiple output files specified" 2
      | _, true, _ :: w :: _ => c.fail ("extra operand " ++ cited w ++ " not allowed with -c") 2
      | _, _, _ =>
        let launch := c.overWhole p.operands (sortTexts c p plan ending)
        match launch, outputs with
        | .tool t joints, [path] =>
          let isFault := (c.sources p.operands).any fun s => !Copying.isReadable s.2
          match Copying.unwritable? c path with
          | some e =>
            if isFault then launch
            else c.fail ("open failed: " ++ asName path ++ ": " ++ e.reason) 2
          | none => .tool t ((1, .write, wordOf path) :: joints)
        | l, _ => l

end Sorting
end Rehearsal
end Parley
