import Parley.Rehearsal.Shell.Glob
import Parley.Rehearsal.Tool.Call

/-!
# Parley.Rehearsal.Tool.Translate

Bytes in the place of others. The bytes of a set are given in an order, with ranges, classes and
repetitions among them.

* `Translate.Part`: what a set is made of.
* `Translate.tr`: the tool.
-/

namespace Parley
namespace Rehearsal
namespace Translate

open Call

/-! ## Sets -/

/-- A part of a set. -/
inductive Part
  | byte (b : UInt8)
  | range (low high : UInt8)
  | members (name : String)
  /-- The bytes that count as the same as one. -/
  | same (b : UInt8)
  /-- A byte so many times, or as often as there is room. -/
  | repeated (b : UInt8) (count : Option Nat)
deriving DecidableEq, Repr

/-- The number that some digits stand for in a base. -/
def valueIn (base : Nat) (ds : List Char) : Nat :=
  ds.foldl (fun n d => n * base + (d.toNat - 48)) 0

/-- Up to three octal digits; of three that are too much only two count. -/
def octalOf (ds : List Char) : Nat × Nat × Option String :=
  let digits := (ds.take 3).takeWhile fun d => '0' ≤ d && d ≤ '7'
  let n := valueIn 8 digits
  if n < 256 then (n, digits.length, none)
  else
    let front := String.ofList (digits.take 2)
    let last := String.ofList (digits.drop 2)
    (valueIn 8 (digits.take 2), 2,
      some ("warning: the ambiguous octal escape \\" ++ front ++ last ++
        " is being\n\tinterpreted as the 2-byte sequence \\0" ++ front ++ ", " ++ last))

/-- The bytes of a word, and of each whether a backslash protects it. -/
def unquote : Nat → List Char → List (UInt8 × Bool) × List String
  | 0, _ => ([], [])
  | _ + 1, [] => ([], [])
  | _ + 1, ['\\'] =>
    ([(92, true)], ["warning: an unescaped backslash at end of string is not portable"])
  | fuel + 1, '\\' :: ch :: rest =>
    let named : Option UInt8 := match ch with
      | 'a' => some 7
      | 'b' => some 8
      | 'f' => some 12
      | 'n' => some 10
      | 'r' => some 13
      | 't' => some 9
      | 'v' => some 11
      | _ => none
    if '0' ≤ ch && ch ≤ '7' then
      let (n, taken, doubt) := octalOf (ch :: rest)
      let (bs, doubts) := unquote fuel ((ch :: rest).drop taken)
      ((UInt8.ofNat n, true) :: bs, doubt.toList ++ doubts)
    else
      let (bs, doubts) := unquote fuel rest
      ((named.getD (UInt8.ofNat ch.toNat), true) :: bs, doubts)
  | fuel + 1, ch :: rest =>
    let (bs, doubts) := unquote fuel rest
    ((UInt8.ofNat ch.toNat, false) :: bs, doubts)

/-- A byte as it is shown in a complaint. -/
def shown (b : UInt8) : String :=
  if 32 ≤ b && b < 127 then wordOf [b]
  else
    let digit (n : Nat) : Char := Char.ofNat (48 + n % 8)
    String.ofList ['\\', digit (b.toNat / 64), digit (b.toNat / 8), digit b.toNat]

/-- What stands in front of a delimiter and a closing bracket, and what follows. -/
def upToClosing (delimiter : UInt8) (acc : List UInt8) :
    List (UInt8 × Bool) → Option (List UInt8 × List (UInt8 × Bool))
  | (b, quoted) :: rest =>
    match rest with
    | (93, closed) :: more =>
      if b == delimiter && !quoted && !closed then some (acc.reverse, more)
      else upToClosing delimiter (b :: acc) rest
    | _ => upToClosing delimiter (b :: acc) rest
  | [] => none

/-- A repetition behind its bracket; none if there is none. -/
def repetition? : List (UInt8 × Bool) →
    Option (Except String (Part × List (UInt8 × Bool)))
  | (b, _) :: (42, false) :: rest =>
    let inner := rest.takeWhile fun c => c != (93, false)
    if inner.length == rest.length then none
    else
      let digits := letters (inner.map (·.1))
      let more := rest.drop (inner.length + 1)
      let base := if digits.head? == some '0' then 8 else 10
      let isDigit (d : Char) : Bool := '0' ≤ d && d.toNat < 48 + base
      if digits.isEmpty then some (.ok (.repeated b none, more))
      else if !digits.all isDigit || Nat.pow 2 64 ≤ valueIn base digits then
        some (.error ("invalid repeat count '" ++ String.ofList digits ++ "' in [c*n] construct"))
      else
        let n := valueIn base digits
        some (.ok (.repeated b (if n == 0 then none else some n), more))
  | _ => none

/-- Whether only digits stand between a star and a closing bracket. -/
def isStarred : List (UInt8 × Bool) → Bool
  | (42, false) :: rest =>
    let digits := rest.takeWhile fun c => 48 ≤ c.1 && c.1 ≤ 57 && !c.2
    (rest.drop digits.length).head? == some (93, false)
  | _ => false

/-- A class or the bytes that count as the same, behind its bracket; none if there is none. -/
def construct? (delimiter : UInt8) (rest : List (UInt8 × Bool)) :
    Option (Except String (Part × List (UInt8 × Bool))) :=
  match upToClosing delimiter [] rest with
  | none => none
  | some ([], _) =>
    some (.error (if delimiter == 58 then "missing character class name '[::]'"
      else "missing equivalence class character '[==]'"))
  | some (name, more) =>
    if delimiter == 58 then
      if (Shell.Glob.classRanges (wordOf name)).isSome then
        some (.ok (.members (wordOf name), more))
      else if isStarred rest then none
      else some (.error ("invalid character class " ++ cited name))
    else
      match name with
      | [b] => some (.ok (.same b, more))
      | _ =>
        if isStarred rest then none
        else
          some (.error (wordOf name ++ ": equivalence class operand must be a single character"))

/-- The construct that a bracket begins, if there is one. -/
def bracket? : List (UInt8 × Bool) → Option (Except String (Part × List (UInt8 × Bool)))
  | (d, false) :: rest =>
    if d == 58 || d == 61 then
      match construct? d rest with
      | some r => some r
      | none => repetition? ((d, false) :: rest)
    else repetition? ((d, false) :: rest)
  | cs => repetition? cs

/-- The parts of a set. -/
def partsFrom : Nat → List (UInt8 × Bool) → Except String (List Part)
  | 0, _ => .ok []
  | _ + 1, [] => .ok []
  | fuel + 1, (b, quoted) :: rest => do
    let plain : Except String (List Part) :=
      match rest with
      | (45, false) :: (high, _) :: more => do
        if high < b then
          .error ("range-endpoints of '" ++ shown b ++ "-" ++ shown high ++
            "' are in reverse collating sequence order")
        else .ok (.range b high :: (← partsFrom fuel more))
      | _ => do .ok (.byte b :: (← partsFrom fuel rest))
    if b == 91 && !quoted && 2 ≤ rest.length then
      match bracket? rest with
      | some (.ok (part, more)) => .ok (part :: (← partsFrom fuel more))
      | some (.error text) => .error text
      | none => plain
    else plain

def specOf (w : Bytes) : List String × Except String (List Part) :=
  let (bs, doubts) := unquote (w.length + 1) (letters w)
  (doubts, partsFrom (bs.length + 1) bs)

def allBytes : List UInt8 := (List.range 256).map UInt8.ofNat

def classBytes (name : String) : List UInt8 :=
  let ranges := (Shell.Glob.classRanges name).getD []
  allBytes.filter fun b => ranges.any fun r => r.1 ≤ b && b ≤ r.2

/-- The bytes of a part; one without a count has `room`. -/
def Part.bytes (room : Nat) : Part → List UInt8
  | byte b => [b]
  | range low high => allBytes.filter fun b => low ≤ b && b ≤ high
  | members name => classBytes name
  | same b => [b]
  | repeated b count => List.replicate (count.getD room) b

/-- How many bytes a part stands for. -/
def Part.size : Part → Nat
  | byte _ => 1
  | range low high => high.toNat - low.toNat + 1
  | members name => (classBytes name).length
  | same _ => 1
  | repeated _ count => count.getD 0

def sizeOf (parts : List Part) : Nat := (parts.map Part.size).foldl (· + ·) 0

/-- Whether a part has no count of its own. -/
def Part.isOpen : Part → Bool
  | repeated _ none => true
  | _ => false

def Part.isSame : Part → Bool
  | same _ => true
  | _ => false

/-- The name of a class, if a part is one. -/
def Part.className? : Part → Option String
  | members name => some name
  | _ => none

/-- Whether a part is one of the classes whose letters have another case. -/
def Part.isCase (p : Part) : Bool :=
  match p.className? with
  | some name => name == "upper" || name == "lower"
  | none => false

/-! ## Translation -/

/-- A set as its bytes in turn, where classes whose letters have another case stand as one. -/
inductive Element
  | byte (b : UInt8)
  | letters (upper : Bool)
deriving DecidableEq, Repr

/-- The elements of a set. A class of letters is one element only where `whole` says so. -/
def elementsOf (whole : Bool) (room : Nat) (parts : List Part) : List Element :=
  parts.flatMap fun p =>
    match p.className? with
    | some name =>
      if whole && p.isCase then [.letters (name == "upper")]
      else (p.bytes room).map .byte
    | none => (p.bytes room).map .byte

/-- Whether classes of letters in the second set stand where there are such classes in the first:
`i` counts the bytes of each up to there. -/
def isAligned : Nat → List Part → Nat → List Part → Bool
  | 0, _, _, _ => true
  | _ + 1, _, _, [] => true
  | fuel + 1, left, skip, q :: qs =>
    let count := q.size
    if q.isCase then
      match left with
      | p :: ps => p.isCase && skip == 0 && isAligned fuel ps 0 qs
      | [] => true
    else
      let (left, skip) := passOver (left.length + 1) left (skip + count)
      isAligned fuel left skip qs
where
  /-- Passes over so many bytes of a set. -/
  passOver : Nat → List Part → Nat → List Part × Nat
    | 0, ps, n => (ps, n)
    | _ + 1, [], _ => ([], 0)
    | fuel + 1, p :: ps, n => if p.size ≤ n then passOver fuel ps (n - p.size) else (p :: ps, n)

/-- The second set with as many bytes as the first; its last byte is repeated. -/
def extended (size : Nat) (parts : List Part) : Except String (List Part) :=
  let missing := size - sizeOf parts
  if missing == 0 then .ok parts
  else
    match parts.getLast? with
    | some (.byte b) => .ok (parts ++ [.repeated b (some missing)])
    | some (.range _ high) => .ok (parts ++ [.repeated high (some missing)])
    | some (.same b) => .ok (parts ++ [.repeated b (some missing)])
    | some (.repeated b _) => .ok (parts ++ [.repeated b (some missing)])
    | some (.members _) =>
      .error ("when translating with string1 longer than string2,\n" ++
        "the latter string must not end with a character class")
    | none => .error "when not truncating set1, string2 must be non-empty"

/-- How a tool changes and leaves out bytes. -/
structure Manner where
  opposite : Bool := false
  deletes : Bool := false
  squeezes : Bool := false
  truncates : Bool := false

/-- The sizes of two sets, where classes of letters count as one byte if they meet. -/
def adjusted (opposite : Bool) (first second : List Part) : Nat × Nat :=
  let whole (parts : List Part) : Nat := sizeOf parts
  if opposite then (256 - (first.flatMap (Part.bytes 0)).eraseDups.length, whole second)
  else
    let cases := (second.filter Part.isCase).length
    (whole first - 25 * cases, whole second - 25 * cases)

/-- What each byte becomes. -/
def tableOf (m : Manner) (first second : List Part) : Except String (List (UInt8 × UInt8)) := do
  if second.any Part.isSame then
    throw "[=c=] expressions may not appear in string2 when translating"
  if second.any fun p => p.className?.isSome && !p.isCase then
    throw ("when translating, the only character classes that may appear in\n" ++
      "string2 are 'upper' and 'lower'")
  let room := sizeRoom
  let filled := second.map fun p =>
    match p with
    | .repeated b none => .repeated b (some room)
    | p => p
  let hasCases := !m.opposite && second.any Part.isCase
  if hasCases && !isAligned (second.length + 1) first 0 filled then
    throw "misaligned [:upper:] and/or [:lower:] construct"
  let (size, held) := adjusted m.opposite first filled
  let final ← if held < size && !m.truncates then extended (size - held + sizeOf filled) filled
    else pure filled
  if m.opposite && first.any (·.className?.isSome) &&
      !(sizeOf final == size && (final.flatMap (Part.bytes 0)).eraseDups.length ≤ 1) then
    throw ("when translating with complemented character classes,\n" ++
      "string2 must map all characters in the domain to one")
  if m.opposite then
    let excluded := first.flatMap (Part.bytes 0)
    return ((allBytes.filter fun b => !excluded.contains b).zip (final.flatMap (Part.bytes 0)))
  let pairs := (elementsOf hasCases 0 first).zip (elementsOf hasCases 0 final)
  return pairs.flatMap fun
    | (.byte a, .byte b) => [(a, b)]
    | (.letters false, .letters true) =>
      (classBytes "lower").map fun b => (b, b - 32)
    | (.letters true, .letters false) =>
      (classBytes "upper").map fun b => (b, b + 32)
    | _ => []
where
  /-- The room for a part without a count. -/
  sizeRoom : Nat :=
    let whole := if m.opposite then 256 - (first.flatMap (Part.bytes 0)).eraseDups.length
      else sizeOf first
    whole - sizeOf second

/-- Each byte by a table; of two entries for one byte the later counts. -/
def translate (table : List (UInt8 × UInt8)) (bs : Bytes) : Bytes :=
  let changes := allBytes.map fun b =>
    (((table.filter fun p => p.1 == b).getLast?).map (·.2)).getD b
  let changes := changes.toArray
  bs.map fun b => (changes[b.toNat]?).getD b

/-- Of equal neighbours that belong to a set only the first. -/
def squeeze (belongs : UInt8 → Bool) (last : Option UInt8) : Bytes → Bytes
  | [] => []
  | b :: bs =>
    if last == some b && belongs b then squeeze belongs last bs
    else b :: squeeze belongs (some b) bs

/-- Whether a byte belongs to a set. -/
def member (opposite : Bool) (parts : List Part) : UInt8 → Bool :=
  let bs := parts.flatMap (Part.bytes 0)
  let table := (allBytes.map fun b => bs.contains b != opposite).toArray
  fun b => (table[b.toNat]?).getD false

/-- What a tool does to a text. -/
def changeOf (m : Manner) (first : List Part) (second : Option (List Part)) :
    Except String (Bytes → Bytes) := do
  if first.any Part.isOpen then
    throw "the [c*] repeat construct may not appear in string1"
  match second with
  | none =>
    let belongs := member m.opposite first
    return if m.deletes then List.filter fun b => !belongs b else squeeze belongs none
  | some second =>
    if 1 < (second.filter Part.isOpen).length then
      throw "only one [c*] repeat construct may appear in string2"
    if m.deletes then
      if second.any Part.isOpen then
        throw "the [c*] construct may appear in string2 only when translating"
      let out := member m.opposite first
      return fun bs => squeeze (member false second) none (bs.filter fun b => !out b)
    else
      let table ← tableOf m first second
      if m.squeezes then
        let made := (table.map (·.2)).eraseDups
        let filled := second.flatMap (Part.bytes 0) ++ made
        return fun bs => squeeze filled.contains none (translate table bs)
      else return translate table

/-! ## The tool -/

def tr (c : Call) : Launch :=
  let k : Known := { known "cCdst" [("complement", .bare, "c"), ("delete", .bare, "d"),
    ("squeeze-repeats", .bare, "s"), ("truncate-set1", .bare, "t")] with mixed := false }
  c.options k 1 fun p =>
    let m : Manner :=
      { opposite := p.has "c" || p.has "C", deletes := p.has "d", squeezes := p.has "s"
        truncates := p.has "t" }
    let least := if m.deletes == m.squeezes then 2 else 1
    let most := if m.deletes && !m.squeezes then 1 else 2
    let words := p.operands
    let wrong (text more : String) : Launch :=
      .failure (c.complaint text ++ more ++ c.hint) 1
    if words.length < least then
      match words.getLast? with
      | none => wrong "missing operand" ""
      | some w =>
        wrong ("missing operand after " ++ cited w)
          (if m.squeezes then
            "Two strings must be given when both deleting and squeezing repeats.\n"
          else "Two strings must be given when translating.\n")
    else if most < words.length then
      wrong ("extra operand " ++ cited (words.getD most []))
        (if words.length == 2 then
          "Only one string may be given when deleting without squeezing repeats.\n"
        else "")
    else
      let (doubts, first) := specOf (words.headD [])
      let (more, second) := match words[1]? with
        | some w => ((specOf w).1, ((specOf w).2).map some)
        | none => ([], .ok none)
      let said (texts : List String) : Bytes := bytesOf (String.join (texts.map c.complaint))
      match first, second with
      | .error text, _ => .tool (.print [] (said (doubts ++ [text])) 1) []
      | _, .error text => .tool (.print [] (said (doubts ++ more ++ [text])) 1) []
      | .ok first, .ok second =>
        match changeOf m first second with
        | .error text => .tool (.print [] (said (doubts ++ more ++ [text])) 1) []
        | .ok change =>
          .filter fun bs ended =>
            { output := change bs, errors := said (doubts ++ more)
              code := if ended then some 0 else none }

end Translate
end Rehearsal
end Parley
