import Parley.Rehearsal.Disk

/-!
# Parley.Rehearsal.Shell.Glob

Patterns for whole texts: `*` stands for any bytes, `?` for one byte, and brackets for one of some.
A backslash protects what follows it, as quotes do.

* `Glob.ofMarked`: the pattern of a text of which some bytes are protected.
* `Glob.fits`: whether a pattern stands for a text.
* `Glob.paths`: the paths on a disk that a pattern stands for.
-/

namespace Parley
namespace Rehearsal
namespace Shell

/-- A byte, and whether it is protected. -/
abbrev Marked := UInt8 × Bool

inductive Glob
  | byte (b : UInt8)
  | one
  | many
  /-- One byte that passes a test. -/
  | among (excluded : Bool) (members : List (UInt8 × UInt8))
deriving DecidableEq, Repr

namespace Glob

/-- The bytes of a class between brackets and colons. -/
def classRanges (name : String) : Option (List (UInt8 × UInt8)) :=
  match name with
  | "alnum" => some [(48, 57), (65, 90), (97, 122)]
  | "alpha" => some [(65, 90), (97, 122)]
  | "blank" => some [(9, 9), (32, 32)]
  | "cntrl" => some [(0, 31), (127, 127)]
  | "digit" => some [(48, 57)]
  | "graph" => some [(33, 126)]
  | "lower" => some [(97, 122)]
  | "print" => some [(32, 126)]
  | "punct" => some [(33, 47), (58, 64), (91, 96), (123, 126)]
  | "space" => some [(9, 13), (32, 32)]
  | "upper" => some [(65, 90)]
  | "xdigit" => some [(48, 57), (65, 70), (97, 102)]
  | _ => none

/-- A byte, with a backslash in front of it taken away. -/
def nextByte (cs : List Marked) : Option (UInt8 × List Marked) :=
  match cs with
  | (92, false) :: (b, _) :: rest => some (b, rest)
  | (b, _) :: rest => some (b, rest)
  | [] => none

/-- The rest of a set between brackets; none if it does not end. -/
def membersFrom (first : Bool) (acc : List (UInt8 × UInt8)) :
    Nat → List Marked → Option (List (UInt8 × UInt8) × List Marked)
  | 0, _ => none
  | _ + 1, [] => none
  | fuel + 1, cs =>
    match cs with
    | (93, false) :: rest =>
      if first then rangeFrom acc fuel cs else some (acc, rest)
    | (91, false) :: (58, false) :: rest =>
      let name := rest.takeWhile fun c => c.1 != 58
      match classRanges (wordOf (name.map (·.1))), rest.drop name.length with
      | some ranges, (58, _) :: (93, _) :: rest => membersFrom false (ranges ++ acc) fuel rest
      | _, _ => rangeFrom acc fuel cs
    | cs => rangeFrom acc fuel cs
where
  /-- A byte or a range of bytes. -/
  rangeFrom (acc : List (UInt8 × UInt8)) (fuel : Nat) (cs : List Marked) :
      Option (List (UInt8 × UInt8) × List Marked) :=
    match fuel, nextByte cs with
    | 0, _ => none
    | _, none => none
    | fuel + 1, some (a, rest) =>
      match rest with
      | (45, false) :: c :: more =>
        if c == (93, false) then membersFrom false ((a, a) :: acc) fuel rest
        else
          match nextByte (c :: more) with
          | some (b, rest) => membersFrom false ((a, b) :: acc) fuel rest
          | none => none
      | rest => membersFrom false ((a, a) :: acc) fuel rest

def ofMarkedFrom : Nat → List Marked → List Glob
  | 0, _ => []
  | _ + 1, [] => []
  | fuel + 1, (b, true) :: rest => byte b :: ofMarkedFrom fuel rest
  | fuel + 1, (b, false) :: rest =>
    if b == 42 then many :: ofMarkedFrom fuel rest
    else if b == 63 then one :: ofMarkedFrom fuel rest
    else if b == 92 then
      match rest with
      | (c, _) :: rest => byte c :: ofMarkedFrom fuel rest
      | [] => [byte b]
    else if b == 91 then
      let (excluded, inner) := match rest with
        | (33, false) :: inner => (true, inner)
        | (94, false) :: inner => (true, inner)
        | inner => (false, inner)
      match membersFrom true [] (2 * inner.length + 2) inner with
      | some (members, rest) => among excluded members :: ofMarkedFrom fuel rest
      | none => byte b :: ofMarkedFrom fuel rest
    else byte b :: ofMarkedFrom fuel rest

def ofMarked (cs : List Marked) : List Glob := ofMarkedFrom (cs.length + 1) cs

def takes : Glob → UInt8 → Bool
  | byte b, c => b == c
  | one, _ => true
  | many, _ => true
  | among excluded members, c => members.any (fun r => r.1 ≤ c && c ≤ r.2) != excluded

/-- Adds the rests of a pattern that are open once the parts at its front that may stand for nothing
are passed over. -/
def opened : List Glob → List (List Glob)
  | many :: rest => (many :: rest) :: opened rest
  | gs => [gs]

/-- The rests of a pattern that are open behind one more byte. -/
def advance (states : List (List Glob)) (b : UInt8) : List (List Glob) :=
  (states.flatMap fun
    | many :: rest => opened (many :: rest)
    | g :: rest => if g.takes b then opened rest else []
    | [] => []).eraseDups

/-- Whether a pattern stands for a text. -/
def fits (gs : List Glob) (bs : Bytes) : Bool := (bs.foldl advance (opened gs)).contains []

/-- Whether a text could stand for more than itself. -/
def isPattern (cs : List Marked) : Bool :=
  cs.any fun c => !c.2 && (c.1 == 42 || c.1 == 63 || c.1 == 91)

/-! ## Paths -/

/-- The names between slashes. -/
def pieces (cs : List Marked) : List (List Marked) :=
  (cs.foldr (fun c (acc : List (List Marked)) =>
    if c.1 == 47 then [] :: acc
    else
      match acc with
      | p :: rest => (c :: p) :: rest
      | [] => [[c]]) [[]])

/-- The names in a directory that a piece of a pattern stands for; names that begin with a dot stand
apart. -/
def namesFor (d : Disk) (directory : Path) (piece : List Marked) : List String :=
  let gs := ofMarked piece
  let hidden := (nextByte piece).any fun c => c.1 == 46
  (d.names directory).filter fun n =>
    (hidden || n.toList.head? != some '.') && fits gs (bytesOf n)

/-- The bytes of a text without the backslashes that protect something. -/
def plain : List Marked → Bytes
  | (92, false) :: (b, _) :: rest => b :: plain rest
  | (b, _) :: rest => b :: plain rest
  | [] => []

/-- The paths that some pieces stand for behind a beginning. -/
def pathsFrom (d : Disk) (directory : Path) (front : String) : List (List Marked) → List String
  | [] => [front]
  | piece :: rest =>
    let place := if front == "" then "." else front
    let go (name : String) : List String :=
      pathsFrom d directory (front ++ name ++ if rest.isEmpty then "" else "/") rest
    if isPattern piece then
      match d.find directory place with
      | .ok ⟨path, some .directory⟩ => (namesFor d path piece).flatMap go
      | _ => []
    else go (wordOf (plain piece))

/-- The paths on a disk that a pattern stands for, in their order. -/
def paths (d : Disk) (directory : Path) (cs : List Marked) : List String :=
  (pathsFrom d directory "" (pieces cs)).filter fun path =>
    match d.find directory path with
    | .ok spot => spot.entry.isSome
    | .error _ => false

end Glob
end Shell
end Rehearsal
end Parley
