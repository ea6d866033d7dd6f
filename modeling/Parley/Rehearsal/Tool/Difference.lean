import Parley.Rehearsal.Tool.Amount
import Parley.Rehearsal.Tool.Copying

/-!
# Parley.Rehearsal.Tool.Difference

Where two texts differ.

* `Difference.places`: all such places.
* `Difference.cmp`: the tool that tells of the first one, or of all.
-/

namespace Parley
namespace Rehearsal
namespace Difference

open Call

/-- A place where two texts differ: its number, the number of its line, and the two bytes. -/
structure Place where
  number : Nat
  line : Nat
  left : UInt8
  right : UInt8

/-- The places where two texts differ, up to the end of the shorter one. -/
def places (number line : Nat) : Bytes → Bytes → List Place
  | a :: as, b :: bs =>
    let rest := places (number + 1) (if a == 10 then line + 1 else line) as bs
    if a == b then rest else ⟨number, line, a, b⟩ :: rest
  | _, _ => []

/-- What is said of two texts that differ. -/
inductive Telling
  | first
  | all
  | nothing
deriving DecidableEq

/-- What is compared, and what is said of it. -/
structure Plan where
  names : Bytes × Bytes
  telling : Telling := .first
  showsBytes : Bool := false
  /-- How many bytes in front of each text do not count. -/
  skips : Nat × Nat := (0, 0)
  limit : Option Nat := none
  /-- How wide the number of a place is. -/
  width : Nat := 19

def cmpKnown : Known :=
  { known "bci:ln:sv" [("print-bytes", .bare, "b"), ("print-chars", .bare, "c"),
      ("ignore-initial", .valued, "i"), ("verbose", .bare, "l"), ("bytes", .valued, "n"),
      ("quiet", .bare, "s"), ("silent", .bare, "s")] with hint := calledHint }

/-- How many bytes do not count, for one text or for each. -/
def skips? (w : Bytes) : Option (Nat × Nat) :=
  let low := w.takeWhile (· != 58)
  match Amount.read? low, w.drop low.length with
  | some n, [] => some (n, n)
  | some n, _ :: high => (Amount.read? high).map fun k => (n, k)
  | none, _ => none

def wrongSkip (w : Bytes) : String := "invalid --ignore-initial value '" ++ wordOf w ++ "'"

/-- Takes account of one option. -/
def Plan.given (q : Plan) (g : Given) : Except String Plan :=
  let tell (t : Telling) : Except String Plan :=
    if q.telling != .first && q.telling != t then .error "options -l and -s are incompatible"
    else .ok { q with telling := t }
  match g.1 with
  | "b" => .ok { q with showsBytes := true }
  | "c" => .ok { q with showsBytes := true }
  | "l" => tell .all
  | "s" => tell .nothing
  | "n" =>
    match Amount.read? g.2 with
    | some n => .ok { q with limit := some (q.limit.elim n (min n)) }
    | none => .error ("invalid --bytes value '" ++ wordOf g.2 ++ "'")
  | "i" =>
    match skips? g.2 with
    | some (n, k) => .ok { q with skips := (max n q.skips.1, max k q.skips.2) }
    | none => .error (wrongSkip g.2)
  | _ => .ok q

/-- Takes account of the words that are no options. -/
def Plan.words (q : Plan) (last : Bytes) : List Bytes → Except String Plan
  | [] => .error ("missing operand after '" ++ wordOf last ++ "'")
  | [a] => .ok { q with names := (a, [45]) }
  | a :: b :: rest => do
    let amount (w : Bytes) : Except String Nat :=
      match Amount.read? w with
      | some n => .ok n
      | none => .error (wrongSkip w)
    let left ← ((rest[0]?).map amount).getD (.ok 0)
    let right ← ((rest[1]?).map amount).getD (.ok 0)
    match rest.drop 2 with
    | w :: _ => .error ("extra operand '" ++ wordOf w ++ "'")
    | [] => .ok { q with names := (a, b), skips := (max left q.skips.1, max right q.skips.2) }

/-- A byte by its number in base eight. -/
def octal (b : UInt8) : Bytes := Copying.padLeft 3 (ofLetters (Nat.toDigits 8 b.toNat))

/-- A byte as it is shown. -/
def visible (b : UInt8) : Bytes :=
  if b == 10 then [94, 74] else Copying.shown { visible := true, marksTabs := true } b

/-- What is written of places where two texts differ. -/
def Plan.rows (q : Plan) (ps : List Place) : Bytes :=
  match q.telling, ps with
  | .first, p :: _ =>
    let unit := if q.showsBytes then "byte " else "char "
    q.names.1 ++ [32] ++ q.names.2 ++ bytesOf (" differ: " ++ unit) ++ digitsOf p.number ++
      bytesOf ", line " ++ digitsOf p.line ++
      (if q.showsBytes then
        bytesOf " is " ++ joinWith [32] [octal p.left, visible p.left, octal p.right,
          visible p.right]
      else []) ++ [10]
  | .all, ps =>
    ps.flatMap fun p =>
      let shown := visible p.left
      let fields := if q.showsBytes then
          [octal p.left, shown ++ List.replicate (4 - shown.length) 32, octal p.right,
            visible p.right]
        else [octal p.left, octal p.right]
      joinWith [32] (Copying.padLeft q.width (digitsOf p.number) :: fields) ++ [10]
  | _, _ => []

/-- What is said of a text that ends before the other one. -/
def Plan.ending (q : Plan) (name content : Bytes) : String :=
  let lines := content.count 10
  let place :=
    if content.isEmpty then " which is empty"
    else
      " after byte " ++ toString content.length ++
        (if q.telling == .all then ""
        else if content.getLast? == some 10 then ", line " ++ toString lines
        else ", in line " ++ toString (lines + 1))
  "EOF on " ++ wordOf name ++ place

/-- Compares two texts. -/
def Plan.compare (q : Plan) (c : Call) (as bs : Bytes) : Outcome :=
  let part (skip : Nat) (bs : Bytes) : Bytes :=
    let bs := bs.drop skip
    q.limit.elim bs bs.take
  let (as, bs) := (part q.skips.1 as, part q.skips.2 bs)
  let ps := places 1 1 as bs
  let isOver := as.length == bs.length
  let (name, content) := if as.length < bs.length then (q.names.1, as) else (q.names.2, bs)
  let tells := !isOver && (q.telling == .all || (q.telling == .first && ps.isEmpty))
  { output := q.rows ps, code := some (if ps.isEmpty && isOver then 0 else 1)
    errors := if tells then bytesOf (c.complaint (q.ending name content)) else [] }

/-- How many bytes there are to compare at most, if that is known at the start. -/
def Plan.known? (q : Plan) (c : Call) : Option Nat :=
  let size (name : Bytes) (skip : Nat) : Option Nat :=
    match c.sourceOf name with
    | .bytes bs => some (bs.length - skip)
    | _ => none
  [q.limit, size q.names.1 q.skips.1, size q.names.2 q.skips.2].foldl (fun least n =>
    match least, n with
    | some k, some n => some (min k n)
    | none, n => n
    | least, none => least) none

def cmp (c : Call) : Launch :=
  c.options cmpKnown 2 fun p =>
    let last := (c.arguments.getLast?).getD (bytesOf c.called)
    let plan := do (← p.given.foldlM Plan.given { names := ([], []) }).words last p.operands
    match plan with
    | .error text => .failure (c.complaint text ++ c.calledHint) 2
    | .ok q =>
      let q := { q with width := ((q.known? c).map fun n => (toString n).length).getD 19 }
      if q.names.1 == q.names.2 then .print []
      else
        c.overWhole [q.names.1, q.names.2] fun texts =>
          let fault := texts.findSome? fun t =>
            match t.content with
            | .ok _ => none
            | .error e => some (wordOf t.name ++ ": " ++ e.reason)
          match fault, texts.map fun t => t.content.toOption.getD [] with
          | none, [as, bs] => q.compare c as bs
          | some text, _ =>
            if q.telling == .nothing then { code := some 2 } else .failure (c.complaint text) 2
          | none, _ => { code := some 2 }

end Difference
end Rehearsal
end Parley
