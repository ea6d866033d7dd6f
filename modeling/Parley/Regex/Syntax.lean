import Parley.Unicode.Property
import Parley.Unicode.Casing

/-!
# Parley.Regex.Syntax

Regular expressions as trees. Flags are settled while an expression is read, so a tree holds no
flags: a literal that ignores case is the set of its cases, a line anchor says which lines it means,
and a repetition says whether it is greedy.

* `Node`: the trees.
* `Look`: conditions on a position between two characters, with `Look.holds`.
* `Node.repeated`: a repetition in the simplest equal form.
-/

namespace Parley
namespace Regex

/-- A condition on the position between two characters. -/
inductive Look
  | textStart
  | textEnd
  /-- After a line feed or at the start. -/
  | lineStart
  | lineEnd
  /-- Like `lineStart`, but a carriage return ends a line too, and the two together end one. -/
  | lineStartCrlf
  | lineEndCrlf
  | wordBoundary (unicode : Bool)
  | notWordBoundary (unicode : Bool)
  | wordStart (unicode : Bool)
  | wordEnd (unicode : Bool)
  | wordStartHalf (unicode : Bool)
  | wordEndHalf (unicode : Bool)
deriving DecidableEq, Repr

/-- ASCII letters, digits and the underscore. -/
def asciiWordy : Unicode.CodeSet := Unicode.CodeSet.ofText "30-39 41-5A 5F 61-7A"

/-- Whether a character may stand in a word. -/
def isWordChar (unicode : Bool) (c : Char) : Bool :=
  if c.toNat < 128 || !unicode then asciiWordy.contains c.toNat else Unicode.wordy.contains c.toNat

namespace Look

/-- Whether a condition holds between two characters; there is none before the start and after the
end. -/
def holds (look : Look) (before after : Option Char) : Bool :=
  let word (unicode : Bool) (c : Option Char) : Bool := c.any (isWordChar unicode)
  match look with
  | textStart => before.isNone
  | textEnd => after.isNone
  | lineStart => before.all (· == '\n')
  | lineEnd => after.all (· == '\n')
  | lineStartCrlf => before.all fun c => c == '\n' || (c == '\r' && after != some '\n')
  | lineEndCrlf => after.all fun c => c == '\r' || (c == '\n' && before != some '\r')
  | wordBoundary u => word u before != word u after
  | notWordBoundary u => word u before == word u after
  | wordStart u => !word u before && word u after
  | wordEnd u => word u before && !word u after
  | wordStartHalf u => !word u before
  | wordEndHalf u => !word u after

end Look

/-- A regular expression. -/
inductive Node
  | empty
  /-- One character of a set. -/
  | oneOf (set : Unicode.CodeSet)
  | look (condition : Look)
  /-- A group whose text is kept under a number, from one on. -/
  | capture (index : Nat) (body : Node)
  | seq (first second : Node)
  /-- One of two; the first is preferred. -/
  | alt (first second : Node)
  /-- From `least` up to `most` times, or without limit; a greedy one prefers more. -/
  | rep (least : Nat) (most : Option Nat) (greedy : Bool) (body : Node)
deriving DecidableEq, Repr

namespace Node

/-- Whether an expression matches the empty text and no other. -/
def onlyEmpty : Node → Bool
  | empty => true
  | oneOf _ => false
  | look _ => true
  | capture _ a => a.onlyEmpty
  | seq a b => a.onlyEmpty && b.onlyEmpty
  | alt a b => a.onlyEmpty && b.onlyEmpty
  | rep _ most _ a => most == some 0 || a.onlyEmpty

/-- Whether an expression may match the empty text. -/
def mayBeEmpty : Node → Bool
  | empty => true
  | oneOf s => s.isEmpty
  | look _ => true
  | capture _ a => a.mayBeEmpty
  | seq a b => a.mayBeEmpty && b.mayBeEmpty
  | alt a b => a.mayBeEmpty || b.mayBeEmpty
  | rep least _ _ a => least == 0 || a.mayBeEmpty

/-- A repetition. What matches only the empty text is never repeated more than once. -/
def repeated (least : Nat) (most : Option Nat) (greedy : Bool) (body : Node) : Node :=
  let (least, most) := if body.onlyEmpty then (min least 1, some (min (most.getD 1) 1))
    else (least, most)
  if least == 0 && most == some 0 then empty
  else if least == 1 && most == some 1 then body
  else rep least most greedy body

/-- Expressions one after the other; those that are empty are left out. -/
def concat (as : List Node) : Node :=
  join (as.filter (· != empty))
where
  join : List Node → Node
    | [] => empty
    | [a] => a
    | a :: rest => seq a (join rest)

/-- The parts of an expression that stand one after the other, those that match only the empty text
without a condition left out. -/
def factors : Node → List Node
  | seq a b => a.factors ++ b.factors
  | empty => []
  | a => [a]

/-- The alternatives of an expression, in order. -/
def branches : Node → List Node
  | alt a b => a.branches ++ b.branches
  | a => [a]

/-- The only character that an expression takes. -/
def letter? : Node → Option Nat
  | oneOf s =>
    match s.ranges.toList with
    | [(lo, hi)] => if lo == hi then some lo else none
    | _ => none
  | _ => none

/-- The characters that an expression takes, each a literal. -/
def letters? (a : Node) : Option (List Nat) :=
  match a.factors with
  | [] => none
  | fs => fs.mapM letter?

/-- The set of which an expression takes one character, if it is no literal. -/
def class? : Node → Option Unicode.CodeSet
  | oneOf s => if (letter? (oneOf s)).isSome then none else some s
  | _ => none

/-- Parts one after the other, with literals that are neighbours joined to one. -/
def joinLetters : List Node → List (List Node)
  | [] => []
  | a :: rest =>
    match joinLetters rest with
    | (b :: bs) :: joined =>
      if a.letter?.isSome && b.letter?.isSome then (a :: b :: bs) :: joined
      else [a] :: (b :: bs) :: joined
    | joined => [a] :: joined

/-- What two lists begin with. -/
def commonStart : List (List Node) → List (List Node) → List (List Node)
  | a :: as, b :: bs => if a == b then a :: commonStart as bs else []
  | _, _ => []

def binaryChoice : List Node → Node
  | [] => oneOf .empty
  | [a] => a
  | a :: rest => alt a (binaryChoice rest)

/-- One of several expressions, in the simplest equal form: characters and sets of characters come
together in one set, and what all begin with comes before the choice. `steps` bounds how often that
is done. -/
def choiceWithin : Nat → List Node → Node
  | 0, as => binaryChoice as
  | steps + 1, as =>
    let as := as.flatMap branches
    match as.mapM letter?, as.mapM class? with
    | some cs, _ => oneOf (.ofRanges (cs.map fun c => (c, c)))
    | _, some sets => oneOf (.unions sets)
    | _, _ =>
      match as.map fun a => joinLetters a.factors with
      | [] => binaryChoice as
      | [_] => binaryChoice as
      | first :: others =>
        let shared := others.foldl commonStart first
        if shared.isEmpty || (first :: others).any (·.length < 2) then binaryChoice as
        else
          let rests := (first :: others).map fun fs => concat (fs.drop shared.length).flatten
          concat (shared.flatten ++ [choiceWithin steps rests])

/-- One of several expressions. Each round of simplification takes a part away from all of them. -/
def choice (as : List Node) : Node :=
  choiceWithin (as.foldl (fun n a => n + a.factors.length) 1) as

/-- The least number of bytes that an expression takes; none if it matches nothing at all. -/
def leastLength? : Node → Option Nat
  | empty => some 0
  | oneOf s => (s.ranges[0]?).map fun r => Char.utf8Size (Char.ofNat r.1)
  | look _ => some 0
  | capture _ a => a.leastLength?
  | seq a b => do return (← a.leastLength?) + (← b.leastLength?)
  | alt a b => do return min (← a.leastLength?) (← b.leastLength?)
  | rep least _ _ a => a.leastLength?.map (least * ·)

/-- Whether a condition holds at the start of all that an expression matches. -/
def startsAt (l : Look) : Node → Bool
  | look m => l == m
  | capture _ a => a.startsAt l
  | seq a b => a.startsAt l || (a.onlyEmpty && b.startsAt l)
  | alt a b => a.startsAt l && b.startsAt l
  | rep least _ _ a => 0 < least && a.startsAt l
  | _ => false

/-- Whether a condition holds at the end of all that an expression matches. -/
def endsAt (l : Look) : Node → Bool
  | look m => l == m
  | capture _ a => a.endsAt l
  | seq a b => b.endsAt l || (b.onlyEmpty && a.endsAt l)
  | alt a b => a.endsAt l && b.endsAt l
  | rep least _ _ a => 0 < least && a.endsAt l
  | _ => false

end Node

end Regex
end Parley
