import Parley.Regex.Syntax
import Std.Data.HashMap

/-!
# Parley.Regex.Size

How much room an expression takes as an automaton on the bytes of a text, one that reads forwards
and one that reads backwards. Room is counted in states, and in the targets and ranges that some
states hold. A set of characters becomes sequences of byte ranges. Forwards they share their ends,
backwards their starts, as far as a small table remembers them.

* `sequences`: the byte ranges of a range of characters.
* `Tally.node`: the states of an expression.
* `isTooLarge`: whether there is room for the automata of an expression.
-/

namespace Parley
namespace Regex

/-- A range of bytes. -/
abbrev ByteRange := UInt8 × UInt8

/-! ## Characters as bytes -/

/-- The bytes of a code point in UTF-8. -/
def bytesOfCode (c : Nat) : List UInt8 :=
  let tail (unit : Nat) : UInt8 := UInt8.ofNat (0x80 + c / unit % 64)
  if c < 0x80 then [UInt8.ofNat c]
  else if c < 0x800 then [UInt8.ofNat (0xC0 + c / 64), tail 1]
  else if c < 0x10000 then [UInt8.ofNat (0xE0 + c / 4096), tail 64, tail 1]
  else [UInt8.ofNat (0xF0 + c / 262144), tail 4096, tail 64, tail 1]

/-- Two parts of a range of code points that is no single sequence of byte ranges: surrogates are
left out, all members of a part have the same number of bytes, and where a byte takes several values
the bytes behind it take all of theirs. -/
def halves? (lo hi : Nat) : Option ((Nat × Nat) × (Nat × Nat)) :=
  let after (m : Nat) := ((lo, m), (m + 1, hi))
  if lo < 0xE000 && 0xD7FF < hi then some ((lo, 0xD7FF), (0xE000, hi))
  else
    match [0x7F, 0x7FF, 0xFFFF].find? fun m => lo ≤ m && m < hi with
    | some m => some (after m)
    | none =>
      if hi < 0x80 then none
      else
        [64, 4096, 262144].findSome? fun block =>
          if lo / block == hi / block then none
          else if lo % block != 0 then some (after (lo / block * block + block - 1))
          else if hi % block != block - 1 then some (after (hi / block * block - 1))
          else none

/-- The sequences of byte ranges that make up ranges of code points, in order; `steps` bounds the
cuts. -/
def sequencesWithin : Nat → List (Nat × Nat) → List (List ByteRange)
  | 0, _ => []
  | _, [] => []
  | steps + 1, (lo, hi) :: rest =>
    if hi < lo then sequencesWithin steps rest
    else
      match halves? lo hi with
      | some (first, second) => sequencesWithin steps (first :: second :: rest)
      | none => (bytesOfCode lo).zip (bytesOfCode hi) :: sequencesWithin steps rest

/-- The sequences of byte ranges of a range of code points. A range needs no more than a few cuts
for each number of bytes. -/
def sequences (r : Nat × Nat) : List (List ByteRange) := sequencesWithin 100 [r]

/-! ## Counting -/

/-- The states of an automaton, and the room of what they hold. -/
structure Tally where
  states : Nat := 0
  held : Nat := 0
deriving DecidableEq, Repr

namespace Tally

/-- The room that may be taken. -/
def limit : Nat := 10485760

def room (t : Tally) : Nat := 32 * t.states + t.held

def isOver (t : Tally) : Bool := limit < t.room

/-- Adds states that hold so many targets and ranges together. -/
def more (t : Tally) (states targets ranges : Nat) : Tally :=
  { states := t.states + states, held := t.held + 4 * targets + 8 * ranges }

end Tally

/-- A table that finds a state again by a key. The key chooses a place, and a new key takes the
place of an old one. -/
abbrev Memory (α : Type) := Std.HashMap UInt64 (α × Nat)

/-- The place of a key that is written as numbers. -/
def placeOf (places : UInt64) (numbers : List Nat) : UInt64 :=
  numbers.foldl (fun h n => (h ^^^ UInt64.ofNat n) * 1099511628211) 14695981039346656037 % places

/-! ## Sets forwards -/

/-- A range of bytes and the state to which it leads. -/
abbrev Edge := ByteRange × Nat

/-- A state that is being written: its edges, and a last range whose target is not known yet. -/
structure Bud where
  edges : List Edge := []
  last : Option ByteRange := none

/-- The edges of a state once its last range leads somewhere. -/
def Bud.close (b : Bud) (target : Nat) : List Edge :=
  match b.last with
  | some r => b.edges ++ [(r, target)]
  | none => b.edges

/-- The states of a set while its sequences are added in order: those of the sequence before are
still open, the last of them first. -/
structure Growth where
  tally : Tally
  memory : Memory (List Edge) := {}
  buds : List Bud := [{}]

namespace Growth

/-- The state with some edges, a new one if none is remembered. -/
def state (g : Growth) (edges : List Edge) : Nat × Growth :=
  let place := placeOf 10000 (edges.flatMap fun e => [e.1.1.toNat, e.1.2.toNat, e.2])
  match (g.memory[place]?).filter fun known => known.1 == edges with
  | some (_, id) => (id, g)
  | none =>
    (g.tally.states, { g with
      tally := g.tally.more 1 0 edges.length
      memory := g.memory.insert place (edges, g.tally.states) })

/-- Closes so many states from the end; what they lead to ends at `target`. -/
def settle (target : Nat) (g : Growth) : Nat → Growth
  | 0 =>
    match g.buds with
    | b :: rest => { g with buds := { edges := b.close target } :: rest }
    | [] => g
  | n + 1 =>
    match g.buds with
    | b :: rest =>
      let (id, g) := { g with buds := rest }.state (b.close target)
      settle id g n
    | [] => g

/-- How many byte ranges a sequence shares with the one before. -/
def shared (ranges : List ByteRange) (buds : List Bud) : Nat :=
  ((ranges.zip buds.reverse).takeWhile fun p => p.2.last == some p.1).length

/-- Adds a sequence. -/
def add (target : Nat) (g : Growth) (ranges : List ByteRange) : Growth :=
  let n := shared ranges g.buds
  let g := g.settle target (g.buds.length - (n + 1))
  match ranges.drop n, g.buds with
  | r :: others, b :: rest =>
    let more := others.reverse.map fun r => { last := some r }
    { g with buds := more ++ { b with last := some r } :: rest }
  | _, _ => g

end Growth

/-! ## Sets backwards -/

/-- The states of a set while its sequences are added, each from the end of the text. -/
structure Decay where
  tally : Tally
  memory : Memory (Nat × ByteRange) := {}

namespace Decay

/-- The state that takes a byte of a range and goes on at `target`. -/
def state (d : Decay) (target : Nat) (r : ByteRange) : Nat × Decay :=
  let place := placeOf 1000 [target, r.1.toNat, r.2.toNat]
  match (d.memory[place]?).filter fun known => known.1 == (target, r) with
  | some (_, id) => (id, d)
  | none =>
    (d.tally.states, {
      tally := d.tally.more 1 0 0
      memory := d.memory.insert place ((target, r), d.tally.states) })

def add (target : Nat) (d : Decay) (ranges : List ByteRange) : Decay :=
  let (_, d) := ranges.foldl (fun (at?, d) r => state d at? r) (target, d)
  { d with tally := d.tally.more 0 1 0 }

end Decay

/-! ## Literals -/

/-- The states of a choice between literals, which share what they begin with. A state knows the
bytes that lead on from it; a literal that ends there closes their list, so that longer ones that
come later stay behind it. -/
structure Trie where
  /-- The lists of each state, the open one first: a byte and the state to which it leads. -/
  states : Array (List (List (UInt8 × Nat))) := #[[[]]]

namespace Trie

def listsAt (t : Trie) (state : Nat) : List (List (UInt8 × Nat)) := (t.states[state]?).getD [[]]

def setLists (t : Trie) (state : Nat) (lists : List (List (UInt8 × Nat))) : Trie :=
  { states := t.states.setIfInBounds state lists }

/-- Whether no literal goes on at a state. -/
def isLeaf (lists : List (List (UInt8 × Nat))) : Bool := lists.all List.isEmpty

/-- Adds a literal from a state on. -/
def add (t : Trie) (state : Nat) : List UInt8 → Trie
  | [] =>
    let lists := t.listsAt state
    if isLeaf lists && 1 < lists.length then t else t.setLists state ([] :: lists)
  | b :: rest =>
    match t.listsAt state with
    | current :: closed =>
      match current.lookup b with
      | some next => add t next rest
      | none =>
        let next := t.states.size
        add { (t.setLists state (((b, next) :: current) :: closed)) with
          states :=
            (t.setLists state (((b, next) :: current) :: closed)).states.push [[]] } next rest
    | [] => t

/-- The states of a choice between literals: one for each list of several bytes or one, and one for
the choice between the lists and the ends of literals. -/
def tally (t : Trie) (before : Tally) : Tally :=
  t.states.foldl (fun (n : Tally) lists =>
    if isLeaf lists then n
    else
      let used := lists.filter fun l => !l.isEmpty
      let ranges := used.foldl (fun n l => if 1 < l.length then n + l.length else n) 0
      n.more (used.length + 1) (used.length + (lists.length - 1)) ranges) (before.more 1 0 0)

end Trie

/-! ## Expressions -/

namespace Tally

/-- Adds a set of characters: a literal takes a state for each byte, and what is within ASCII one
state with all its ranges. -/
def set (t : Tally) (backwards : Bool) (s : Unicode.CodeSet) : Tally :=
  let ranges := s.ranges.toList
  match (Node.oneOf s).letter? with
  | some c => t.more (bytesOfCode c).length 0 0
  | none =>
    if ranges.all fun r => r.2 < 128 then t.more 2 0 ranges.length
    else if backwards then
      let target := t.states + 1
      (ranges.foldl (fun d r => (sequences r).foldl (Decay.add target) d)
        { tally := t.more 2 0 0 }).tally
    else
      let target := t.states
      let grown := ranges.foldl (fun g r => (sequences r).foldl (Growth.add target) g)
        { tally := t.more 1 0 0 }
      let grown := grown.settle target (grown.buds.length - 1)
      match grown.buds with
      | b :: _ => (grown.state b.edges).2.tally
      | [] => grown.tally

/-- The literals of a choice, if all alternatives are literals. -/
def literals? (backwards : Bool) (branches : List Node) : Option (List (List UInt8)) :=
  branches.mapM fun a => a.letters?.map fun cs =>
    let bytes := cs.flatMap bytesOfCode
    if backwards then bytes.reverse else bytes

/-- Does something again and again, as long as there is room. -/
def times (f : Tally → Tally) : Nat → Tally → Tally
  | 0, t => t
  | n + 1, t => if t.isOver then t else times f n (f t)

/-- Adds an expression. `inChoice` says that it stands for alternatives of a choice, each of which
is a target. Repeated parts are written out; a loop has two targets, its body and what comes after
it. -/
def node (backwards inChoice : Bool) (a : Node) (t : Tally) : Tally :=
  if t.isOver then t
  else
    match a with
    | .alt a b =>
      if inChoice then node backwards true b (node backwards true a t)
      else
        match literals? backwards (Node.alt a b).branches with
        | some ls => (ls.foldl (fun trie l => trie.add 0 l) ({} : Trie)).tally t
        | none => node backwards true b (node backwards true a (t.more 2 0 0))
    | .empty => (t.more 1 0 0).more 0 inChoice.toNat 0
    | .oneOf s => (t.set backwards s).more 0 inChoice.toNat 0
    | .look _ => (t.more 1 0 0).more 0 inChoice.toNat 0
    | .capture _ a =>
      let ends := if backwards then 0 else 1
      (node backwards false a (t.more ends 0 0)).more ends inChoice.toNat 0
    | .seq a b =>
      let t := t.more 0 inChoice.toNat 0
      if backwards then node backwards false a (node backwards false b t)
      else node backwards false b (node backwards false a t)
    | .rep least most _ a =>
      let body := node backwards false a
      let t := t.more 0 inChoice.toNat 0
      match most with
      | none =>
        if 0 < least then (times body least t).more 1 2 0
        else if a.leastLength?.any (0 < ·) then body (t.more 1 2 0)
        else (body t).more 3 4 0
      | some most =>
        if least == 0 && most == 1 then (body (t.more 1 2 0)).more 1 0 0
        else
          let t := if least == 0 then t.more 1 0 0 else times body least t
          if most ≤ least then t
          else times (fun t => body (t.more 1 2 0)) (most - least) (t.more 1 0 0)

/-- The automaton of an expression in one direction. One that may begin anywhere has a loop that
takes any byte in front of it; forwards the place of the match is kept, too. -/
def whole (backwards : Bool) (a : Node) : Tally :=
  let anchored := if backwards then a.endsAt .textEnd else a.startsAt .textStart
  let before : Tally := if anchored then ({} : Tally).more 1 0 0 else ({} : Tally).more 3 2 1
  (node backwards false (if backwards then a else .capture 0 a) before).more 1 0 0

end Tally

/-- Whether one of the automata of an expression takes more room than there is. -/
def isTooLarge (a : Node) : Bool := (Tally.whole false a).isOver || (Tally.whole true a).isOver

end Regex
end Parley
