import Parley.Regex.Engine
import Parley.Regex.Program
import Parley.Utf8

/-!
# Parley.Regex.Search

The leftmost match of a regular expression. All threads go through the text together, in order of
preference; no two stand at one instruction, so the work per character is bounded by the size of
the program. The first place where a match begins wins, and among the matches that begin there the
preferred one.

* `Compiled.search`: the places where the match and its groups begin and end, in bytes.
* `Compiled.engine`: the engine that searches in this way.
-/

namespace Parley
namespace Regex

/-- A thread at an instruction that takes a character or ends the match. -/
structure Thread where
  instr : Nat
  slots : Slots

/-- The threads at one place, the preferred one last, and the instructions visited there. -/
structure Frontier where
  seen : Array Bool
  threads : List Thread := []

namespace Frontier

def start (p : Program) : Frontier := { seen := Array.replicate p.size false }

/-- Follows threads until each needs a character; `waiting` holds those that are still to be
followed, the preferred one first. An instruction is visited once at a place and sends at most two
threads on, so twice as many steps as the program has instructions are enough. -/
def follow (p : Program) (before after : Option Char) (place : Nat) :
    Nat → List Thread → Frontier → Frontier
  | 0, _, f => f
  | _, [], f => f
  | steps + 1, t :: waiting, f =>
    if f.seen[t.instr]?.getD true then follow p before after place steps waiting f
    else
      let f := { f with seen := f.seen.setIfInBounds t.instr true }
      match p[t.instr]? with
      | some (.split preferred other) =>
        let waiting := { t with instr := preferred } :: { t with instr := other } :: waiting
        follow p before after place steps waiting f
      | some (.check look next) =>
        let waiting :=
          if look.holds before after then { t with instr := next } :: waiting else waiting
        follow p before after place steps waiting f
      | some (.save slot next) =>
        let t := { instr := next, slots := t.slots.setIfInBounds slot (some place) }
        follow p before after place steps (t :: waiting) f
      | some _ => follow p before after place steps waiting { f with threads := t :: f.threads }
      | none => follow p before after place steps waiting f

/-- Follows one more thread. -/
def join (p : Program) (before after : Option Char) (place : Nat) (t : Thread) (f : Frontier) :
    Frontier :=
  follow p before after place (2 * p.size + 2) [t] f

end Frontier

/-- The threads that are preferred to a match, and the match if there is one. -/
def settle (p : Program) (best : Option Slots) : List Thread → List Thread × Option Slots
  | threads => go [] threads
where
  go (live : List Thread) : List Thread → List Thread × Option Slots
    | [] => (live.reverse, best)
    | t :: rest =>
      match p[t.instr]? with
      | some .done => (live.reverse, some t.slots)
      | _ => go (t :: live) rest

/-- The threads after one more character. -/
def advance (p : Program) (c : Char) (after : Option Char) (place : Nat) (threads : List Thread) :
    Frontier :=
  threads.foldl (fun (f : Frontier) (t : Thread) =>
    match p[t.instr]? with
    | some (.take set next) =>
      if set.contains c.toNat then f.join p (some c) after place { t with instr := next } else f
    | _ => f) (Frontier.start p)

namespace Compiled

/-- Goes on from a place in the text with the threads that have come this far. -/
def searchFrom (e : Compiled) (before : Option Char) (place : Nat) (f : Frontier)
    (best : Option Slots) (rest : List Char) : Option Slots :=
  let p := e.program
  let f := if best.isNone then
      f.join p before rest.head? place
        { instr := e.start, slots := Array.replicate (2 * e.captures + 2) none }
    else f
  let (live, best) := settle p best f.threads.reverse
  match rest with
  | [] => best
  | c :: rest =>
    if live.isEmpty && best.isSome then best
    else
      let next := place + c.utf8Size
      searchFrom e (some c) next (advance p c rest.head? next live) best rest

def search (e : Compiled) (text : List Char) : Option Slots :=
  e.searchFrom none 0 (Frontier.start e.program) none text

def engine (e : Compiled) : Engine where
  source := e.source
  groups := e.captures
  search := e.search

end Compiled

end Regex
end Parley
