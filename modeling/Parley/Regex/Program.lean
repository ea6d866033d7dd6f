import Parley.Regex.Reader

/-!
# Parley.Regex.Program

A regular expression as instructions for threads. A thread stands at an instruction and at a place
in the text; a `split` sends two threads on, the preferred one first.

* `Instr`: the instructions.
* `compile`: the instructions of an expression, written from its end to its start, so that every
  part knows where to go on.
-/

namespace Parley
namespace Regex

inductive Instr
  /-- Takes one character of a set. -/
  | take (set : Unicode.CodeSet) (next : Nat)
  /-- Goes on where a condition holds. -/
  | check (look : Look) (next : Nat)
  | split (preferred other : Nat)
  /-- Notes the place in a slot. -/
  | save (slot : Nat) (next : Nat)
  | done
deriving DecidableEq, Repr

abbrev Program := Array Instr

namespace Program

/-- Adds an instruction and says where it stands. -/
def add (p : Program) (i : Instr) : Nat × Program := (p.size, p.push i)

/-- A split that prefers to go to `body` if the repetition is greedy, and else to `out`. -/
def fork (greedy : Bool) (body out : Nat) : Instr :=
  if greedy then .split body out else .split out body

/-- Applies `f` that many times, passing on the place to go to. -/
def times (f : Nat → Program → Nat × Program) : Nat → Nat → Program → Nat × Program
  | 0, next, p => (next, p)
  | n + 1, next, p =>
    let (start, p) := f next p
    times f n start p

/-- A part that may be left out, in front of `next`; without it the thread goes to `out`. -/
def optional (greedy : Bool) (out : Nat) (f : Nat → Program → Nat × Program) (next : Nat)
    (p : Program) : Nat × Program :=
  let (body, p) := f next p
  p.add (fork greedy body out)

/-- A part once or more, in front of `next`. -/
def oneOrMore (greedy : Bool) (f : Nat → Program → Nat × Program) (next : Nat) (p : Program) :
    Nat × Program :=
  let (loop, p) := p.add .done
  let (body, p) := f loop p
  (body, p.setIfInBounds loop (fork greedy body next))

/-- Writes the instructions of an expression that goes on at `next`, and says where they start. A
part that may match nothing is repeated as once or more, all of it optional: so its own preference
for matching nothing keeps its place. -/
def write : Node → Nat → Program → Nat × Program
  | .empty, next, p => (next, p)
  | .oneOf s, next, p => p.add (.take s next)
  | .look l, next, p => p.add (.check l next)
  | .capture i a, next, p =>
    let (stop, p) := p.add (.save (2 * i + 1) next)
    let (body, p) := write a stop p
    p.add (.save (2 * i) body)
  | .seq a b, next, p =>
    let (second, p) := write b next p
    write a second p
  | .alt a b, next, p =>
    let (second, p) := write b next p
    let (first, p) := write a next p
    p.add (.split first second)
  | .rep least most greedy a, next, p =>
    let body := write a
    match most with
    | none =>
      if least == 0 then
        if a.mayBeEmpty then optional greedy next (oneOrMore greedy body) next p
        else
          let (loop, p) := p.add .done
          let (start, p) := body loop p
          (loop, p.setIfInBounds loop (fork greedy start next))
      else
        let (last, p) := oneOrMore greedy body next p
        times body (least - 1) last p
    | some m =>
      let (start, p) := times (optional greedy next body) (m - least) next p
      times body least start p

end Program

/-- An expression ready to search with. -/
structure Compiled where
  source : String
  program : Program
  start : Nat
  /-- How many groups keep their text. -/
  captures : Nat
deriving DecidableEq, Repr

/-- The whole match counts as group 0. -/
def compile (source : String) : Except Fault Compiled := do
  let e ← read source
  let (stop, p) := Program.add #[] .done
  let (start, program) := Program.write (.capture 0 e.node) stop p
  return { source, program, start, captures := e.captures }

end Regex
end Parley
