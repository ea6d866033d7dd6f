import Parley.Regex.Escape

/-!
# Parley.Regex.Bracket

Bracketed sets of characters. Brackets may be nested and combined (`&&`, `--`, `~~`); the reader
goes through them once, with the open brackets on a stack.

* `Bracket`: a bracket that is open.
* `readSet`: a bracketed set, and how deep it nests.
-/

namespace Parley
namespace Regex

open Unicode (CodeSet)

inductive SetOperator
  | intersection
  | difference
  | symmetricDifference
deriving DecidableEq, Repr

namespace SetOperator

/-- Combines two sets, each with the cases that the flags ask for. -/
def apply (op : SetOperator) (f : Flags) (s t : CodeSet) : CodeSet :=
  let s := foldSet f s
  let t := foldSet f t
  match op with
  | intersection => s.inter t
  | difference => s.diff t
  | symmetricDifference => s.symmDiff t

end SetOperator

/-- A bracket that is open: what is in it so far, and the operator that waits for what follows, with
what stands before it. -/
structure Bracket where
  negated : Bool
  items : CodeSet := CodeSet.empty
  /-- How many items there are, and how deep the deepest of them nests. -/
  count : Nat := 0
  depth : Nat := 0
  pending : Option (SetOperator × CodeSet × Nat) := none

namespace Bracket

def add (b : Bracket) (s : CodeSet) (depth : Nat := 0) : Bracket :=
  { b with items := b.items.union s, count := b.count + 1, depth := max b.depth depth }

/-- The value of a bracket so far. -/
def value (f : Flags) (b : Bracket) : CodeSet :=
  match b.pending with
  | none => b.items
  | some (op, left, _) => op.apply f left b.items

/-- How deep the contents of a bracket nest: several items nest once more than one of them alone,
and so do the sides of an operator. -/
def nesting (b : Bracket) : Nat :=
  let items := if 1 < b.count then b.depth + 1 else b.depth
  match b.pending with
  | none => items
  | some (_, _, left) => max left items + 1

/-- Puts an operator behind what has been read. -/
def operate (f : Flags) (op : SetOperator) (b : Bracket) : Bracket :=
  { negated := b.negated, pending := some (op, b.value f, b.nesting) }

end Bracket

/-- Adds the dashes at the front of a bracket, which are literal. -/
def leadingDashes (f : Flags) : Nat → Bracket → List Char → Bracket × List Char
  | 0, b, cs => (b, cs)
  | steps + 1, b, cs =>
    match cs with
    | '-' :: rest => leadingDashes f steps (b.add (CodeSet.single '-'.toNat)) (dropBlank f rest)
    | cs => (b, cs)

/-- Opens a bracket: a caret negates, dashes are literal, and so is a closing bracket that comes
first. -/
def openBracket (f : Flags) (cs : List Char) : Except Fault (Bracket × List Char) := do
  let cs := dropBlank f cs
  let (negated, cs) := match cs with
    | '^' :: rest => (true, dropBlank f rest)
    | _ => (false, cs)
  match leadingDashes f cs.length { negated } cs with
  | (_, []) => throw .setUnclosed
  | (b, ']' :: rest) =>
    if 0 < b.count then return (b, ']' :: rest)
    else
      match dropBlank f rest with
      | [] => throw .setUnclosed
      | rest => return (b.add (CodeSet.single ']'.toNat), rest)
  | (b, rest) => return (b, rest)

/-- An ASCII class such as `[:alpha:]`, after its bracket; nothing if the text is none. -/
def readAsciiClass (f : Flags) : List Char → Option (Except Fault CodeSet × List Char)
  | ':' :: cs =>
    let (negated, cs) := match cs with
      | '^' :: rest => (true, rest)
      | _ => (false, cs)
    let name := cs.takeWhile (· != ':')
    match cs.drop name.length with
    | ':' :: ']' :: rest =>
      (asciiClass? (String.ofList name)).map fun s => (finishSet f negated s, rest)
    | _ => none
  | _ => none

/-- One item of a bracket: a character or an escape. -/
def readSetItem (f : Flags) : List Char → Except Fault (Escape × List Char)
  | [] => .error .setUnclosed
  | '\\' :: rest => readEscape f rest
  | c :: rest => .ok (.char c, rest)

/-- A character within a bracket. -/
def setChar (f : Flags) (c : Char) : Except Fault Nat :=
  if f.unicode || c.toNat < 128 then .ok c.toNat else .error .needsUnicode

/-- An item or a range of characters. A dash makes no range in front of another dash or of the
closing bracket. -/
def readSetRange (f : Flags) (cs : List Char) : Except Fault (CodeSet × List Char) := do
  let (first, rest) ← readSetItem f cs
  let rest := dropBlank f rest
  let alone : Except Fault (CodeSet × List Char) := match first with
    | .char c => do return (CodeSet.single (← setChar f c), rest)
    | .set s => .ok (s, rest)
    | .look _ => .error .setItem
  match rest with
  | [] => throw .setUnclosed
  | '-' :: after =>
    let next := glance f after
    if next == some ']' || next == some '-' then alone
    else
      let (last, rest) ← readSetItem f (dropBlank f after)
      match first, last with
      | .char lo, .char hi =>
        let lo ← setChar f lo
        let hi ← setChar f hi
        if lo ≤ hi then return (CodeSet.range lo hi, rest) else throw .setRange
      | _, _ => throw .setItem
  | _ => alone

/-- Reads up to the bracket that closes the outermost one; `steps` bounds the items. The answer is
the set, how deep it nests, and what follows. -/
def readBrackets (f : Flags) : Nat → Bracket → List Bracket → List Char →
    Except Fault (CodeSet × Nat × List Char)
  | 0, _, _, _ => .error .setUnclosed
  | steps + 1, b, outer, cs =>
    let nested (rest : List Char) : Except Fault (CodeSet × Nat × List Char) := do
      let (inner, rest) ← openBracket f rest
      readBrackets f steps inner (b :: outer) rest
    match dropBlank f cs with
    | [] => .error .setUnclosed
    | '[' :: rest =>
      match readAsciiClass f rest with
      | some (s, rest) => do readBrackets f steps (b.add (← s)) outer rest
      | none => nested rest
    | ']' :: rest => do
      let s ← finishSet f b.negated (b.value f)
      let depth := b.nesting + 1
      match outer with
      | [] => return (s, depth, rest)
      | enclosing :: outer => readBrackets f steps (enclosing.add s depth) outer rest
    | '&' :: '&' :: rest => readBrackets f steps (b.operate f .intersection) outer rest
    | '-' :: '-' :: rest => readBrackets f steps (b.operate f .difference) outer rest
    | '~' :: '~' :: rest => readBrackets f steps (b.operate f .symmetricDifference) outer rest
    | cs => do
      let (s, rest) ← readSetRange f cs
      readBrackets f steps (b.add s) outer rest

/-- A bracketed set, after its first bracket. -/
def readSet (f : Flags) (cs : List Char) : Except Fault (CodeSet × Nat × List Char) := do
  let (b, rest) ← openBracket f cs
  readBrackets f (rest.length + 1) b [] rest

end Regex
end Parley
