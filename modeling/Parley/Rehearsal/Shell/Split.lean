import Parley.Rehearsal.Shell.Glob

/-!
# Parley.Rehearsal.Shell.Split

How a line that is read is shared among variables. Separators that are blank count as one where
several stand together, and those at either end do not count; any other separator counts by itself.
The last variable gets all that is left, without the separator of its field if that is one field.

* `Split.marked`: the bytes of a line, with those that a backslash protects told apart.
* `Split.shares`: the values of variables.
-/

namespace Parley
namespace Rehearsal
namespace Shell
namespace Split

/-- The bytes of a line in which a backslash protects what follows it. -/
def unescaped : Bytes → List Marked
  | 92 :: b :: rest => (b, true) :: unescaped rest
  | b :: rest => (b, false) :: unescaped rest
  | [] => []

def marked (raw : Bool) (line : Bytes) : List Marked :=
  if raw then line.map fun b => (b, false) else unescaped line

def isSeparator (separators : Bytes) (c : Marked) : Bool := !c.2 && separators.contains c.1

/-- Whether a byte is a separator of which several count as one. -/
def isGap (separators : Bytes) (c : Marked) : Bool :=
  isSeparator separators c && [32, 9, 10].contains c.1

/-- What follows a field once its separator is gone. -/
def afterField (separators : Bytes) (cs : List Marked) : List Marked :=
  match cs.dropWhile (isGap separators) with
  | c :: rest =>
    if isSeparator separators c then rest.dropWhile (isGap separators) else c :: rest
  | [] => []

/-- The value of the last variable. -/
def remainder (separators : Bytes) (cs : List Marked) : Bytes :=
  let field := cs.takeWhile fun c => !isSeparator separators c
  if (afterField separators (cs.drop field.length)).isEmpty then field.map (·.1)
  else ((cs.reverse.dropWhile (isGap separators)).reverse).map (·.1)

def sharesFrom (separators : Bytes) : List String → List Marked → List (String × Bytes)
  | [], _ => []
  | [name], cs => [(name, remainder separators cs)]
  | name :: rest, cs =>
    let field := cs.takeWhile fun c => !isSeparator separators c
    (name, field.map (·.1)) ::
      sharesFrom separators rest (afterField separators (cs.drop field.length))

def shares (separators : Bytes) (names : List String) (cs : List Marked) : List (String × Bytes) :=
  sharesFrom separators names (cs.dropWhile (isGap separators))

/-- Whether the end of a line is protected, so that the next line belongs to it. -/
def goesOn (line : Bytes) : Bool := (line.reverse.takeWhile (· == 92)).length % 2 == 1

end Split
end Shell
end Rehearsal
end Parley
