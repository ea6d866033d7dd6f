/-!
# Parley.Rehearsal.Bytes

What programs read and write: bytes. Inside the programs of a rehearsal a text is a string whose
characters are the bytes by their numbers, so that nothing is lost between the two.

* `bytesOf`, `wordOf`: from such a text to its bytes and back.
* `utf8`: the bytes of a text that comes from outside.
* `compareBytes`: the order of two texts.
-/

namespace Parley
namespace Rehearsal

abbrev Bytes := List UInt8

/-- The bytes of characters that stand for bytes. -/
def ofLetters (cs : List Char) : Bytes := cs.map fun c => UInt8.ofNat c.toNat

/-- Bytes as the characters of the same numbers. -/
def letters (bs : Bytes) : List Char := bs.map fun b => Char.ofNat b.toNat

/-- The bytes of a text whose characters stand for bytes. -/
def bytesOf (s : String) : Bytes := ofLetters s.toList

/-- Bytes as a text whose characters stand for them. -/
def wordOf (bs : Bytes) : String := String.ofList (letters bs)

/-- The bytes of a text in UTF-8. -/
def utf8 (s : String) : Bytes := s.toUTF8.toList

/-- The text of some bytes in UTF-8; bytes that are no text have an empty one. -/
def textOf (bs : Bytes) : String := (String.fromUTF8? ⟨bs.toArray⟩).getD ""

/-- The order of two texts by their bytes: at the first that differs, else the shorter first. -/
def compareBytes : Bytes → Bytes → Ordering
  | [], [] => .eq
  | [], _ :: _ => .lt
  | _ :: _, [] => .gt
  | a :: as, b :: bs => if a < b then .lt else if b < a then .gt else compareBytes as bs

/-- The bytes up to the first line feed, which is one of them, or all if there is none. -/
def upToLine (bs : Bytes) : Bytes :=
  let line := bs.takeWhile (· != 10)
  bs.take (line.length + 1)

/-- The lines of a text, each with its line feed if it has one. -/
def linesFrom : Nat → Bytes → List Bytes
  | 0, _ => []
  | _ + 1, [] => []
  | fuel + 1, bs =>
    let line := upToLine bs
    line :: linesFrom fuel (bs.drop line.length)

def linesOf (bs : Bytes) : List Bytes := linesFrom bs.length bs

/-- A line without its line feed. -/
def bare (line : Bytes) : Bytes := if line.getLast? == some 10 then line.dropLast else line

/-- The digits of a number. -/
def digitsOf (n : Nat) : Bytes := bytesOf (toString n)

/-- Whether one text is the front of another. -/
def startsWith (front bs : Bytes) : Bool := front.isPrefixOf bs

/-- Texts with a text between each two. -/
def joinWith (between : Bytes) (texts : List Bytes) : Bytes := between.intercalate texts

end Rehearsal
end Parley
