import Parley.Utf8

/-!
# Parley.Window

What a console has printed and nobody has consumed yet, at most `capacity` bytes of it. Output
comes in chunks that are cut anywhere. A chunk may end inside a character, whose first bytes then
wait at the end of the window; when the window is full its oldest bytes go, always up to the next
byte that can start a character; and bytes that can never become a character are replaced, so that
positions in the text are positions in the bytes.

* `append`: adds a chunk.
* `text`: the characters that can be matched, all but an incomplete one at the end.
* `shown`: the whole content as text, with a replacement character for what is incomplete.
* `consume`: removes bytes from the front and returns their text.
-/

namespace Parley

/-- A bounded window over a stream of output. -/
structure Window where
  /-- The bytes held, the oldest first. -/
  bytes : List UInt8 := []
  /-- How many bytes may be held. -/
  capacity : Nat
  /-- How many bytes were ever appended. -/
  received : Nat := 0
  /-- How many bytes were dropped to make room. -/
  discarded : Nat := 0
  capacity_pos : 0 < capacity
deriving DecidableEq, Repr

namespace Window

/-- The capacity of a window when none is asked for. -/
def defaultCapacity : Nat := 1048576

/-- An empty window. It holds at least one byte. -/
def ofCapacity (capacity : Nat) : Window where
  capacity := max capacity 1
  capacity_pos := Nat.lt_of_lt_of_le Nat.zero_lt_one (Nat.le_max_right capacity 1)

def length (w : Window) : Nat := w.bytes.length

def isEmpty (w : Window) : Bool := w.bytes.isEmpty

/-- The number of bytes held beyond the capacity. -/
def excess (w : Window) : Nat := w.length - w.capacity

/-- Drops at least `count` bytes from the front, and more until a character can start there. -/
def dropFront (count : Nat) (w : Window) : Window :=
  let rest := (w.bytes.drop count).dropWhile Utf8.isContinuation
  { w with bytes := rest, discarded := w.discarded + (w.length - rest.length) }

/-- Drops what is beyond the capacity. -/
def fit (w : Window) : Window := w.dropFront w.excess

/-- Replaces what can never become a character; an incomplete character at the end stays. -/
def mend (w : Window) : Window :=
  if Utf8.hasMalformed w.bytes then
    let tail := Utf8.openTail w.bytes
    let body := w.bytes.take (w.length - tail.length)
    { w with bytes := Utf8.encode (Utf8.lossy body) ++ tail }
  else w

/-- Adds a chunk behind what is held. -/
def extend (chunk : List UInt8) (w : Window) : Window := { w with bytes := w.bytes ++ chunk }

/-- Puts the end of a chunk, as much as fits, in place of what is held. -/
def replace (chunk : List UInt8) (w : Window) : Window :=
  let surplus := chunk.length - w.capacity
  { w with bytes := chunk.drop surplus, discarded := w.discarded + (w.length + surplus) }

/-- Appends a chunk. The second `fit` is needed because a replacement character is wider than the
bytes that it stands for. -/
def append (chunk : List UInt8) (w : Window) : Window :=
  let counted := { w with received := w.received + chunk.length }
  let filled := if w.capacity ≤ chunk.length then counted.replace chunk else counted.extend chunk
  filled.fit.mend.fit

/-- The characters that can be matched. -/
def text (w : Window) : List Char := Utf8.text w.bytes

/-- The content as text, with a replacement character for what is not. -/
def shown (w : Window) : List Char := Utf8.lossy w.bytes

/-- Removes up to `count` bytes from the front and returns their text. -/
def consume (count : Nat) (w : Window) : List Char × Window :=
  (Utf8.lossy (w.bytes.take count), { w with bytes := w.bytes.drop count })

def clear (w : Window) : Window := { w with bytes := [] }

/-- The counters of a window on one line. -/
def summary (w : Window) : String :=
  "OutputBuffer \x7b len: " ++ toString w.length ++ ", max_size: " ++ toString w.capacity ++
    ", total_written: " ++ toString w.received ++ ", bytes_discarded: " ++ toString w.discarded ++
    " \x7d"

end Window

end Parley
