/-!
# Parley.Utf8

Bytes as UTF-8, one byte at a time. `extend` says what a byte does to a character that has begun;
`decode` runs it over a stream and cuts the stream into `Piece`s: characters, and maximal runs of
bytes that begin a character and are broken off. What is left over at the end, `pending`, is a
character that later bytes may still complete.

* `text`: the characters before the first broken piece.
* `lossy`: every character, with the replacement character for each broken piece and for what is
  pending at the end.
* `openTail`: the bytes at the end of a stream that a later byte may still complete, found from the
  last three bytes alone.
-/

namespace Parley
namespace Utf8

/-- A byte that stands inside a character and begins none. -/
def isContinuation (b : UInt8) : Bool := b &&& 0xC0 == 0x80

/-- A byte that begins a character of several bytes. -/
def isLead (b : UInt8) : Bool := 0xC2 ≤ b && b ≤ 0xF4

/-- Whether a byte may come second after a lead byte. The ranges after `E0`, `ED`, `F0` and `F4`
leave out overlong forms, surrogates and numbers past the last code point. -/
def isSecond (lead second : UInt8) : Bool :=
  isContinuation second &&
    (if lead == 0xE0 then 0xA0 ≤ second
     else if lead == 0xED then second ≤ 0x9F
     else if lead == 0xF0 then 0x90 ≤ second
     else if lead == 0xF4 then second ≤ 0x8F
     else true)

/-- The payload of a continuation byte. -/
def low (b : UInt8) : Nat := b.toNat % 64

/-- What one more byte makes of the bytes of a character that has begun. -/
inductive Extension
  /-- The character is complete. -/
  | whole (c : Char)
  /-- The bytes so far still need more. -/
  | more (pending : List UInt8)
  /-- The byte cannot stand here. -/
  | broken
deriving DecidableEq, Repr

def extend : List UInt8 → UInt8 → Extension
  | [], b =>
    if b < 0x80 then .whole (Char.ofNat b.toNat)
    else if isLead b then .more [b] else .broken
  | [a], b =>
    if !isSecond a b then .broken
    else if a < 0xE0 then .whole (Char.ofNat (a.toNat % 32 * 64 + low b))
    else .more [a, b]
  | [a, b], c =>
    if !isContinuation c then .broken
    else if a < 0xF0 then .whole (Char.ofNat ((a.toNat % 16 * 64 + low b) * 64 + low c))
    else .more [a, b, c]
  | [a, b, c], d =>
    if !isContinuation d then .broken
    else .whole (Char.ofNat (((a.toNat % 8 * 64 + low b) * 64 + low c) * 64 + low d))
  | _, _ => .broken

/-- A part of a decoded stream. -/
inductive Piece
  | char (c : Char)
  /-- Bytes that begin no character, or begin one and are broken off. -/
  | malformed (bytes : List UInt8)
deriving DecidableEq, Repr

/-- A stream read so far: its pieces, the last one first, and the character that has begun. -/
structure Decoder where
  pieces : List Piece := []
  pending : List UInt8 := []
deriving DecidableEq, Repr

namespace Decoder

/-- Reads one byte. A byte that breaks off a character that has begun is read again on its own. -/
def read (d : Decoder) (b : UInt8) : Decoder :=
  match extend d.pending b with
  | .whole c => { pieces := .char c :: d.pieces, pending := [] }
  | .more pending => { d with pending }
  | .broken =>
    match d.pending with
    | [] => { pieces := .malformed [b] :: d.pieces, pending := [] }
    | begun =>
      let pieces := .malformed begun :: d.pieces
      match extend [] b with
      | .whole c => { pieces := .char c :: pieces, pending := [] }
      | .more pending => { pieces, pending }
      | .broken => { pieces := .malformed [b] :: pieces, pending := [] }

end Decoder

def decode (bytes : List UInt8) : Decoder := bytes.foldl Decoder.read {}

/-- The replacement character. -/
def replacement : Char := '\uFFFD'

namespace Piece

def toChar : Piece → Char
  | char c => c
  | malformed _ => replacement

def isChar : Piece → Bool
  | char _ => true
  | malformed _ => false

end Piece

/-- Every character of a stream, and a replacement character for each part that is none. -/
def lossy (bytes : List UInt8) : List Char :=
  let d := decode bytes
  let begun := if d.pending.isEmpty then d.pieces else .malformed d.pending :: d.pieces
  (begun.map Piece.toChar).reverse

/-- The characters of a stream up to the first malformed part or to the end. -/
def text (bytes : List UInt8) : List Char :=
  ((decode bytes).pieces.reverse.takeWhile Piece.isChar).map Piece.toChar

/-- Whether some part of a stream can never become a character. -/
def hasMalformed (bytes : List UInt8) : Bool := (decode bytes).pieces.any (!·.isChar)

/-- Whether a stream is text, complete to its last byte. -/
def isText (bytes : List UInt8) : Bool := !hasMalformed bytes && (decode bytes).pending.isEmpty

/-- The bytes of one character. -/
def encodeChar (c : Char) : List UInt8 := String.utf8EncodeChar c

/-- The bytes of a text. -/
def encode (cs : List Char) : List UInt8 := cs.flatMap encodeChar

/-- The number of bytes of a text. -/
def size (cs : List Char) : Nat := cs.foldl (fun n c => n + c.utf8Size) 0

/-- Whether the bytes begin a character and leave it incomplete. -/
def isOpen (bytes : List UInt8) : Bool :=
  let d := decode bytes
  d.pieces.isEmpty && !d.pending.isEmpty

/-- Looks for an incomplete character among the last `n` bytes, from `back` bytes on. -/
def openTailFrom (bytes : List UInt8) : Nat → Nat → List UInt8
  | _, 0 => []
  | back, n + 1 =>
    let last := bytes.drop (bytes.length - back)
    if isOpen last then last
    else if last.head?.any isContinuation then openTailFrom bytes (back + 1) n
    else []

/-- The bytes at the end that a later byte may still complete to a character. A character that has
begun has at most three bytes, so no more are looked at. -/
def openTail (bytes : List UInt8) : List UInt8 := openTailFrom bytes 1 (min 3 bytes.length)

end Utf8

/-- The text of a list of bytes, with a replacement character for each malformed part. -/
def lossyString (bytes : List UInt8) : String := String.ofList (Utf8.lossy bytes)

end Parley
