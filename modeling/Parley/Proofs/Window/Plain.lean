import Parley.Proofs.Window.Room

/-!
# Parley.Proofs.Window.Plain

A window takes a short cut with a chunk that fills it: the end of the chunk goes in the place of
what is held, and the counter of dropped bytes is set at once. The plain way is to put the chunk
behind what is held and to drop what is too much.

* `trimmed`, `dropped`: what is kept of some bytes, and how many go.
* `fit_replace`: the short cut and the plain way come together once the window fits.
* `append_eq_plain`: so they are one, for chunks of any length behind bytes of any kind.
-/

namespace Parley
namespace Window

open Utf8

variable {w : Window} {x chunk : List UInt8} {capacity : Nat}

/-- The end of some bytes, as much as fits, from the next byte on that can begin a character. -/
def trimmed (capacity : Nat) (x : List UInt8) : List UInt8 :=
  (x.drop (x.length - capacity)).dropWhile isContinuation

/-- The number of bytes in front of that. -/
def dropped (capacity : Nat) (x : List UInt8) : Nat := x.length - (trimmed capacity x).length

/-- Takes in a chunk the plain way: it is put behind what is held, what is too much goes, what is
left is mended, and what is then too much goes. -/
def appendPlain (chunk : List UInt8) (w : Window) : Window :=
  ({ w with received := w.received + chunk.length }.extend chunk).fit.mend.fit

theorem fit_eq (w : Window) :
    w.fit = { w with
      bytes := trimmed w.capacity w.bytes
      discarded := w.discarded + dropped w.capacity w.bytes } := rfl

/-- A chunk that fills a window leaves no room for anything in front of it. -/
theorem trimmed_append (h : capacity ≤ chunk.length) :
    trimmed capacity (x ++ chunk) = trimmed capacity chunk := by
  have hdrop : (x ++ chunk).length - capacity = x.length + (chunk.length - capacity) := by
    rw [List.length_append]
    omega
  rw [trimmed, hdrop, List.drop_length_add_append, trimmed]

/-- The end of a chunk that is as long as the window is trimmed like the whole chunk. -/
theorem trimmed_drop (h : capacity ≤ chunk.length) :
    trimmed capacity (chunk.drop (chunk.length - capacity)) = trimmed capacity chunk := by
  have hlen : (chunk.drop (chunk.length - capacity)).length - capacity = 0 := by
    rw [List.length_drop]
    omega
  rw [trimmed, hlen, List.drop_zero, trimmed]

theorem length_trimmed_le (capacity : Nat) (x : List UInt8) :
    (trimmed capacity x).length ≤ capacity := by
  have hsuffix :=
    (List.dropWhile_suffix isContinuation (l := x.drop (x.length - capacity))).length_le
  rw [List.length_drop] at hsuffix
  rw [trimmed]
  omega

/-- The short cut and the plain way keep the same bytes, and what the short cut has counted already
is what the plain way still has to drop. -/
theorem fit_replace (h : w.capacity ≤ chunk.length) :
    (w.replace chunk).fit = (w.extend chunk).fit := by
  have hbytes : trimmed w.capacity (chunk.drop (chunk.length - w.capacity)) =
      trimmed w.capacity (w.bytes ++ chunk) := by
    rw [trimmed_drop h, trimmed_append h]
  have hcount : w.length + (chunk.length - w.capacity) +
        dropped w.capacity (chunk.drop (chunk.length - w.capacity)) =
      dropped w.capacity (w.bytes ++ chunk) := by
    have hle := length_trimmed_le w.capacity (w.bytes ++ chunk)
    rw [dropped, dropped, hbytes, List.length_drop, List.length_append, Window.length]
    omega
  rw [fit_eq, fit_eq]
  simp only [replace, extend, hbytes, ← hcount, Nat.add_assoc]

theorem fit_filled (chunk : List UInt8) (w : Window) :
    (w.filled chunk).fit = (w.extend chunk).fit := by
  rw [filled]
  split
  · next h => exact fit_replace h
  · rfl

/-- A chunk of any length, behind whatever a window holds, has the effect that it has the plain way;
and this is: what is kept of all bytes is mended, and what is kept of that is held. All bytes that
went are counted, in both places. -/
theorem append_eq_plain (chunk : List UInt8) (w : Window) :
    w.append chunk = w.appendPlain chunk ∧
    w.append chunk = { w with
      bytes := trimmed w.capacity (mended (trimmed w.capacity (w.bytes ++ chunk)))
      received := w.received + chunk.length
      discarded := w.discarded + dropped w.capacity (w.bytes ++ chunk) +
        dropped w.capacity (mended (trimmed w.capacity (w.bytes ++ chunk))) } := by
  have hplain : w.append chunk = w.appendPlain chunk := by
    rw [append_eq, fit_filled, appendPlain]
  refine ⟨hplain, ?_⟩
  rw [hplain, appendPlain, fit_eq, mend_eq, fit_eq]
  rfl

/-- Five bytes behind two, in a window of three. Four go at once and one more begins no character; of
the last two each is mended to three, and there is room for one. -/
example : (({ bytes := [0x93, 0x61], capacity := 3, capacity_pos := by decide } : Window).append
    [0x62, 0x9C, 0x93, 0xE2, 0xFF]).discarded = 8 := by decide +kernel

end Window
end Parley
