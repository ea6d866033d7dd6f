import Parley.Proofs.Window.Room

/-!
# Parley.Proofs.Window.HeldBack

The bytes that a window holds back at its end. Whatever comes behind a stream can change what these
bytes are read as, and nothing in front of them.

* `lossy_append`: the lossy text of a longer stream, from what the shorter one leaves incomplete.
* `take_append_drop_tailStart`: the search for the open tail finds exactly what the reader leaves
  incomplete.
* `tail_held_back`: where the tail begins, what it is, and what later bytes do to it.
-/

namespace Parley
namespace Utf8

variable {x y front : List UInt8}

/-- Where the open tail of some bytes begins. -/
def tailStart (x : List UInt8) : Nat := x.length - (openTail x).length

/-- The parts in front of what is left incomplete stay as they are, and the rest is read again with
what comes behind it. -/
theorem lossy_append (h : x = front ++ (decode x).pending) (y : List UInt8) :
    lossy (x ++ y) = lossy front ++ lossy ((decode x).pending ++ y) := by
  have hagain : decode ((decode x).pending ++ y) =
      y.foldl Decoder.read ⟨[], (decode x).pending⟩ := by
    have hread : decode (decode x).pending = ⟨[], (decode x).pending⟩ :=
      foldl_read_begun (begun_pending x) []
    rw [decode_append, hread]
  rw [lossy_eq (x ++ y), lossy_eq ((decode x).pending ++ y), chars_decode_append,
    pending_decode_append, hagain, lossy_of_append_pending h, List.append_assoc]

theorem take_append_drop_tailStart (x : List UInt8) :
    x = x.take (tailStart x) ++ (decode x).pending ∧ x.drop (tailStart x) = (decode x).pending := by
  obtain ⟨front, hfront⟩ := exists_append_pending x
  have hstart : tailStart x = front.length := by
    have hlen := congrArg List.length hfront
    rw [List.length_append] at hlen
    rw [tailStart, openTail_eq_pending]
    omega
  generalize (decode x).pending = r at *
  rw [hstart, hfront, List.take_left, List.drop_left]
  exact ⟨rfl, rfl⟩

/-- The bytes of a begun character at the end of a stream are its open tail. -/
theorem tailStart_eq_of_begun {s : List UInt8} (hs : s <:+ x) (hbegun : Begun s) (hne : s ≠ []) :
    tailStart x = x.length - s.length := by
  rw [tailStart, openTail_eq_pending, pending_eq_of_begun hs hbegun hne]

end Utf8

namespace Window

open Utf8

theorem mend_mend (w : Window) : w.mend.mend = w.mend := by
  have hagain := mended_mended_append w.bytes []
  rw [List.append_nil, List.append_nil] at hagain
  rw [mend_eq w, mend_eq, hagain]

theorem shown_mend (w : Window) : w.mend.shown = w.shown := by
  rw [mend_eq, shown, lossy_mended, shown]

/-- The open tail of any bytes begins a character and leaves it incomplete, and if the bytes end in
such a beginning, it is the tail. What is in front of it is read alike whatever comes, and the tail
together with what comes is read as if it stood alone; until then it is read as one replacement
character, and the bytes that complete it turn it into theirs. So a window can be mended with its
tail left alone: mending it once more does nothing, and mending it does not change what it shows. -/
theorem tail_held_back (x : List UInt8) :
    Begun (x.drop (tailStart x)) ∧ (x.drop (tailStart x)).length ≤ 3 ∧
    (∀ s, s <:+ x → s ≠ [] → Begun s → tailStart x = x.length - s.length) ∧
    (∀ y, lossy (x ++ y) = lossy (x.take (tailStart x)) ++ lossy (x.drop (tailStart x) ++ y)) ∧
    (x.drop (tailStart x) ≠ [] → lossy x = lossy (x.take (tailStart x)) ++ [replacement]) ∧
    (∀ c rest, encodeChar c = x.drop (tailStart x) ++ rest →
      lossy (x ++ rest) = lossy (x.take (tailStart x)) ++ [c]) ∧
    ∀ w : Window, w.mend.mend = w.mend ∧ w.mend.shown = w.shown := by
  obtain ⟨hsplit, htail⟩ := take_append_drop_tailStart x
  have hahead := lossy_append hsplit
  rw [htail]
  refine ⟨begun_pending x, (begun_pending x).length_le, ?_, hahead, ?_, ?_, ?_⟩
  · intro s hs hne hbegun
    exact tailStart_eq_of_begun hs hbegun hne
  · intro hne
    rw [lossy_eq, lossy_of_append_pending hsplit, if_neg hne]
  · intro c rest hc
    have hone : lossy (encodeChar c) = [c] := by
      have h := lossy_encode [c]
      rw [encode_cons, encode_nil, List.append_nil] at h
      exact h
    rw [hahead, ← hc, hone]
  · intro w
    exact ⟨mend_mend w, shown_mend w⟩

/-- A character that is broken off by the beginning of another one is not held back. -/
theorem tail_held_back_broken :
    ∃ x s : List UInt8, x = [0x61, 0xF0, 0x90, 0xE2, 0x9C] ∧ s = [0xE2, 0x9C] ∧
      s <:+ x ∧ s ≠ [] ∧ Begun s ∧ tailStart x = 3 ∧ x.drop (tailStart x) = s ∧
      lossy x = ['a', replacement, replacement] ∧ encodeChar '✓' = s ++ [0x93] ∧
      lossy (x ++ [0x93]) = ['a', replacement, '✓'] ∧
      lossy (x ++ [0x93, 0xA0, 0x62]) =
        lossy [0x61, 0xF0, 0x90] ++ lossy ([0xE2, 0x9C] ++ [0x93, 0xA0, 0x62]) := by
  have hchar : encodeChar '✓' = [0xE2, 0x9C] ++ [0x93] := by decide
  have hbegun : Begun [0xE2, 0x9C] := ⟨'✓', [0x93], hchar, by simp⟩
  have hs : [0xE2, 0x9C] <:+ ([0x61, 0xF0, 0x90, 0xE2, 0x9C] : List UInt8) :=
    ⟨[0x61, 0xF0, 0x90], rfl⟩
  obtain ⟨-, -, hstart, hahead, hopen, hwhole, -⟩ :=
    tail_held_back [0x61, 0xF0, 0x90, 0xE2, 0x9C]
  have hthree := hstart _ hs (by simp) hbegun
  simp only [hthree] at hahead hopen hwhole
  exact ⟨_, _, rfl, rfl, hs, by simp, hbegun, hthree, by rw [hthree]; rfl, hopen (by simp), hchar,
    hwhole '✓' [0x93] hchar, hahead _⟩

end Window
end Parley
