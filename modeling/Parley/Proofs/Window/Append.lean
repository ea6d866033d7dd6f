import Parley.Proofs.Utf8.Fresh
import Parley.Window

/-!
# Parley.Proofs.Window.Append

What a chunk does to a window over a stream that opens a text.

* `append_spec`: the window holds the stream from the first fresh offset on at which it fits.
* `append_of_fits`: where nothing has to go, the chunk is put behind what is held.
* `appendAll`: chunks, one after the other.
-/

namespace Parley
namespace Window

open Utf8

variable {w : Window} {stream chunk : List UInt8} {p : Nat}

/-! ## What the stages of `append` leave alone -/

@[simp] theorem fit_capacity : w.fit.capacity = w.capacity := rfl
@[simp] theorem fit_received : w.fit.received = w.received := rfl

@[simp] theorem mend_capacity : w.mend.capacity = w.capacity := by
  unfold mend; split <;> rfl

@[simp] theorem mend_received : w.mend.received = w.received := by
  unfold mend; split <;> rfl

/-- A window that takes in a chunk, before anything is dropped or mended. -/
def filled (chunk : List UInt8) (w : Window) : Window :=
  if w.capacity ≤ chunk.length then w.replace chunk else w.extend chunk

theorem append_eq (chunk : List UInt8) (w : Window) :
    w.append chunk =
      (filled chunk { w with received := w.received + chunk.length }).fit.mend.fit := rfl

@[simp] theorem filled_capacity : (w.filled chunk).capacity = w.capacity := by
  unfold filled; split <;> rfl

@[simp] theorem filled_received : (w.filled chunk).received = w.received := by
  unfold filled; split <;> rfl

@[simp] theorem append_capacity : (w.append chunk).capacity = w.capacity := by
  simp [append_eq]

@[simp] theorem append_received :
    (w.append chunk).received = w.received + chunk.length := by
  simp [append_eq]

/-! ## The stages on a stream -/

/-- A window that holds a stream from an offset on. -/
structure HoldsFrom (w : Window) (stream : List UInt8) (p : Nat) : Prop where
  bytes : w.bytes = stream.drop p
  le_length : p ≤ stream.length

theorem HoldsFrom.length (h : w.HoldsFrom stream p) : w.length = stream.length - p := by
  rw [Window.length, h.bytes, List.length_drop]

theorem dropFront_holdsFrom (h : w.HoldsFrom stream p) {n : Nat} (hn : p + n ≤ stream.length) :
    (w.dropFront n).HoldsFrom stream (nextFresh stream (p + n)) ∧
      (w.dropFront n).discarded = w.discarded + (nextFresh stream (p + n) - p) := by
  have hrest : (w.bytes.drop n).dropWhile isContinuation =
      stream.drop (nextFresh stream (p + n)) := by
    rw [h.bytes, List.drop_drop, drop_nextFresh]
  have hle := nextFresh_le_length hn
  refine ⟨⟨hrest, hle⟩, ?_⟩
  have hlen := h.length
  simp only [dropFront, hrest, List.length_drop, hlen]
  omega

/-- A window that fits and begins with a character is left alone. -/
theorem fit_eq_self (hlen : w.length ≤ w.capacity) (hfresh : StartsFresh w.bytes) :
    w.fit = w := by
  have hexcess : w.excess = 0 := Nat.sub_eq_zero_of_le hlen
  have hrest : w.bytes.dropWhile isContinuation = w.bytes := dropWhile_of_startsFresh hfresh
  simp [fit, dropFront, hexcess, hrest, Window.length]

/-- Openings need no mending. -/
theorem mend_eq_self (h : Opening w.bytes) : w.mend = w := by
  simp [mend, h.hasMalformed_eq_false]

/-- A chunk that is taken in either stands behind what was held or has pushed all of it out. -/
theorem filled_holdsFrom (h : w.HoldsFrom stream p) :
    ∃ q, (w.filled chunk).HoldsFrom (stream ++ chunk) q ∧
      (w.filled chunk).discarded = w.discarded + (q - p) ∧ p ≤ q ∧
      q + (w.filled chunk).excess = max p ((stream ++ chunk).length - w.capacity) := by
  have hlen := h.length
  have hle := h.le_length
  have htotal : (stream ++ chunk).length = stream.length + chunk.length := List.length_append
  unfold filled
  split
  · refine ⟨stream.length + (chunk.length - w.capacity), ⟨?_, by omega⟩, ?_, by omega, ?_⟩
    · rw [replace, List.drop_length_add_append]
    · simp only [replace, hlen]; omega
    · simp only [excess, Window.length, replace, List.length_drop]; omega
  · refine ⟨p, ⟨?_, by omega⟩, ?_, Nat.le_refl p, ?_⟩
    · rw [extend, h.bytes, List.drop_append_of_le_length hle]
    · simp [extend]
    · simp only [excess, Window.length, extend, h.bytes, List.length_append, List.length_drop]
      omega

/-- A chunk goes behind what is held, and the window then begins at the first fresh offset from
which on it can hold the rest. -/
theorem append_spec (h : w.HoldsFrom stream p) (ho : Opening (stream ++ chunk)) {q : Nat}
    (hq : q = nextFresh (stream ++ chunk) (max p ((stream ++ chunk).length - w.capacity))) :
    (w.append chunk).HoldsFrom (stream ++ chunk) q ∧
      (w.append chunk).discarded = w.discarded + (q - p) := by
  let counted := { w with received := w.received + chunk.length }
  have hcounted : counted.HoldsFrom stream p := ⟨h.bytes, h.le_length⟩
  obtain ⟨q₀, hfilled, hdisc, hle, hexcess⟩ := filled_holdsFrom hcounted
  have hp := h.le_length
  have hlen : (stream ++ chunk).length = stream.length + chunk.length := List.length_append
  have hstart : q₀ + (counted.filled chunk).excess ≤ (stream ++ chunk).length := by
    rw [hexcess]; omega
  obtain ⟨hfit, hfitted⟩ := dropFront_holdsFrom hfilled hstart
  rw [hexcess, show counted.capacity = w.capacity from rfl, ← hq] at hfit hfitted
  have hleq : max p ((stream ++ chunk).length - w.capacity) ≤ q := hq ▸ le_nextFresh _ _
  -- behind the first `fit` the window begins with a character and fits, so nothing more happens
  have hfresh : StartsFresh (counted.filled chunk).fit.bytes := startsFresh_dropWhile _
  have hopen : Opening (counted.filled chunk).fit.bytes := by
    have hbytes : (counted.filled chunk).fit.bytes = (stream ++ chunk).drop q := hfit.bytes
    rw [hbytes] at hfresh ⊢
    exact ho.drop hfresh
  have hsmall : (counted.filled chunk).fit.length ≤ (counted.filled chunk).fit.capacity := by
    rw [show (counted.filled chunk).fit.length = (stream ++ chunk).length - q from hfit.length,
      fit_capacity, filled_capacity, show counted.capacity = w.capacity from rfl]
    omega
  have hgone : (counted.filled chunk).fit.discarded =
      (counted.filled chunk).discarded + (q - q₀) := hfitted
  rw [append_eq, mend_eq_self hopen, fit_eq_self hsmall hfresh]
  refine ⟨hfit, ?_⟩
  rw [hgone, hdisc]
  change w.discarded + (q₀ - p) + (q - q₀) = w.discarded + (q - p)
  change q₀ + _ = max p ((stream ++ chunk).length - w.capacity) at hexcess
  omega

/-- Where nothing has to go, a chunk is put behind what is held. -/
theorem append_of_fits (ho : Opening (w.bytes ++ chunk))
    (hlen : (w.bytes ++ chunk).length ≤ w.capacity) :
    (w.append chunk).bytes = w.bytes ++ chunk := by
  have hfresh : Fresh (w.bytes ++ chunk) 0 := by
    obtain ⟨cs, r, hcs, hr⟩ := ho.exists_encode_append
    rw [fresh_iff (Nat.zero_le _), hcs]
    exact startsFresh_encode_append cs hr
  have hspec := append_spec (w := w) (p := 0) ⟨rfl, Nat.zero_le _⟩ ho rfl
  have hstart : max 0 ((w.bytes ++ chunk).length - w.capacity) = 0 := by omega
  rw [hstart, nextFresh_eq_self hfresh] at hspec
  exact hspec.1.bytes

/-- A chunk of a text that fits as a whole is put behind what is held. -/
theorem append_of_prefix {text : List Char} (hpre : w.bytes ++ chunk <+: encode text)
    (hlen : (encode text).length ≤ w.capacity) : (w.append chunk).bytes = w.bytes ++ chunk :=
  append_of_fits ⟨text, hpre⟩ (hpre.length_le.trans hlen)

/-- A text in front is consumed, and all behind it stays. -/
theorem consume_of_encode_append {before : List Char} {bytes : List UInt8}
    (h : w.bytes = encode before ++ bytes) :
    w.consume (size before) = (before, { w with bytes }) := by
  rw [consume, h, ← length_encode, List.take_left, List.drop_left, lossy_encode]

/-! ## Chunk after chunk -/

/-- Appends chunks, one after the other. -/
def appendAll (chunks : List (List UInt8)) (w : Window) : Window :=
  chunks.foldl (fun w chunk => w.append chunk) w

variable {chunks : List (List UInt8)}

@[simp] theorem appendAll_nil : w.appendAll [] = w := rfl

@[simp] theorem appendAll_cons : w.appendAll (chunk :: chunks) = (w.append chunk).appendAll chunks :=
  rfl

theorem appendAll_append (chunks' : List (List UInt8)) :
    w.appendAll (chunks ++ chunks') = (w.appendAll chunks).appendAll chunks' := List.foldl_append

@[simp] theorem appendAll_capacity : (w.appendAll chunks).capacity = w.capacity := by
  induction chunks generalizing w with
  | nil => rfl
  | cons chunk chunks ih => rw [appendAll_cons, ih, append_capacity]

end Window
end Parley
