import Parley.Proofs.Utf8.Pieces
import Parley.Proofs.Window.Append

/-!
# Parley.Proofs.Window.Intact

What a window holds, whatever bytes were appended to it.

* `Intact`: a window that fits and holds a text with at most one incomplete character behind it.
* `append_intact`: every chunk leaves a window intact, even one that was not.
* `Intact.consume`: an intact window stays so when whole characters are consumed.
* `used_intact`: all of this after any use of a window.
-/

namespace Parley
namespace Window

open Utf8

/-- A window that fits, begins with a character if it is not empty, and holds its text and then at
most the first bytes of one more character. -/
structure Intact (w : Window) : Prop where
  fits : w.length ≤ w.capacity
  startsFresh : StartsFresh w.bytes
  text_append : ∃ r, w.bytes = encode w.text ++ r ∧ Begun r ∧ r.length ≤ 3

variable {w : Window} {before after : List Char}

theorem intact_of_opening (hlen : w.length ≤ w.capacity) (ho : Opening w.bytes) : w.Intact := by
  obtain ⟨cs, r, hbytes, hr⟩ := ho.exists_encode_append
  have htext : w.text = cs := by rw [Window.text, hbytes, text_encode_append cs hr]
  refine ⟨hlen, ?_, r, ?_, hr, hr.length_le⟩
  · rw [hbytes]
    exact startsFresh_encode_append cs hr
  · rw [htext, hbytes]

/-! ## Stages of `append` -/

/-- However malformed the content was, mending leaves a text and what has begun behind it. -/
theorem opening_mend (w : Window) : Opening w.mend.bytes := by
  unfold mend
  split
  · obtain ⟨c, t, hc, -⟩ := begun_openTail w.bytes
    exact ⟨lossy (w.bytes.take (w.length - (openTail w.bytes).length)) ++ [c], t, by simp [hc]⟩
  · next h => exact opening_of_hasMalformed_eq_false (by simpa using h)

theorem fit_bytes (w : Window) :
    w.fit.bytes = (w.bytes.drop w.excess).dropWhile isContinuation := rfl

theorem fit_length_le (w : Window) : w.fit.length ≤ w.capacity := by
  have hle := (List.dropWhile_suffix isContinuation (l := w.bytes.drop w.excess)).length_le
  rw [List.length_drop] at hle
  rw [Window.length, fit_bytes]
  simp only [excess, Window.length] at hle ⊢
  omega

/-- What fits of an opening is an opening: the front goes up to a place where a character can
begin. -/
theorem opening_fit (h : Opening w.bytes) : Opening w.fit.bytes := by
  have hdrop := drop_nextFresh w.bytes w.excess
  have hfresh := startsFresh_dropWhile (w.bytes.drop w.excess)
  rw [fit_bytes, ← hdrop]
  rw [← hdrop] at hfresh
  exact h.drop hfresh

/-- Every chunk leaves a window intact, even one that was not. -/
theorem append_intact (w : Window) (chunk : List UInt8) : (w.append chunk).Intact := by
  rw [append_eq]
  exact intact_of_opening (fit_length_le _) (opening_fit (opening_mend _))

/-! ## Other uses -/

theorem intact_clear (w : Window) : w.clear.Intact :=
  intact_of_opening (Nat.zero_le _) (opening_encode [])

theorem Intact.consume (h : w.Intact) (ht : w.text = before ++ after) :
    (w.consume (size before)).2.Intact := by
  obtain ⟨r, hbytes, hr, -⟩ := h.text_append
  have hfront : w.bytes = encode before ++ (encode after ++ r) := by
    rw [hbytes, ht, encode_append, List.append_assoc]
  have hlen : (encode after ++ r).length ≤ w.capacity := by
    have hle := h.fits
    rw [Window.length, hfront, List.length_append] at hle
    omega
  rw [consume_of_encode_append hfront]
  obtain ⟨c, t, hc, -⟩ := hr
  exact intact_of_opening hlen ⟨after ++ [c], t, by simp [hc]⟩

/-- What can be done with a window. -/
inductive Use
  | append (chunk : List UInt8)
  /-- Removes bytes from the front, wherever the last of them stands. -/
  | consume (count : Nat)
  | clear
deriving DecidableEq, Repr

/-- A window behind a use of it. -/
def use (w : Window) : Use → Window
  | .append chunk => w.append chunk
  | .consume count => (w.consume count).2
  | .clear => w.clear

theorem use_capacity (w : Window) (u : Use) : (w.use u).capacity = w.capacity := by
  cases u with
  | append chunk => exact append_capacity
  | consume count => rfl
  | clear => rfl

theorem foldl_use_capacity (w : Window) (uses : List Use) :
    (uses.foldl use w).capacity = w.capacity := by
  induction uses generalizing w with
  | nil => rfl
  | cons u uses ih => rw [List.foldl_cons, ih, use_capacity]

/-- After any use of a window, another chunk makes it intact: it holds no more than it may, begins
with no byte from inside a character, and is its text with less than one character behind it. A
window that is cleared is intact, and an intact one stays so when whole characters are consumed.
The text of a window, intact or not, is always the longest one that stands at the front of its
bytes, so reading just those bytes as a text succeeds. -/
theorem used_intact (capacity : Nat) (uses : List Use) :
    let w := uses.foldl use (.ofCapacity capacity)
    (∀ chunk, (w.append chunk).Intact ∧ (w.append chunk).length ≤ max capacity 1) ∧
    w.clear.Intact ∧
    (w.Intact → ∀ before after, w.text = before ++ after →
      (w.consume (size before)).2.Intact) ∧
    (∀ cs, encode cs <+: w.bytes ↔ cs <+: w.text) ∧
    isText (w.bytes.take (size w.text)) = true := by
  intro w
  refine ⟨?_, intact_clear w, ?_, fun cs => encode_prefix_iff, ?_⟩
  · intro chunk
    have hint := append_intact w chunk
    have hcap : w.capacity = max capacity 1 := foldl_use_capacity _ uses
    have hfits := hint.fits
    rw [append_capacity, hcap] at hfits
    exact ⟨hint, hfits⟩
  · intro hint before after ht
    exact hint.consume ht
  · obtain ⟨rest, hrest⟩ := encode_text_isPrefix w.bytes
    have hfront : w.bytes.take (size w.text) = encode w.text := by
      rw [← hrest, ← length_encode]
      exact List.take_left
    rw [hfront]
    exact isText_encode _

/-- A window that was cut inside a character, and then took in the front of another one. -/
def recut : List Use := [.append [0x61, 0xFF, 0xFF], .consume 1, .append [0x62, 0xE2, 0x9C]]

/-- Two bytes that begin no character are replaced by more than the window may hold. Then the first
of its characters is consumed, and the last one is completed by a chunk with another such byte. -/
theorem used_intact_recut :
    (recut.foldl use (.ofCapacity 6)).bytes = [0xEF, 0xBF, 0xBD, 0x62, 0xE2, 0x9C] ∧
      (recut.foldl use (.ofCapacity 6)).Intact ∧
      (recut.foldl use (.ofCapacity 6)).text = [replacement] ++ ['b'] ∧
      ((recut.foldl use (.ofCapacity 6)).consume 3).2.Intact ∧
      ((recut.foldl use (.ofCapacity 6)).append [0x93, 0x80]).Intact ∧
      ((recut.foldl use (.ofCapacity 6)).append [0x93, 0x80]).text = ['✓', replacement] := by
  obtain ⟨happend, -, hconsume, -, -⟩ := used_intact 6 recut
  have hint : (recut.foldl use (.ofCapacity 6)).Intact :=
    ((used_intact 6 (recut.take 2)).1 [0x62, 0xE2, 0x9C]).1
  have htext : (recut.foldl use (.ofCapacity 6)).text = [replacement] ++ ['b'] := by decide
  exact ⟨by decide, hint, htext, hconsume hint _ _ htext, (happend _).1, by decide⟩

end Window
end Parley
