import Parley.Proofs.Window.Pursuit
import Parley.Proofs.Window.Room

/-!
# Parley.Proofs.Window.Ahead

A literal that is taken from a window after more has come than it took to find it.

* `Admits`: a window has room for all of some bytes, even when they are mended.
* `Admits.appendAll`: what came leaves as much room as there was for it.
* `take_ahead`: a literal that is there is taken alike behind further chunks, and leaves the same
  to whoever takes in the rest.
-/

namespace Parley
namespace Window

open Utf8 Pattern

variable {w : Window} {a b chunk more r : List UInt8} {chunks : List (List UInt8)}
  {cs before after : List Char} {s : String}

/-- Nothing of some bytes is dropped behind what a window holds, and neither is any of what it
holds, even where replacement characters come to stand in it. -/
structure Admits (w : Window) (bytes : List UInt8) : Prop where
  startsFresh : StartsFresh (w.bytes ++ bytes)
  fits : (mended (w.bytes ++ bytes)).length ≤ w.capacity

theorem admits_of_opening (ho : Opening (w.bytes ++ a)) (hlen : (w.bytes ++ a).length ≤ w.capacity) :
    w.Admits a := by
  refine ⟨?_, by rwa [mended_of_opening ho]⟩
  obtain ⟨cs, r, hcs, hr⟩ := ho.exists_encode_append
  rw [hcs]
  exact startsFresh_encode_append cs hr

namespace Admits

theorem of_append (h : w.Admits (a ++ b)) : w.Admits a := by
  have hfresh := h.startsFresh
  have hfits := h.fits
  rw [← List.append_assoc] at hfresh hfits
  have hmore := length_mended_append (w.bytes ++ a) b
  refine ⟨?_, by omega⟩
  intro x hx
  refine hfresh x ?_
  rw [Option.mem_def] at hx ⊢
  rw [List.head?_append, hx]
  rfl

theorem append_bytes (h : w.Admits a) : (w.append a).bytes = mended (w.bytes ++ a) := by
  rw [append_of_room h.fits]
  simp only [dropWhile_of_startsFresh h.startsFresh]

theorem append (h : w.Admits (a ++ b)) : (w.append a).Admits b := by
  refine ⟨?_, (room_append h.fits).2⟩
  have hfresh := h.startsFresh
  rw [h.of_append.append_bytes]
  by_cases hnil : w.bytes ++ a = []
  · rwa [hnil, mended_nil, ← hnil, List.append_assoc]
  · exact startsFresh_append (startsFresh_mended _) (mt mended_eq_nil_iff.1 hnil) b

/-- What came leaves as much room as there was for it and all that comes later. -/
theorem appendAll (h : w.Admits (chunks.flatten ++ more)) : (w.appendAll chunks).Admits more := by
  induction chunks generalizing w with
  | nil => exact h
  | cons chunk chunks ih =>
    rw [List.flatten_cons, List.append_assoc] at h
    exact ih h.append

theorem appendAll_bytes (h : w.Admits chunks.flatten) (hne : chunks ≠ []) :
    (w.appendAll chunks).bytes = mended (w.bytes ++ chunks.flatten) := by
  rw [appendAll_eq hne h.fits, h.append_bytes]

end Admits

theorem mended_encode_append (cs : List Char) (x : List UInt8) :
    mended (encode cs ++ x) = encode cs ++ mended x := by
  have hpending : (decode (encode cs)).pending = [] := by
    have h := decode_encode_append cs begun_nil
    rw [List.append_nil] at h
    rw [h]
  rw [mended_append_of_pending_eq_nil hpending, mended_of_opening (opening_encode cs)]

/-- Behind a text that it holds a window takes in chunks as if the text were not there. -/
theorem Admits.exists_appendAll_bytes (h : w.Admits chunks.flatten) (hw : w.bytes = encode cs ++ r) :
    ∃ y, (w.appendAll chunks).bytes = encode cs ++ y ∧
      (∀ more, mended (y ++ more) = mended (r ++ (chunks.flatten ++ more))) ∧
      (Opening (w.bytes ++ chunks.flatten) → y = r ++ chunks.flatten) := by
  by_cases hne : chunks = []
  · subst hne
    exact ⟨r, hw, fun _ => rfl, fun _ => (List.append_nil r).symm⟩
  · have hbytes := h.appendAll_bytes hne
    rw [hw, List.append_assoc, mended_encode_append] at hbytes
    refine ⟨_, hbytes, ?_, ?_⟩
    · intro more
      rw [mended_mended_append, List.append_assoc]
    · intro ho
      have hall := mended_of_opening ho
      rw [hw, List.append_assoc, mended_encode_append] at hall
      exact List.append_cancel_left hall

theorem Admits.appendAll_of_opening (h : w.Admits chunks.flatten)
    (ho : Opening (w.bytes ++ chunks.flatten)) :
    (w.appendAll chunks).bytes = w.bytes ++ chunks.flatten := by
  obtain ⟨y, hy, -, hraw⟩ := h.exists_appendAll_bytes (show w.bytes = encode [] ++ w.bytes from rfl)
  rw [hy, hraw ho, encode_nil, List.nil_append]

/-- A literal that is in a window is found and taken alike once further chunks have come. What it
leaves, with the chunks behind it, is what it leaves then: the same bytes if they are those of a
text, and otherwise the same once they are mended. -/
theorem take_ahead (hleft : Leftmost s.toList w.text before after) (h : w.Admits chunks.flatten) :
    ∃ o, w.find? (.literal s) = some o ∧ (w.appendAll chunks).find? (.literal s) = some o ∧
      taken (w.take o).1 = taken ((w.appendAll chunks).take o).1 ∧
      (∀ more, mended ((w.take o).2.bytes ++ (chunks.flatten ++ more)) =
        mended (((w.appendAll chunks).take o).2.bytes ++ more)) ∧
      (Opening (w.bytes ++ chunks.flatten) →
        (w.take o).2.bytes ++ chunks.flatten = ((w.appendAll chunks).take o).2.bytes) := by
  obtain ⟨r, hr⟩ := encode_text_isPrefix w.bytes
  obtain ⟨y, hy, hmended, hraw⟩ := h.exists_appendAll_bytes hr.symm
  obtain ⟨ds, hds⟩ := encode_prefix_iff.1 ⟨y, hy.symm⟩
  have hahead : Leftmost s.toList (w.appendAll chunks).text before (after ++ ds) := by
    rw [Window.text, ← hds]
    exact hleft.append ds
  obtain ⟨htaken, hleaves⟩ := take_leftmost hleft hr.symm
  obtain ⟨htaken', hleaves'⟩ := take_leftmost hleft hy
  refine ⟨_, find?_literal_of_leftmost hleft, find?_literal_of_leftmost hahead,
    htaken.trans htaken'.symm, ?_, ?_⟩
  · intro more
    rw [hleaves, hleaves', List.append_assoc, List.append_assoc, mended_encode_append,
      mended_encode_append, hmended]
  · intro ho
    rw [hleaves, hleaves', hraw ho, List.append_assoc]

end Window
end Parley
