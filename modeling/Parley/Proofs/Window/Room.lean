import Parley.Proofs.Utf8.Boundary
import Parley.Proofs.Window.Intact

/-!
# Parley.Proofs.Window.Room

A window with room for all that it is given, malformed bytes included. The cuts between chunks then
leave no trace, and nothing is dropped but bytes at the very front that begin no character.

* `append_of_room`: what one chunk makes of such a window.
* `append_append_of_room`: two chunks make of it what they make of it together, and so do any
  chunks of one stream.
* `shows_iff_startsFresh`: a fresh window shows the whole stream exactly if the stream begins with
  no byte from inside a character.
-/

namespace Parley
namespace Window

open Utf8

variable {w : Window} {a b chunk stream : List UInt8} {chunks : List (List UInt8)}

/-! ## One chunk -/

theorem mend_eq (w : Window) : w.mend = { w with bytes := mended w.bytes } := by
  unfold mend
  split
  · obtain ⟨front, hfront⟩ := exists_append_pending w.bytes
    have hlossy := lossy_of_append_pending hfront
    have htake : w.bytes.take (w.length - (decode w.bytes).pending.length) = front := by
      have hlen := congrArg List.length hfront
      rw [List.length_append] at hlen
      rw [Window.length, hlen, Nat.add_sub_cancel]
      conv_lhs => rw [hfront]
      exact List.take_left
    simp only [openTail_eq_pending, htake, hlossy, mended, Decoder.mended]
  · next h => rw [mended_of_hasMalformed_eq_false (by simpa using h)]

theorem length_mend_extend : (w.extend chunk).mend.length = (mended (w.bytes ++ chunk)).length := by
  rw [mend_eq]
  rfl

/-- A chunk that fits behind what is held is put there; one that is as long as the window holds
then replaces nothing. -/
theorem filled_eq_extend (h : (w.bytes ++ chunk).length ≤ w.capacity) :
    w.filled chunk = w.extend chunk := by
  rw [List.length_append] at h
  unfold filled
  split
  · next hle =>
    have hbytes : w.bytes = [] := List.eq_nil_of_length_eq_zero (by omega)
    have hsurplus : chunk.length - w.capacity = 0 := by omega
    simp [replace, extend, Window.length, hbytes, hsurplus]
  · rfl

/-- The number of bytes at the front of a stream that begin no character. -/
def stray (x : List UInt8) : Nat := (x.takeWhile isContinuation).length

theorem stray_add (x : List UInt8) : stray x + (x.dropWhile isContinuation).length = x.length := by
  rw [stray, ← List.length_append, List.takeWhile_append_dropWhile]

theorem fit_of_room (h : w.length ≤ w.capacity) :
    w.fit = { w with
      bytes := w.bytes.dropWhile isContinuation, discarded := w.discarded + stray w.bytes } := by
  have hexcess : w.excess = 0 := Nat.sub_eq_zero_of_le h
  have hstray : w.length - (w.bytes.dropWhile isContinuation).length = stray w.bytes := by
    have := stray_add w.bytes
    rw [Window.length]
    omega
  rw [fit, dropFront, hexcess, List.drop_zero, hstray]

/-- Where there is room for all of it, a chunk is put behind what is held. What begins no character
is dropped at the front, and mended everywhere else. -/
theorem append_of_room (h : (mended (w.bytes ++ chunk)).length ≤ w.capacity) :
    w.append chunk = { w with
      bytes := mended ((w.bytes ++ chunk).dropWhile isContinuation)
      received := w.received + chunk.length
      discarded := w.discarded + stray (w.bytes ++ chunk) } := by
  have hraw := (length_le_length_mended (w.bytes ++ chunk)).trans h
  have hkept := length_mended_dropWhile_append_le (w.bytes ++ chunk) []
  rw [List.append_nil, List.append_nil] at hkept
  have hfilled := filled_eq_extend (w := { w with received := w.received + chunk.length }) hraw
  have hfit := fit_of_room (w := { w with
    bytes := w.bytes ++ chunk, received := w.received + chunk.length }) hraw
  rw [append_eq, hfilled, extend, hfit, mend_eq]
  exact fit_eq_self (hkept.trans h) (startsFresh_mended _)

/-! ## Several chunks -/

theorem stray_append : stray (a ++ b) = stray a + if a.dropWhile isContinuation = [] then
    stray b else 0 := by
  have ha := stray_add a
  have hb := stray_add b
  have hab := stray_add (a ++ b)
  rw [List.dropWhile_append, List.length_append] at hab
  by_cases h : a.dropWhile isContinuation = []
  · rw [if_pos (List.isEmpty_iff.2 h)] at hab
    rw [h, List.length_nil] at ha
    rw [if_pos h]
    omega
  · rw [if_neg (mt List.isEmpty_iff.1 h), List.length_append] at hab
    rw [if_neg h]
    omega

theorem stray_eq_zero_iff : stray a = 0 ↔ StartsFresh a := by
  have ha := stray_add a
  constructor
  · intro h
    have hlen : (a.dropWhile isContinuation).length = a.length := by omega
    have hall := (List.dropWhile_suffix isContinuation (l := a)).eq_of_length hlen
    rw [← hall]
    exact startsFresh_dropWhile a
  · intro h
    rw [dropWhile_of_startsFresh h] at ha
    omega

theorem mended_eq_nil_iff : mended a = [] ↔ a = [] := by
  constructor
  · intro h
    have hle := length_le_length_mended a
    rw [h] at hle
    exact List.eq_nil_of_length_eq_zero (Nat.le_zero.1 hle)
  · rintro rfl
    rfl

/-- Bytes that stand behind a window's front are dropped at the front only if all of it was. -/
theorem dropWhile_mended_append (a b : List UInt8) :
    (mended (a.dropWhile isContinuation) ++ b).dropWhile isContinuation =
        (if a.dropWhile isContinuation = [] then b.dropWhile isContinuation
          else mended (a.dropWhile isContinuation) ++ b) ∧
      stray (mended (a.dropWhile isContinuation) ++ b) =
        if a.dropWhile isContinuation = [] then stray b else 0 := by
  by_cases h : a.dropWhile isContinuation = []
  · rw [h, if_pos rfl, if_pos rfl, mended_nil, List.nil_append]
    exact ⟨rfl, rfl⟩
  · have hfresh : StartsFresh (mended (a.dropWhile isContinuation) ++ b) :=
      startsFresh_append (startsFresh_mended _) (mt mended_eq_nil_iff.1 h) b
    rw [if_neg h, if_neg h, dropWhile_of_startsFresh hfresh, stray_eq_zero_iff.2 hfresh]
    exact ⟨rfl, rfl⟩

/-- What is held behind a chunk has as much room for the next one as it had before. -/
theorem room_append (h : (mended (w.bytes ++ (a ++ b))).length ≤ w.capacity) :
    (mended (w.bytes ++ a)).length ≤ w.capacity ∧
      (mended ((w.append a).bytes ++ b)).length ≤ (w.append a).capacity := by
  rw [← List.append_assoc] at h
  have hmore := length_mended_append (w.bytes ++ a) b
  have hfirst : (mended (w.bytes ++ a)).length ≤ w.capacity := by omega
  refine ⟨hfirst, ?_⟩
  rw [append_of_room hfirst, mended_mended_append]
  exact (length_mended_dropWhile_append_le _ _).trans h

theorem append_append (h : (mended (w.bytes ++ (a ++ b))).length ≤ w.capacity) :
    (w.append a).append b = w.append (a ++ b) := by
  obtain ⟨hfirst, hsecond⟩ := room_append h
  obtain ⟨hbytes, hstray⟩ := dropWhile_mended_append (w.bytes ++ a) b
  have hmerged : mended ((mended ((w.bytes ++ a).dropWhile isContinuation) ++ b).dropWhile
      isContinuation) = mended ((w.bytes ++ (a ++ b)).dropWhile isContinuation) := by
    have hwhole : (w.bytes ++ a ++ b).dropWhile isContinuation =
        if (w.bytes ++ a).dropWhile isContinuation = [] then b.dropWhile isContinuation
        else (w.bytes ++ a).dropWhile isContinuation ++ b := by
      rw [List.dropWhile_append]
      simp only [List.isEmpty_iff]
    rw [hbytes, ← List.append_assoc, hwhole]
    split
    · rfl
    · exact mended_mended_append _ _
  rw [append_of_room hsecond, append_of_room hfirst, append_of_room h]
  simp only [hmerged, hstray, ← List.append_assoc, stray_append (a := w.bytes ++ a),
    List.length_append, Nat.add_assoc]

theorem appendAll_eq (hne : chunks ≠ [])
    (h : (mended (w.bytes ++ chunks.flatten)).length ≤ w.capacity) :
    w.appendAll chunks = w.append chunks.flatten := by
  induction chunks generalizing w with
  | nil => exact absurd rfl hne
  | cons chunk chunks ih =>
    rw [appendAll_cons]
    by_cases hlast : chunks = []
    · rw [hlast, appendAll_nil, List.flatten_singleton]
    · rw [ih hlast (room_append h).2]
      exact append_append h

theorem Intact.append_nil (h : w.Intact) : w.append [] = w := by
  obtain ⟨r, hbytes, hr, -⟩ := h.text_append
  have hmended : mended w.bytes = w.bytes := by
    refine mended_of_hasMalformed_eq_false ?_
    rw [hbytes]
    exact hasMalformed_encode_append _ hr
  have hroom : (mended (w.bytes ++ [])).length ≤ w.capacity := by
    rw [List.append_nil, hmended]
    exact h.fits
  rw [append_of_room hroom]
  simp [dropWhile_of_startsFresh h.startsFresh, stray_eq_zero_iff.2 h.startsFresh, hmended]

theorem Intact.appendAll_eq (hw : w.Intact)
    (h : (mended (w.bytes ++ chunks.flatten)).length ≤ w.capacity) :
    w.appendAll chunks = w.append chunks.flatten := by
  by_cases hne : chunks = []
  · rw [hne, appendAll_nil, List.flatten_nil, hw.append_nil]
  · exact Window.appendAll_eq hne h

theorem intact_of_empty (h : w.bytes = []) : w.Intact := by
  refine intact_of_opening ?_ ?_
  · rw [Window.length, h]
    exact Nat.zero_le _
  · rw [h]
    exact opening_encode []

/-- An empty window holds a stream as it is mended, if the stream does not begin inside a
character. -/
theorem appendAll_bytes (hempty : w.bytes = []) (hfresh : StartsFresh chunks.flatten)
    (h : (mended chunks.flatten).length ≤ w.capacity) :
    (w.appendAll chunks).bytes = mended chunks.flatten := by
  have hroom : (mended (w.bytes ++ chunks.flatten)).length ≤ w.capacity := by
    rw [hempty, List.nil_append]
    exact h
  rw [(intact_of_empty hempty).appendAll_eq hroom, append_of_room hroom]
  simp only [hempty, List.nil_append, dropWhile_of_startsFresh hfresh]

/-- Where there is room for all of it when it is mended, a stream that comes in two chunks leaves a
window as the whole of it does, counters included, whatever the window holds. So do any two ways to
cut a stream into chunks, as long as there are chunks at all: a window that was cut inside a
character drops the rest of it even for an empty one, and only an intact window does not. -/
theorem append_append_of_room (w : Window) :
    (∀ a b, (w.extend (a ++ b)).mend.length ≤ w.capacity →
      (w.append a).append b = w.append (a ++ b)) ∧
    ∀ chunks chunks' : List (List UInt8), chunks.flatten = chunks'.flatten →
      (w.extend chunks.flatten).mend.length ≤ w.capacity →
      (chunks ≠ [] ∧ chunks' ≠ [] ∨ w.Intact) →
      w.appendAll chunks = w.appendAll chunks' := by
  simp only [length_mend_extend]
  refine ⟨fun a b => append_append, ?_⟩
  intro chunks chunks' hsame hroom hkind
  have hroom' := hroom
  rw [hsame] at hroom'
  rcases hkind with ⟨hne, hne'⟩ | hw
  · rw [appendAll_eq hne hroom, appendAll_eq hne' hroom', hsame]
  · rw [hw.appendAll_eq hroom, hw.appendAll_eq hroom', hsame]

/-- What is left of a character in front of a window, and what then comes in. -/
def cutInside : Window where
  bytes := [0x93, 0x61, 0xC3]
  capacity := 13
  capacity_pos := by decide

/-- The first cut ends a character that the window has begun and begins one that the second chunk
breaks off; what is mended fills the window. -/
theorem append_append_of_room_cutInside :
    (cutInside.extend ([0xA9, 0xFF, 0xE2] ++ [0x9C, 0x62])).mend.length ≤ cutInside.capacity ∧
      (cutInside.append [0xA9, 0xFF, 0xE2]).append [0x9C, 0x62] =
        cutInside.append ([0xA9, 0xFF, 0xE2] ++ [0x9C, 0x62]) ∧
      cutInside.appendAll [[0xA9], [], [0xFF, 0xE2, 0x9C], [0x62]] =
        cutInside.appendAll [[0xA9, 0xFF, 0xE2, 0x9C, 0x62]] ∧
      (cutInside.append ([0xA9, 0xFF, 0xE2] ++ [0x9C, 0x62])).text =
        ['a', 'é', replacement, replacement, 'b'] ∧
      (cutInside.append ([0xA9, 0xFF, 0xE2] ++ [0x9C, 0x62])).discarded = 1 := by
  have hroom : (cutInside.extend [0xA9, 0xFF, 0xE2, 0x9C, 0x62]).mend.length ≤
      cutInside.capacity := by decide
  obtain ⟨htwo, hany⟩ := append_append_of_room cutInside
  have hcuts := hany [[0xA9], [], [0xFF, 0xE2, 0x9C], [0x62]] [[0xA9, 0xFF, 0xE2, 0x9C, 0x62]] rfl
    hroom (.inl ⟨by decide, by decide⟩)
  exact ⟨hroom, htwo _ _ hroom, hcuts, by decide, by decide⟩

/-! ## What a fresh window shows -/

/-- A window shows a stream: its content is the lossy text of the stream, and what can be matched is
the lossy text of all but an incomplete character at the very end. -/
structure Shows (w : Window) (stream : List UInt8) : Prop where
  shown_eq : w.shown = lossy stream
  text_eq : ∃ front r, stream = front ++ r ∧ Begun r ∧
    (∀ s, s <:+ stream → Begun s → s = [] ∨ s = r) ∧ w.text = lossy front

theorem shows_of_bytes (h : w.bytes = mended stream) : w.Shows stream := by
  obtain ⟨front, hfront⟩ := exists_append_pending stream
  refine ⟨?_, front, _, hfront, begun_pending stream, ?_, ?_⟩
  · rw [Window.shown, h, lossy_mended]
  · intro s hs hbegun
    by_cases hne : s = []
    · exact .inl hne
    · exact .inr (pending_eq_of_begun hs hbegun hne).symm
  · rw [Window.text, h, text_mended, lossy_of_append_pending hfront]

/-- A fresh window with room for the lossy text of a stream shows all of the stream but the bytes at
its front that begin no character. These it drops and counts, although nothing has to go for them.
So it shows the whole stream, with nothing dropped, exactly if there are no such bytes. -/
theorem shows_iff_startsFresh (capacity : Nat) (chunks : List (List UInt8))
    (hroom : size (lossy chunks.flatten) ≤ max capacity 1) :
    let w := (Window.ofCapacity capacity).appendAll chunks
    w.Shows (chunks.flatten.dropWhile isContinuation) ∧
      w.discarded = stray chunks.flatten ∧
      (w.Shows chunks.flatten ∧ w.discarded = 0 ↔ StartsFresh chunks.flatten) := by
  intro w
  have hmended : (mended ((Window.ofCapacity capacity).bytes ++ chunks.flatten)).length ≤
      (Window.ofCapacity capacity).capacity := (length_mended_le_size_lossy _).trans hroom
  have hw : w = (Window.ofCapacity capacity).append chunks.flatten :=
    (intact_of_empty rfl).appendAll_eq hmended
  rw [append_of_room hmended] at hw
  have hbytes : w.bytes = mended (chunks.flatten.dropWhile isContinuation) := by
    rw [hw]
    rfl
  have hdiscarded : w.discarded = stray chunks.flatten := by
    rw [hw]
    exact Nat.zero_add _
  refine ⟨shows_of_bytes hbytes, hdiscarded, ?_, ?_⟩
  · rintro ⟨-, hnone⟩
    rw [hdiscarded] at hnone
    exact stray_eq_zero_iff.1 hnone
  · intro hfresh
    rw [dropWhile_of_startsFresh hfresh] at hbytes
    rw [hdiscarded]
    exact ⟨shows_of_bytes hbytes, stray_eq_zero_iff.2 hfresh⟩

/-- Two malformed bytes, a character that is cut and one that stays incomplete fill a window. -/
theorem shows_iff_startsFresh_full :
    ∃ chunks w, chunks = [[0xFF, 0x20, 0xE2], [0x9C, 0x93, 0x80], [0xC3]] ∧
      w = (Window.ofCapacity 13).appendAll chunks ∧ size (lossy chunks.flatten) = max 13 1 ∧
      StartsFresh chunks.flatten ∧ w.Shows chunks.flatten ∧ w.discarded = 0 ∧
      w.shown = [replacement, ' ', '✓', replacement, replacement] ∧
      w.text = [replacement, ' ', '✓', replacement] := by
  have hroom : size (lossy [[0xFF, 0x20, 0xE2], [0x9C, 0x93, 0x80], [0xC3]].flatten) =
      max 13 1 := by decide
  have hfresh : StartsFresh [[0xFF, 0x20, 0xE2], [0x9C, 0x93, 0x80], [0xC3]].flatten := by
    intro b hb
    cases hb
    rfl
  obtain ⟨hshows, hnone⟩ := (shows_iff_startsFresh 13 _ hroom.le).2.2.2 hfresh
  exact ⟨_, _, rfl, rfl, hroom, hfresh, hshows, hnone, by decide, by decide⟩

/-- A byte from inside a character that comes first is not shown, but counted as dropped. -/
theorem not_shows_stray :
    size (lossy [0x80]) ≤ max 100 1 ∧ lossy [0x80] = [replacement] ∧
      ((Window.ofCapacity 100).append [0x80]).shown = [] ∧
      ((Window.ofCapacity 100).append [0x80]).discarded = 1 ∧
      ¬ ((Window.ofCapacity 100).append [0x80]).Shows [0x80] := by
  have hshown : ((Window.ofCapacity 100).append [0x80]).shown = [] := by decide
  refine ⟨by decide, by decide, hshown, by decide, ?_⟩
  intro h
  have hlossy := h.shown_eq
  rw [hshown] at hlossy
  cases hlossy

end Window
end Parley
