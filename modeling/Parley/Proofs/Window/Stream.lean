import Parley.Proofs.Window.Append

/-!
# Parley.Proofs.Window.Stream

A window against the stream that was appended to it, however the stream is cut and whenever its
front is consumed.

* `Ledger`: the stream so far, where the last consumption ended, and where the window has to begin.
* `Traced`: what can become of a window and its ledger by appending chunks and by consuming whole
  characters.
* `Tracks`: the window holds the stream from where the ledger says on, and its counters agree.
* `append_bytes_isLeast`: behind every chunk the window begins at the least offset at which it may.
-/

namespace Parley
namespace Window

open Utf8

/-- What was done with a window so far. -/
structure Ledger where
  /-- All bytes that were appended. -/
  stream : List UInt8 := []
  /-- The offset at which the last consumption ended. -/
  floor : Nat := 0
  /-- How many bytes were consumed. -/
  consumed : Nat := 0
  /-- The offset at which the window begins. -/
  front : Nat := 0

namespace Ledger

/-- A chunk came in, and the window may hold `capacity` bytes. -/
def append (capacity : Nat) (chunk : List UInt8) (l : Ledger) : Ledger :=
  let stream := l.stream ++ chunk
  { l with stream, front := nextFresh stream (max l.floor (stream.length - capacity)) }

/-- The first `count` bytes of the window were consumed. -/
def consume (count : Nat) (l : Ledger) : Ledger :=
  { l with floor := l.front + count, consumed := l.consumed + count, front := l.front + count }

end Ledger

/-- What can become of a fresh window. Consumption ends between two characters of the text. -/
inductive Traced (capacity : Nat) : Window → Ledger → Prop
  | fresh : Traced capacity (.ofCapacity capacity) {}
  | append {w : Window} {l : Ledger} (chunk : List UInt8) :
      Traced capacity w l → Traced capacity (w.append chunk) (l.append capacity chunk)
  | consume {w : Window} {l : Ledger} {before after : List Char} :
      Traced capacity w l → w.text = before ++ after →
      Traced capacity (w.consume (size before)).2 (l.consume (size before))

/-- What a window and its ledger have in common. -/
structure Tracks (capacity : Nat) (w : Window) (l : Ledger) : Prop where
  holds : w.HoldsFrom l.stream l.front
  capacity_eq : w.capacity = capacity
  received_eq : w.received = l.stream.length
  discarded_add : w.discarded + l.consumed = l.front
  floor_le : l.floor ≤ l.stream.length
  front_eq : l.front = nextFresh l.stream (max l.floor (l.stream.length - capacity))

variable {capacity : Nat} {w : Window} {l : Ledger}

theorem Tracks.fresh (h : 0 < capacity) : Tracks capacity (.ofCapacity capacity) {} where
  holds := ⟨rfl, Nat.le_refl _⟩
  capacity_eq := Nat.max_eq_left h
  received_eq := rfl
  discarded_add := rfl
  floor_le := Nat.le_refl _
  front_eq := by simp [nextFresh]

theorem Tracks.append (h : Tracks capacity w l) {chunk : List UInt8}
    (ho : Opening (l.stream ++ chunk)) :
    Tracks capacity (w.append chunk) (l.append capacity chunk) := by
  have hbound : (l.stream ++ chunk).length - capacity ≤ (l.stream ++ chunk).length :=
    Nat.sub_le _ _
  have hstart : max l.floor (l.stream.length - capacity) ≤ l.stream.length := by
    have := h.floor_le; omega
  have hlen : (l.stream ++ chunk).length = l.stream.length + chunk.length := List.length_append
  have hfront : (l.append capacity chunk).front = nextFresh (l.stream ++ chunk)
      (max l.front ((l.stream ++ chunk).length - w.capacity)) := by
    have hmax : max (max l.floor (l.stream.length - capacity))
        ((l.stream ++ chunk).length - capacity) =
          max l.floor ((l.stream ++ chunk).length - capacity) := by omega
    rw [h.capacity_eq, h.front_eq, nextFresh_max _ _ hstart hbound, hmax]
    rfl
  obtain ⟨hholds, hdisc⟩ := append_spec h.holds ho hfront
  have hle : l.front ≤ (l.append capacity chunk).front := by
    rw [hfront]
    exact (Nat.le_max_left _ _).trans (le_nextFresh _ _)
  exact {
    holds := hholds
    capacity_eq := by rw [append_capacity, h.capacity_eq]
    received_eq := by rw [append_received, h.received_eq, Ledger.append, hlen]
    discarded_add := by
      have := h.discarded_add
      rw [hdisc]
      change w.discarded + _ + l.consumed = _
      omega
    floor_le := by
      have := h.floor_le
      simp only [Ledger.append]
      omega
    front_eq := rfl }

theorem Tracks.startsFresh (h : Tracks capacity w l) : StartsFresh w.bytes := by
  rw [h.holds.bytes, h.front_eq, drop_nextFresh]
  exact startsFresh_dropWhile _

theorem Tracks.consume (h : Tracks capacity w l) (ho : Opening l.stream)
    {before after : List Char} (ht : w.text = before ++ after) :
    Tracks capacity (w.consume (size before)).2 (l.consume (size before)) := by
  have hfresh := h.startsFresh
  have hbytes := h.holds.bytes
  rw [hbytes] at hfresh
  obtain ⟨ds, r, hds, hr⟩ := (ho.drop hfresh).exists_encode_append
  rw [Window.text, hbytes, hds, text_encode_append _ hr] at ht
  subst ht
  have hrest : l.stream.drop (l.front + size before) = encode after ++ r := by
    rw [← List.drop_drop, hds, encode_append, List.append_assoc, ← length_encode, List.drop_left]
  have hle : l.front + size before ≤ l.stream.length := by
    have hlen := congrArg List.length hds
    rw [List.length_drop, List.length_append, length_encode, size_append] at hlen
    have := h.holds.le_length
    omega
  have hfresh : Fresh l.stream (l.front + size before) := by
    rw [fresh_iff hle, hrest]
    exact startsFresh_encode_append after hr
  have hbound : l.stream.length - capacity ≤ l.front := by
    rw [h.front_eq]
    exact (Nat.le_max_right _ _).trans (le_nextFresh _ _)
  exact {
    holds := ⟨by simp only [Window.consume, Ledger.consume, hbytes, List.drop_drop], hle⟩
    capacity_eq := h.capacity_eq
    received_eq := h.received_eq
    discarded_add := by
      have := h.discarded_add
      simp only [Window.consume, Ledger.consume]
      omega
    floor_le := hle
    front_eq := by
      simp only [Ledger.consume]
      rw [Nat.max_eq_left (by omega), nextFresh_eq_self hfresh] }

/-- Whatever is done with a window, it tracks the stream, as long as the stream opens a text. -/
theorem Traced.tracks (hc : 0 < capacity) (h : Traced capacity w l) (ho : Opening l.stream) :
    Tracks capacity w l := by
  induction h with
  | fresh => exact .fresh hc
  | append chunk _ ih => exact (ih (ho.of_prefix (List.prefix_append _ _))).append ho
  | consume _ ht ih => exact (ih ho).consume ho ht

/-- Behind every chunk a window holds the stream from the least offset on at which a character can
begin, nothing is consumed yet and the rest fits; its counters add up to that offset; and what it
holds depends only on the stream and on where the last consumption ended. -/
theorem append_bytes_isLeast (hc : 0 < capacity) (h : Traced capacity w l) {chunk : List UInt8}
    (ho : Opening (l.stream ++ chunk)) :
    (∃ p, IsLeast {q | max l.floor ((l.stream ++ chunk).length - capacity) ≤ q ∧
          Fresh (l.stream ++ chunk) q} p ∧
        (w.append chunk).bytes = (l.stream ++ chunk).drop p ∧
        (w.append chunk).received = (l.stream ++ chunk).length ∧
        (w.append chunk).discarded + l.consumed = p) ∧
      ∀ {w' : Window} {l' : Ledger} {chunk' : List UInt8}, Traced capacity w' l' →
        l'.stream ++ chunk' = l.stream ++ chunk → l'.floor = l.floor →
          (w'.append chunk').bytes = (w.append chunk).bytes := by
  have ht := (h.append chunk).tracks hc ho
  refine ⟨⟨_, nextFresh_isLeast ?_, ht.holds.bytes, ht.received_eq, ht.discarded_add⟩, ?_⟩
  · have := ht.floor_le
    simp only [Ledger.append] at this
    omega
  · intro w' l' chunk' h' hstream hfloor
    have ho' : Opening (l'.append capacity chunk').stream := by
      change Opening (l'.stream ++ chunk')
      rwa [hstream]
    have ht' := (h'.append chunk').tracks hc ho'
    rw [ht'.holds.bytes, ht.holds.bytes, Ledger.append, Ledger.append, hstream, hfloor]

/-- A chunk that pushes out the front of a character of which the window held the first byte. -/
theorem append_bytes_isLeast_inside_character :
    ∃ w l, Traced 4 w l ∧ l.stream = [0x61, 0xC3] ∧ l.floor = 1 ∧
      Opening (l.stream ++ [0xA9, 0x62, 0x63, 0x64]) ∧
      (∃ p, IsLeast {q | max l.floor ((l.stream ++ [0xA9, 0x62, 0x63, 0x64]).length - 4) ≤ q ∧
            Fresh (l.stream ++ [0xA9, 0x62, 0x63, 0x64]) q} p ∧
          (w.append [0xA9, 0x62, 0x63, 0x64]).bytes =
            (l.stream ++ [0xA9, 0x62, 0x63, 0x64]).drop p ∧
          (w.append [0xA9, 0x62, 0x63, 0x64]).received =
            (l.stream ++ [0xA9, 0x62, 0x63, 0x64]).length ∧
          (w.append [0xA9, 0x62, 0x63, 0x64]).discarded + l.consumed = p) ∧
      (w.append [0xA9, 0x62, 0x63, 0x64]).bytes = [0x62, 0x63, 0x64] := by
  have htext : ((Window.ofCapacity 4).append [0x61, 0xC3]).text = ['a'] ++ [] := by decide
  have ht : Traced 4 (((Window.ofCapacity 4).append [0x61, 0xC3]).consume 1).2
      ((({} : Ledger).append 4 [0x61, 0xC3]).consume 1) :=
    .consume (.append [0x61, 0xC3] .fresh) htext
  have ho : Opening [0x61, 0xC3, 0xA9, 0x62, 0x63, 0x64] := ⟨['a', 'é', 'b', 'c', 'd'], by decide⟩
  exact ⟨_, _, ht, rfl, rfl, ho, (append_bytes_isLeast (by decide) ht ho).1, by decide⟩

end Window
end Parley
