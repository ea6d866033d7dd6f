import Mathlib.Order.Bounds.Basic
import Parley.Proofs.Utf8.Opening

/-!
# Parley.Proofs.Utf8.Fresh

Offsets of a stream at which a character can begin.

* `nextFresh`: the first such offset from a given one on, or the end of the stream.
* `nextFresh_isLeast`: it is the least of them.
* `nextFresh_max`: looking on from a fresh offset of a shorter stream gives the same answer as
  looking from where that offset was found.
-/

namespace Parley
namespace Utf8

/-- Whether a character can begin at an offset; the end of the stream counts as well. -/
def Fresh (stream : List UInt8) (q : Nat) : Prop :=
  q = stream.length ∨ ∃ b, stream[q]? = some b ∧ isContinuation b = false

/-- The first fresh offset from `start` on. -/
def nextFresh (stream : List UInt8) (start : Nat) : Nat :=
  start + ((stream.drop start).takeWhile isContinuation).length

theorem Fresh.le_length {stream : List UInt8} {q : Nat} (h : Fresh stream q) :
    q ≤ stream.length := by
  rcases h with rfl | ⟨b, hb, -⟩
  · exact Nat.le_refl _
  · exact (List.getElem?_eq_some_iff.1 hb).1.le

theorem fresh_iff {stream : List UInt8} {q : Nat} (h : q ≤ stream.length) :
    Fresh stream q ↔ StartsFresh (stream.drop q) := by
  unfold Fresh StartsFresh
  rw [List.head?_drop]
  rcases Nat.eq_or_lt_of_le h with rfl | hlt
  · simp
  · rw [List.getElem?_eq_getElem hlt]
    simp only [Option.some.injEq, exists_eq_left', Option.mem_def, forall_eq']
    exact or_iff_right hlt.ne

theorem drop_nextFresh (stream : List UInt8) (start : Nat) :
    stream.drop (nextFresh stream start) = (stream.drop start).dropWhile isContinuation := by
  have hsplit := List.takeWhile_append_dropWhile (p := isContinuation) (l := stream.drop start)
  rw [nextFresh, ← List.drop_drop]
  have hdrop := congrArg (List.drop ((stream.drop start).takeWhile isContinuation).length) hsplit
  rw [List.drop_left] at hdrop
  exact hdrop.symm

theorem le_nextFresh (stream : List UInt8) (start : Nat) : start ≤ nextFresh stream start :=
  Nat.le_add_right _ _

theorem nextFresh_le_length {stream : List UInt8} {start : Nat} (h : start ≤ stream.length) :
    nextFresh stream start ≤ stream.length := by
  have hle := (List.takeWhile_sublist isContinuation (l := stream.drop start)).length_le
  rw [List.length_drop] at hle
  rw [nextFresh]
  omega

theorem startsFresh_dropWhile (bytes : List UInt8) :
    StartsFresh (bytes.dropWhile isContinuation) := by
  intro b hb
  have hhead := List.head?_dropWhile_not isContinuation bytes
  rw [Option.mem_def.1 hb] at hhead
  exact hhead

theorem dropWhile_of_startsFresh {bytes : List UInt8} (h : StartsFresh bytes) :
    bytes.dropWhile isContinuation = bytes := by
  cases bytes with
  | nil => rfl
  | cons b rest => exact List.dropWhile_cons_of_neg (by simp [h b rfl])

/-- Between an offset and the next fresh one all bytes stand inside a character. -/
theorem not_fresh_of_lt_nextFresh {stream : List UInt8} {start q : Nat}
    (h : start ≤ stream.length) (hle : start ≤ q) (hlt : q < nextFresh stream start) :
    ¬ Fresh stream q := by
  rintro (rfl | ⟨b, hb, hfresh⟩)
  · exact absurd (nextFresh_le_length h) (Nat.not_le_of_lt hlt)
  · obtain ⟨i, rfl⟩ := Nat.exists_eq_add_of_le hle
    have hi : i < ((stream.drop start).takeWhile isContinuation).length :=
      Nat.lt_of_add_lt_add_left hlt
    rw [← List.getElem?_drop, ← List.takeWhile_append_dropWhile (p := isContinuation)
      (l := stream.drop start), List.getElem?_append_left hi] at hb
    have hcont := List.mem_takeWhile_imp (List.mem_of_getElem? hb)
    rw [hfresh] at hcont
    cases hcont

theorem nextFresh_isLeast {stream : List UInt8} {start : Nat} (h : start ≤ stream.length) :
    IsLeast {q | start ≤ q ∧ Fresh stream q} (nextFresh stream start) := by
  refine ⟨⟨le_nextFresh _ _, ?_⟩, ?_⟩
  · rw [fresh_iff (nextFresh_le_length h), drop_nextFresh]
    exact startsFresh_dropWhile _
  · rintro q ⟨hle, hq⟩
    by_contra hlt
    exact not_fresh_of_lt_nextFresh h hle (Nat.lt_of_not_le hlt) hq

theorem nextFresh_eq_self {stream : List UInt8} {q : Nat} (h : Fresh stream q) :
    nextFresh stream q = q :=
  (nextFresh_isLeast h.le_length).unique ⟨⟨Nat.le_refl _, h⟩, fun _ hq => hq.1⟩

/-- More bytes leave the offsets before them as they are. -/
theorem fresh_of_fresh_append {stream more : List UInt8} {q : Nat} (h : q < stream.length)
    (hq : Fresh (stream ++ more) q) : Fresh stream q := by
  rcases hq with rfl | ⟨b, hb, hfresh⟩
  · rw [List.length_append] at h; omega
  · rw [List.getElem?_append_left h] at hb
    exact .inr ⟨b, hb, hfresh⟩

/-- Once the front of a stream has moved on to a fresh offset, it is where it would be had the
whole stream come at once. -/
theorem nextFresh_max (stream more : List UInt8) {start bound : Nat}
    (hs : start ≤ stream.length) (hb : bound ≤ (stream ++ more).length) :
    nextFresh (stream ++ more) (max (nextFresh stream start) bound) =
      nextFresh (stream ++ more) (max start bound) := by
  have hle : stream.length ≤ (stream ++ more).length := by simp
  have hstart := le_nextFresh stream start
  have hend := nextFresh_le_length hs
  have hset : {q | max (nextFresh stream start) bound ≤ q ∧ Fresh (stream ++ more) q} =
      {q | max start bound ≤ q ∧ Fresh (stream ++ more) q} := by
    ext q
    constructor
    · rintro ⟨hq, hf⟩
      exact ⟨by omega, hf⟩
    · rintro ⟨hq, hf⟩
      refine ⟨?_, hf⟩
      by_cases hlt : q < stream.length
      · have hnext := (nextFresh_isLeast hs).2 ⟨by omega, fresh_of_fresh_append hlt hf⟩
        omega
      · omega
  have hfrom : max (nextFresh stream start) bound ≤ (stream ++ more).length := by omega
  have hleast := nextFresh_isLeast hfrom
  rw [hset] at hleast
  exact hleast.unique (nextFresh_isLeast (by omega))

end Utf8
end Parley
