import Parley.Proofs.Utf8.Boundary
import Parley.Proofs.Window.Pursuit

/-!
# Parley.Proofs.Window.Overflow

A literal looked for in a window that overflows. Chunks that leave room for all but the last byte of
the literal push no part of it out before the whole of it has been seen.

* `Retains`: a window holds the end of a stream and has dropped no more than had to go.
* `Retains.appendAll`: every run of chunks keeps this.
* `Retains.find?_of_new`: a literal that is there since the last chunk is found.
* `literal_found_first`: a literal is first found when the stream first contains it.
-/

namespace Parley
namespace Window

open Utf8 Pattern

variable {w : Window} {stream chunk : List UInt8} {chunks : List (List UInt8)} {s : String}
  {o : Occurrence} {p : Nat}

/-- A window holds the end of a stream, and begins no later in it than it has to. -/
def Retains (w : Window) (stream : List UInt8) : Prop :=
  ∃ p, w.HoldsFrom stream p ∧ Fresh stream p ∧
    p ≤ nextFresh stream (stream.length - w.capacity)

theorem retains_self (ho : Opening w.bytes) : w.Retains w.bytes :=
  ⟨0, ⟨rfl, Nat.zero_le _⟩, (fresh_iff (Nat.zero_le _)).2 ho.startsFresh, Nat.zero_le _⟩

theorem Retains.opening (h : w.Retains stream) (ho : Opening stream) : Opening w.bytes := by
  obtain ⟨p, hholds, hfresh, -⟩ := h
  rw [hholds.bytes]
  exact ho.drop ((fresh_iff hholds.le_length).1 hfresh)

/-- A chunk moves the front of a window up to the place where the whole stream would have put it,
or leaves it where it was. -/
theorem Retains.append (h : w.Retains stream) (ho : Opening (stream ++ chunk)) :
    (w.append chunk).Retains (stream ++ chunk) := by
  obtain ⟨p, hholds, -, hle⟩ := h
  have hlen : (stream ++ chunk).length = stream.length + chunk.length := List.length_append
  have hold : nextFresh stream (stream.length - w.capacity) ≤
      nextFresh (stream ++ chunk) ((stream ++ chunk).length - w.capacity) := by
    have hstart : stream.length - w.capacity ≤ (stream ++ chunk).length - w.capacity := by omega
    have hmax := nextFresh_max stream chunk (Nat.sub_le stream.length w.capacity)
      (Nat.sub_le (stream ++ chunk).length w.capacity)
    rw [Nat.max_eq_right hstart] at hmax
    rw [← hmax]
    exact (Nat.le_max_left _ _).trans (le_nextFresh _ _)
  have hnext := nextFresh_isLeast (Nat.sub_le (stream ++ chunk).length w.capacity)
  have hstart : max p ((stream ++ chunk).length - w.capacity) ≤ (stream ++ chunk).length := by
    have := hholds.le_length
    omega
  obtain ⟨hafter, -⟩ := append_spec hholds ho rfl
  refine ⟨_, hafter, (nextFresh_isLeast hstart).1.2, ?_⟩
  rw [append_capacity]
  exact (nextFresh_isLeast hstart).2
    ⟨Nat.max_le.2 ⟨hle.trans hold, hnext.1.1⟩, hnext.1.2⟩

theorem Retains.appendAll (h : w.Retains stream) (ho : Opening (stream ++ chunks.flatten)) :
    (w.appendAll chunks).Retains (stream ++ chunks.flatten) := by
  induction chunks generalizing w stream with
  | nil =>
    rw [List.flatten_nil, List.append_nil]
    exact h
  | cons chunk chunks ih =>
    rw [List.flatten_cons, ← List.append_assoc] at ho ⊢
    exact ih (h.append (ho.of_prefix (List.prefix_append _ _))) ho

/-! ## Literals in a window -/

theorem matched_of_find?_literal (h : w.find? (.literal s) = some o) : (w.take o).1.matched = s := by
  obtain ⟨r, hr⟩ := encode_text_isPrefix w.bytes
  rcases find?_literal_cases s w.text with ⟨before, after, hleft, hfind⟩ | ⟨-, hfind⟩
  · obtain ⟨htaken, -⟩ := take_leftmost hleft hr.symm
    rw [find?, hfind, Option.some.injEq] at h
    subst h
    exact congrArg Prod.snd htaken
  · rw [find?, hfind] at h
    cases h

theorem Retains.infix_of_find? (h : w.Retains stream) (hf : w.find? (.literal s) ≠ none) :
    encode s.toList <:+: stream := by
  obtain ⟨p, hholds, -, -⟩ := h
  obtain ⟨o, ho⟩ := Option.ne_none_iff_exists'.1 hf
  obtain ⟨front, rest, htext⟩ := infix_of_find?_literal ho
  have hin : encode s.toList <:+: encode w.text :=
    ⟨encode front, encode rest, by rw [← htext, encode_append, encode_append]⟩
  have hbytes : w.bytes <:+ stream := hholds.bytes ▸ List.drop_suffix _ _
  exact (hin.trans (encode_text_isPrefix w.bytes).isInfix).trans hbytes.isInfix

theorem find?_of_held (ho : Opening w.bytes) (h : encode s.toList <:+: w.bytes) :
    w.find? (.literal s) ≠ none := by
  intro hnone
  exact find?_literal_eq_none_iff.1 hnone ((infix_text_iff ho).1 h)

/-- A literal that the stream contains only since the last chunk ends inside this chunk. So it
begins where the window still holds the stream, if there is room for the chunk and for all of the
literal but its last byte. -/
theorem Retains.find?_of_new (h : w.Retains (stream ++ chunk)) (ho : Opening (stream ++ chunk))
    (hlen : chunk.length ≤ w.capacity + 1 - size s.toList)
    (hnot : ¬ encode s.toList <:+: stream) (hin : encode s.toList <:+: stream ++ chunk) :
    w.find? (.literal s) ≠ none := by
  have hopen := h.opening ho
  obtain ⟨p, hholds, -, hle⟩ := h
  obtain ⟨front, rest, hsplit⟩ := hin
  have hsize := length_encode s.toList
  have hwhole : (stream ++ chunk).length = stream.length + chunk.length := List.length_append
  have hparts := congrArg List.length hsplit
  rw [List.length_append, List.length_append, hsize, hwhole] at hparts
  have hend : stream.length < front.length + size s.toList := by
    by_contra hge
    have hpre : front ++ encode s.toList <+: stream := by
      refine List.prefix_of_prefix_length_le ⟨rest, hsplit⟩ (List.prefix_append stream chunk) ?_
      rw [List.length_append, hsize]
      omega
    obtain ⟨more, hmore⟩ := hpre
    exact hnot ⟨front, more, hmore⟩
  have hnil : encode s.toList ≠ [] := by
    intro hnil
    exact hnot (hnil ▸ List.nil_infix)
  have hfresh : Fresh (stream ++ chunk) front.length := by
    rw [fresh_iff (by omega), ← hsplit, List.append_assoc, List.drop_left]
    exact startsFresh_append (opening_encode s.toList).startsFresh hnil rest
  have hbegin : p ≤ front.length := by
    refine hle.trans ((nextFresh_isLeast (Nat.sub_le _ _)).2 ⟨?_, hfresh⟩)
    omega
  have hheld : w.bytes = front.drop p ++ encode s.toList ++ rest := by
    rw [hholds.bytes, ← hsplit, List.append_assoc, List.append_assoc,
      List.drop_append_of_le_length hbegin]
  exact find?_of_held hopen ⟨_, _, hheld.symm⟩

/-! ## The first sight of a literal -/

/-- The stream so far, behind the first `n` chunks. -/
def seen (w : Window) (chunks : List (List UInt8)) (n : Nat) : List UInt8 :=
  w.bytes ++ (chunks.take n).flatten

theorem seen_zero : seen w chunks 0 = w.bytes := by
  simp [seen]

theorem seen_succ (n : Nat) : seen w chunks (n + 1) = seen w chunks n ++ (chunks[n]?).getD [] := by
  cases h : chunks[n]? <;> simp [seen, List.take_add_one, h]

theorem appendAll_take_retains (ho : Opening (w.bytes ++ chunks.flatten)) (n : Nat) :
    Opening (seen w chunks n) ∧ (w.appendAll (chunks.take n)).Retains (seen w chunks n) := by
  have hsplit := congrArg List.flatten (List.take_append_drop n chunks)
  rw [List.flatten_append] at hsplit
  have hseen : Opening (seen w chunks n) := by
    refine ho.of_prefix ⟨(chunks.drop n).flatten, ?_⟩
    rw [seen, List.append_assoc, hsplit]
  have hself := retains_self (ho.of_prefix (List.prefix_append _ _))
  exact ⟨hseen, hself.appendAll hseen⟩

theorem find?_or_before (ho : Opening (w.bytes ++ chunks.flatten))
    (hlen : ∀ chunk ∈ chunks, chunk.length ≤ w.capacity + 1 - size s.toList) {n : Nat}
    (hin : encode s.toList <:+: seen w chunks n) :
    (w.appendAll (chunks.take n)).find? (.literal s) ≠ none ∨
      ∃ m < n, encode s.toList <:+: seen w chunks m := by
  obtain ⟨hopen, hretains⟩ := appendAll_take_retains ho n
  cases n with
  | zero =>
    rw [seen_zero] at hin hopen
    rw [List.take_zero, appendAll_nil]
    exact .inl (find?_of_held hopen hin)
  | succ n =>
    by_cases hbefore : encode s.toList <:+: seen w chunks n
    · exact .inr ⟨n, Nat.lt_succ_self n, hbefore⟩
    · rw [seen_succ] at hin hopen hretains
      refine .inl (hretains.find?_of_new hopen ?_ hbefore hin)
      rw [appendAll_capacity]
      cases h : chunks[n]? with
      | none => exact Nat.zero_le _
      | some chunk => exact hlen chunk (List.mem_of_getElem? h)

/-- A literal is looked for in a window that may overflow, before the first chunk and behind each.
If the chunks leave room for all but one byte of the literal, it is first found at the point where
the stream first contains it, whatever was dropped by then, and what it takes is the literal. -/
theorem literal_found_first (w : Window) (s : String) {chunks : List (List UInt8)}
    (ho : Opening (w.bytes ++ chunks.flatten))
    (hlen : ∀ chunk ∈ chunks, chunk.length ≤ w.capacity + 1 - s.utf8ByteSize) :
    (∀ n, IsLeast {m | (w.appendAll (chunks.take m)).find? (.literal s) ≠ none} n ↔
      IsLeast {m | encode s.toList <:+: w.bytes ++ (chunks.take m).flatten} n) ∧
    ∀ n o, (w.appendAll (chunks.take n)).find? (.literal s) = some o →
      ((w.appendAll (chunks.take n)).take o).1.matched = s := by
  rw [utf8ByteSize_eq_size] at hlen
  have hsound {m : Nat} (hm : (w.appendAll (chunks.take m)).find? (.literal s) ≠ none) :
      encode s.toList <:+: seen w chunks m :=
    (appendAll_take_retains ho m).2.infix_of_find? hm
  refine ⟨?_, fun n o hfind => matched_of_find?_literal hfind⟩
  intro n
  constructor
  · rintro ⟨hfind, hleast⟩
    refine ⟨hsound hfind, ?_⟩
    -- the least point at which the stream contains the literal is one at which it is found
    intro m hm
    induction m using Nat.strongRecOn with
    | ind m ih =>
      rcases find?_or_before ho hlen hm with hfound | ⟨k, hk, hin⟩
      · exact hleast hfound
      · exact (ih k hk hin).trans hk.le
  · rintro ⟨hin, hleast⟩
    refine ⟨?_, fun m hm => hleast (hsound hm)⟩
    rcases find?_or_before ho hlen hin with hfound | ⟨m, hm, hearlier⟩
    · exact hfound
    · exact absurd (hleast hearlier) (Nat.not_le_of_lt hm)

/-- A literal in three chunks, the first of which also ends a character that has begun before. -/
def latecomer : List (List UInt8) := [[0x61, 0xC3], [0xA9, 0xE2], [0x9C, 0x93], [0x6F, 0x6B]]

/-- The literal fills all but one byte of the window. The last chunk pushes out the whole character
before it, of which only the first byte has to go. -/
theorem literal_found_first_latecomer :
    Opening ((Window.ofCapacity 6).bytes ++ latecomer.flatten) ∧
      (∀ chunk ∈ latecomer,
        chunk.length ≤ (Window.ofCapacity 6).capacity + 1 - "✓ok".utf8ByteSize) ∧
      IsLeast {m | encode "✓ok".toList <:+:
        (Window.ofCapacity 6).bytes ++ (latecomer.take m).flatten} 4 ∧
      ((Window.ofCapacity 6).appendAll (latecomer.take 4)).discarded = 3 ∧
      ∃ o, ((Window.ofCapacity 6).appendAll (latecomer.take 4)).find? (.literal "✓ok") = some o ∧
        (((Window.ofCapacity 6).appendAll (latecomer.take 4)).take o).1.matched = "✓ok" := by
  have ho : Opening ((Window.ofCapacity 6).bytes ++ latecomer.flatten) :=
    ⟨['a', 'é', '✓', 'o', 'k'], by decide⟩
  have hlen : ∀ chunk ∈ latecomer,
      chunk.length ≤ (Window.ofCapacity 6).capacity + 1 - "✓ok".utf8ByteSize := by decide
  obtain ⟨hfirst, htakes⟩ := literal_found_first (Window.ofCapacity 6) "✓ok" ho hlen
  have hnone : ∀ k < 4, ((Window.ofCapacity 6).appendAll (latecomer.take k)).find?
      (.literal "✓ok") = none := by decide +kernel
  have hfind : ((Window.ofCapacity 6).appendAll (latecomer.take 4)).find? (.literal "✓ok") =
      some { start := 0, stop := 5 } := by decide +kernel
  have hleast : IsLeast {m | ((Window.ofCapacity 6).appendAll (latecomer.take m)).find?
      (.literal "✓ok") ≠ none} 4 := by
    refine ⟨by rw [Set.mem_ofPred_eq, hfind]; exact Option.some_ne_none _, ?_⟩
    intro m hm
    by_contra hlt
    exact hm (hnone m (Nat.lt_of_not_le hlt))
  exact ⟨ho, hlen, (hfirst 4).1 hleast, by decide, _, hfind, htakes 4 _ hfind⟩

end Window
end Parley
