import Parley.Utf8

/-!
# Parley.Proofs.Utf8.Spelling

The bytes of one character, and what the reader of a stream makes of them one after another.

* `Spelling`: how the number of a character is spread over its bytes.
* `extend_encodeChar`: every byte of a character extends those before it, and the last one
  completes the character.
* `isContinuation_of_mem_tail`: only the first byte of a character can begin one.
* `toNat_eq_of_mem_encodeChar`: a byte below 128 is a whole character.
-/

namespace Parley
namespace Utf8

/-! ## Classes of bytes, by their numbers -/

theorem isContinuation_iff (b : UInt8) :
    isContinuation b = true ↔ 128 ≤ b.toNat ∧ b.toNat < 192 := by
  have h : ∀ n : Fin 256, isContinuation (UInt8.ofNat n) = true ↔ 128 ≤ n.val ∧ n.val < 192 := by
    decide +kernel
  simpa using h ⟨b.toNat, b.toNat_lt⟩

theorem isLead_iff (b : UInt8) : isLead b = true ↔ 194 ≤ b.toNat ∧ b.toNat ≤ 244 := by
  simp [isLead, UInt8.le_iff_toNat_le]

theorem isSecond_iff (a b : UInt8) :
    isSecond a b = true ↔ 128 ≤ b.toNat ∧ b.toNat < 192 ∧ (a.toNat = 224 → 160 ≤ b.toNat) ∧
      (a.toNat = 237 → b.toNat < 160) ∧ (a.toNat = 240 → 144 ≤ b.toNat) ∧
      (a.toNat = 244 → b.toNat < 144) := by
  simp only [isSecond, Bool.and_eq_true, isContinuation_iff, beq_iff_eq, ← UInt8.toNat_inj,
    UInt8.reduceToNat]
  repeat' split
  all_goals simp [UInt8.le_iff_toNat_le]; omega

/-! ## The bytes of a character -/

/-- How the number of a character is spread over its bytes. -/
inductive Spelling (c : Char) : List UInt8 → Prop
  | one {a : UInt8} : c.toNat < 128 → a.toNat = c.toNat → Spelling c [a]
  | two {a b : UInt8} : 128 ≤ c.toNat → c.toNat < 2048 → a.toNat = c.toNat / 64 + 192 →
      b.toNat = c.toNat % 64 + 128 → Spelling c [a, b]
  | three {a b d : UInt8} : 2048 ≤ c.toNat → c.toNat < 65536 → a.toNat = c.toNat / 4096 + 224 →
      b.toNat = c.toNat / 64 % 64 + 128 → d.toNat = c.toNat % 64 + 128 → Spelling c [a, b, d]
  | four {a b d e : UInt8} : 65536 ≤ c.toNat → a.toNat = c.toNat / 262144 + 240 →
      b.toNat = c.toNat / 4096 % 64 + 128 → d.toNat = c.toNat / 64 % 64 + 128 →
      e.toNat = c.toNat % 64 + 128 → Spelling c [a, b, d, e]

theorem valid_toNat (c : Char) : c.toNat < 55296 ∨ 57343 < c.toNat ∧ c.toNat < 1114112 := c.valid

theorem spelling_encodeChar (c : Char) : Spelling c (encodeChar c) := by
  have hv := valid_toNat c
  have hval : c.val.toNat = c.toNat := rfl
  unfold encodeChar String.utf8EncodeChar
  simp only [hval]
  split
  · exact .one (by omega) (by simp; omega)
  split
  · exact .two (by omega) (by omega) (by simp; omega) (by simp; omega)
  split
  · exact .three (by omega) (by omega) (by simp; omega) (by simp; omega) (by simp; omega)
  · exact .four (by omega) (by simp; omega) (by simp; omega) (by simp; omega) (by simp; omega)

/-! ## What a byte does -/

theorem extend_ascii {b : UInt8} (h : b.toNat < 128) :
    extend [] b = .whole (Char.ofNat b.toNat) := by
  simp [extend, UInt8.lt_iff_toNat_lt, h]

theorem extend_lead {b : UInt8} (h : 194 ≤ b.toNat) (h' : b.toNat ≤ 244) :
    extend [] b = .more [b] := by
  have hb : ¬ b.toNat < 128 := by omega
  have hl : isLead b = true := (isLead_iff b).2 ⟨h, h'⟩
  simp [extend, UInt8.lt_iff_toNat_lt, hb, hl]

theorem extend_second_whole {a b : UInt8} (h : isSecond a b = true) (ha : a.toNat < 224) :
    extend [a] b = .whole (Char.ofNat (a.toNat % 32 * 64 + low b)) := by
  simp [extend, UInt8.lt_iff_toNat_lt, h, ha]

theorem extend_second_more {a b : UInt8} (h : isSecond a b = true) (ha : 224 ≤ a.toNat) :
    extend [a] b = .more [a, b] := by
  have ha' : ¬ a.toNat < 224 := by omega
  simp [extend, UInt8.lt_iff_toNat_lt, h, ha']

theorem extend_third_whole {a b c : UInt8} (h : isContinuation c = true) (ha : a.toNat < 240) :
    extend [a, b] c = .whole (Char.ofNat ((a.toNat % 16 * 64 + low b) * 64 + low c)) := by
  simp [extend, UInt8.lt_iff_toNat_lt, h, ha]

theorem extend_third_more {a b c : UInt8} (h : isContinuation c = true) (ha : 240 ≤ a.toNat) :
    extend [a, b] c = .more [a, b, c] := by
  have ha' : ¬ a.toNat < 240 := by omega
  simp [extend, UInt8.lt_iff_toNat_lt, h, ha']

theorem extend_fourth {a b c d : UInt8} (h : isContinuation d = true) :
    extend [a, b, c] d =
      .whole (Char.ofNat (((a.toNat % 8 * 64 + low b) * 64 + low c) * 64 + low d)) := by
  simp [extend, h]

/-- A byte of a character completes it exactly if it is the last one. -/
theorem extend_encodeChar {c : Char} {r t : List UInt8} {b : UInt8}
    (h : encodeChar c = r ++ b :: t) :
    extend r b = if t = [] then .whole c else .more (r ++ [b]) := by
  have hv := valid_toNat c
  have hs := spelling_encodeChar c
  rw [h] at hs
  have hc {n : Nat} (hn : n = c.toNat) : Extension.whole (Char.ofNat n) = .whole c := by
    rw [hn, Char.ofNat_toNat]
  generalize hx : r ++ b :: t = bytes at hs
  cases hs with
  | one h0 ha =>
    rcases r with _ | ⟨x, r⟩ <;> simp at hx
    obtain ⟨rfl, rfl⟩ := hx
    rw [extend_ascii (by omega), if_pos rfl, hc ha]
  | two h0 h1 ha hb =>
    rcases r with _ | ⟨x, _ | ⟨y, r⟩⟩ <;> simp at hx
    · obtain ⟨rfl, rfl⟩ := hx
      rw [extend_lead (by omega) (by omega), if_neg (by simp)]; rfl
    · obtain ⟨rfl, rfl, rfl⟩ := hx
      rw [extend_second_whole (by rw [isSecond_iff]; omega) (by omega), if_pos rfl]
      exact hc (by simp only [low]; omega)
  | three h0 h1 ha hb hd =>
    rcases r with _ | ⟨x, _ | ⟨y, _ | ⟨z, r⟩⟩⟩ <;> simp at hx
    · obtain ⟨rfl, rfl⟩ := hx
      rw [extend_lead (by omega) (by omega), if_neg (by simp)]; rfl
    · obtain ⟨rfl, rfl, rfl⟩ := hx
      rw [extend_second_more (by rw [isSecond_iff]; omega) (by omega), if_neg (by simp)]; rfl
    · obtain ⟨rfl, rfl, rfl, rfl⟩ := hx
      rw [extend_third_whole (by rw [isContinuation_iff]; omega) (by omega), if_pos rfl]
      exact hc (by simp only [low]; omega)
  | four h0 ha hb hd he =>
    rcases r with _ | ⟨x, _ | ⟨y, _ | ⟨z, _ | ⟨w, r⟩⟩⟩⟩ <;> simp at hx
    · obtain ⟨rfl, rfl⟩ := hx
      rw [extend_lead (by omega) (by omega), if_neg (by simp)]; rfl
    · obtain ⟨rfl, rfl, rfl⟩ := hx
      rw [extend_second_more (by rw [isSecond_iff]; omega) (by omega), if_neg (by simp)]; rfl
    · obtain ⟨rfl, rfl, rfl, rfl⟩ := hx
      rw [extend_third_more (by rw [isContinuation_iff]; omega) (by omega), if_neg (by simp)]; rfl
    · obtain ⟨rfl, rfl, rfl, rfl, rfl⟩ := hx
      rw [extend_fourth (by rw [isContinuation_iff]; omega), if_pos rfl]
      exact hc (by simp only [low]; omega)

/-! ## Where a character can begin -/

/-- The first byte of a character, and those behind it. -/
theorem encodeChar_eq_cons (c : Char) :
    ∃ a t, encodeChar c = a :: t ∧ isContinuation a = false ∧
      ∀ b ∈ t, isContinuation b = true := by
  have hv := valid_toNat c
  have hcont {b : UInt8} (h : 128 ≤ b.toNat) (h' : b.toNat < 192) : isContinuation b = true :=
    (isContinuation_iff b).2 ⟨h, h'⟩
  have hlead {a : UInt8} (h : a.toNat < 128 ∨ 192 ≤ a.toNat) : isContinuation a = false := by
    rw [Bool.eq_false_iff, Ne, isContinuation_iff]; omega
  have hs := spelling_encodeChar c
  generalize encodeChar c = bytes at hs
  cases hs with
  | one h0 ha => exact ⟨_, _, rfl, hlead (by omega), by simp⟩
  | two h0 h1 ha hb =>
    refine ⟨_, _, rfl, hlead (by omega), ?_⟩
    intro x hx
    rw [List.mem_singleton] at hx
    exact hx ▸ hcont (by omega) (by omega)
  | three h0 h1 ha hb hd =>
    refine ⟨_, _, rfl, hlead (by omega), ?_⟩
    intro x hx
    simp only [List.mem_cons, List.not_mem_nil, or_false] at hx
    rcases hx with rfl | rfl <;> exact hcont (by omega) (by omega)
  | four h0 ha hb hd he =>
    refine ⟨_, _, rfl, hlead (by omega), ?_⟩
    intro x hx
    simp only [List.mem_cons, List.not_mem_nil, or_false] at hx
    rcases hx with rfl | rfl | rfl <;> exact hcont (by omega) (by omega)

theorem encodeChar_ne_nil (c : Char) : encodeChar c ≠ [] := String.utf8EncodeChar_ne_nil

/-- A byte below 128 stands for itself wherever it is found. -/
theorem toNat_eq_of_mem_encodeChar {c : Char} {b : UInt8} (hb : b ∈ encodeChar c)
    (h : b.toNat < 128) : b.toNat = c.toNat := by
  have hs := spelling_encodeChar c
  generalize encodeChar c = bytes at *
  cases hs with
  | one _ ha => rwa [List.mem_singleton.1 hb]
  | two _ _ ha hb' =>
    simp only [List.mem_cons, List.not_mem_nil, or_false] at hb
    rcases hb with rfl | rfl <;> omega
  | three _ _ ha hb' hd =>
    simp only [List.mem_cons, List.not_mem_nil, or_false] at hb
    rcases hb with rfl | rfl | rfl <;> omega
  | four _ ha hb' hd he =>
    simp only [List.mem_cons, List.not_mem_nil, or_false] at hb
    rcases hb with rfl | rfl | rfl | rfl <;> omega

/-- A byte with other bytes of its character in front of it begins none. -/
theorem isContinuation_of_mem_tail {c : Char} {r t : List UInt8} {b : UInt8}
    (h : encodeChar c = r ++ t) (hr : r ≠ []) (hb : b ∈ t) : isContinuation b = true := by
  obtain ⟨a, u, hc, -, hu⟩ := encodeChar_eq_cons c
  obtain ⟨x, r, rfl⟩ := List.exists_cons_of_ne_nil hr
  rw [hc, List.cons_append, List.cons.injEq] at h
  exact hu b (h.2 ▸ List.mem_append_right r hb)

end Utf8
end Parley
