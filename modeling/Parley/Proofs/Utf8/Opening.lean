import Mathlib.Data.List.Induction
import Mathlib.Data.List.TakeWhile
import Parley.Proofs.Utf8.Encode

/-!
# Parley.Proofs.Utf8.Opening

Streams that are the opening of some text: all of its bytes up to a place that may lie inside a
character.

* `Begun`: bytes that begin a character and leave it incomplete, or no bytes.
* `Opening.exists_encode_append`: an opening is whole characters and then a begun one.
* `decode_encode_append`: the reader finds exactly these parts.
* `Opening.drop`: behind a byte that begins a character an opening starts anew.
-/

namespace Parley
namespace Utf8

/-! ## Incomplete characters -/

/-- Bytes that begin a character and leave it incomplete, or no bytes. -/
def Begun (r : List UInt8) : Prop := ∃ c t, encodeChar c = r ++ t ∧ t ≠ []

theorem begun_nil : Begun [] := ⟨'a', encodeChar 'a', rfl, encodeChar_ne_nil 'a'⟩

/-- The bytes of a character are read to the character, and those that begin it are kept. -/
theorem foldl_read_encodeChar {c : Char} {r t : List UInt8} (h : encodeChar c = r ++ t)
    (ps : List Piece) :
    r.foldl Decoder.read ⟨ps, []⟩ = if t = [] then ⟨.char c :: ps, []⟩ else ⟨ps, r⟩ := by
  induction r using List.reverseRecOn generalizing t with
  | nil =>
    have ht : t ≠ [] := fun ht => encodeChar_ne_nil c (by rw [h, ht]; rfl)
    rw [if_neg ht]; rfl
  | append_singleton r b ih =>
    have hb : encodeChar c = r ++ b :: t := by rw [h, List.append_assoc]; rfl
    rw [List.foldl_append, ih hb, if_neg (List.cons_ne_nil b t), List.foldl_cons, List.foldl_nil,
      Decoder.read, extend_encodeChar hb]
    by_cases ht : t = []
    · rw [if_pos ht, if_pos ht]
    · rw [if_neg ht, if_neg ht]

theorem foldl_read_begun {r : List UInt8} (h : Begun r) (ps : List Piece) :
    r.foldl Decoder.read ⟨ps, []⟩ = ⟨ps, r⟩ := by
  obtain ⟨c, t, hc, ht⟩ := h
  rw [foldl_read_encodeChar hc, if_neg ht]

theorem foldl_read_encode (cs : List Char) (ps : List Piece) :
    (encode cs).foldl Decoder.read ⟨ps, []⟩ = ⟨(cs.map Piece.char).reverse ++ ps, []⟩ := by
  induction cs generalizing ps with
  | nil => rfl
  | cons c cs ih =>
    rw [encode_cons, List.foldl_append, foldl_read_encodeChar (List.append_nil _).symm, if_pos rfl,
      ih]
    simp

/-! ## What the reader finds -/

theorem decode_encode_append (cs : List Char) {r : List UInt8} (h : Begun r) :
    decode (encode cs ++ r) = ⟨(cs.map Piece.char).reverse, r⟩ := by
  rw [decode, List.foldl_append, foldl_read_encode, List.append_nil, foldl_read_begun h]

theorem text_encode_append (cs : List Char) {r : List UInt8} (h : Begun r) :
    text (encode cs ++ r) = cs := by
  have hall : ∀ p ∈ cs.map Piece.char, p.isChar = true := by simp [Piece.isChar]
  rw [text, decode_encode_append cs h, List.reverse_reverse, List.takeWhile_eq_self_iff.2 hall]
  simp [Function.comp_def, Piece.toChar]

@[simp] theorem text_encode (cs : List Char) : text (encode cs) = cs := by
  simpa using text_encode_append cs begun_nil

@[simp] theorem lossy_encode (cs : List Char) : lossy (encode cs) = cs := by
  have h := decode_encode_append cs begun_nil
  rw [List.append_nil] at h
  simp [lossy, h, Function.comp_def, Piece.toChar]

theorem hasMalformed_encode_append (cs : List Char) {r : List UInt8} (h : Begun r) :
    hasMalformed (encode cs ++ r) = false := by
  rw [hasMalformed, decode_encode_append cs h, List.any_reverse]
  simp [Piece.isChar]

theorem isText_encode (cs : List Char) : isText (encode cs) = true := by
  have h := decode_encode_append cs begun_nil
  have hm := hasMalformed_encode_append cs begun_nil
  rw [List.append_nil] at h hm
  simp [isText, h, hm]

/-! ## Openings -/

/-- A stream that some text begins with. -/
def Opening (bytes : List UInt8) : Prop := ∃ cs, bytes <+: encode cs

theorem opening_encode (cs : List Char) : Opening (encode cs) := ⟨cs, List.prefix_refl _⟩

theorem Opening.of_prefix {a b : List UInt8} (h : Opening b) (hab : a <+: b) : Opening a := by
  obtain ⟨cs, hcs⟩ := h
  exact ⟨cs, hab.trans hcs⟩

/-- An opening of a text is whole characters of it and then a begun one. -/
theorem exists_encode_append_of_prefix {bytes : List UInt8} {cs : List Char}
    (h : bytes <+: encode cs) :
    ∃ ds r, bytes = encode ds ++ r ∧ ds <+: cs ∧ Begun r := by
  induction cs generalizing bytes with
  | nil => exact ⟨[], [], by simpa using h, List.prefix_refl _, begun_nil⟩
  | cons c cs ih =>
    obtain ⟨y, hy⟩ := h
    rcases List.append_eq_append_iff.1 hy with ⟨t, ht, -⟩ | ⟨rest, rfl, hrest⟩
    · by_cases hnil : t = []
      · exact ⟨[c], [], by simp [ht, hnil], by simp, begun_nil⟩
      · exact ⟨[], bytes, rfl, List.nil_prefix, c, t, ht, hnil⟩
    · obtain ⟨ds, r, rfl, hds, hr⟩ := ih ⟨y, hrest.symm⟩
      exact ⟨c :: ds, r, by simp, List.cons_prefix_cons.2 ⟨rfl, hds⟩, hr⟩

theorem Opening.exists_encode_append {bytes : List UInt8} (h : Opening bytes) :
    ∃ ds r, bytes = encode ds ++ r ∧ Begun r := by
  obtain ⟨cs, hcs⟩ := h
  obtain ⟨ds, r, hb, -, hr⟩ := exists_encode_append_of_prefix hcs
  exact ⟨ds, r, hb, hr⟩

theorem Opening.hasMalformed_eq_false {bytes : List UInt8} (h : Opening bytes) :
    hasMalformed bytes = false := by
  obtain ⟨ds, r, rfl, hr⟩ := h.exists_encode_append
  exact hasMalformed_encode_append ds hr

/-- The whole characters at the front of a text's bytes, and what is left of the text. -/
theorem encode_text_append {a b : List UInt8} {cs : List Char} (h : a ++ b = encode cs) :
    ∃ ds r, cs = text a ++ ds ∧ a = encode (text a) ++ r ∧ Begun r ∧ r ++ b = encode ds := by
  obtain ⟨ds, r, rfl, ⟨es, rfl⟩, hr⟩ := exists_encode_append_of_prefix ⟨b, h⟩
  rw [encode_append, List.append_assoc, List.append_cancel_left_eq] at h
  exact ⟨es, r, by rw [text_encode_append _ hr], by rw [text_encode_append _ hr], hr, h⟩

/-- Whether a character can begin with the first byte, if there is one. -/
def StartsFresh (bytes : List UInt8) : Prop := ∀ b ∈ bytes.head?, isContinuation b = false

theorem startsFresh_encode_append (cs : List Char) {r : List UInt8} (h : Begun r) :
    StartsFresh (encode cs ++ r) := by
  intro b hb
  cases cs with
  | nil =>
    obtain ⟨c, t, hc, -⟩ := h
    obtain ⟨a, u, hau, ha, -⟩ := encodeChar_eq_cons c
    cases r with
    | nil => simp at hb
    | cons x r =>
      rw [hau, List.cons_append, List.cons.injEq] at hc
      simp only [encode_nil, List.nil_append, List.head?_cons, Option.mem_def,
        Option.some.injEq] at hb
      rw [← hb, ← hc.1, ha]
  | cons c cs =>
    obtain ⟨a, u, hau, ha, -⟩ := encodeChar_eq_cons c
    rw [encode_cons, hau] at hb
    simp only [List.cons_append, List.head?_cons, Option.mem_def, Option.some.injEq] at hb
    rw [← hb, ha]

/-- Inside a character no other one can begin. -/
theorem not_startsFresh_drop {c : Char} {n : Nat} (h : 0 < n) (h' : n < (encodeChar c).length)
    (x : List UInt8) : ¬ StartsFresh ((encodeChar c).drop n ++ x) := by
  intro hfresh
  have hr : (encodeChar c).take n ≠ [] := List.ne_nil_of_length_pos (by
    rw [List.length_take]; omega)
  have hsplit := (List.take_append_drop n (encodeChar c)).symm
  rw [List.drop_eq_getElem_cons h'] at hsplit hfresh
  have hcont := isContinuation_of_mem_tail hsplit hr List.mem_cons_self
  rw [hfresh _ rfl] at hcont
  cases hcont

/-- Wherever a character can begin in the bytes of a text, the rest of the text does. -/
theorem exists_drop_encode {cs : List Char} {n : Nat} (h : StartsFresh ((encode cs).drop n)) :
    ∃ es, (encode cs).drop n = encode es := by
  induction cs generalizing n with
  | nil => exact ⟨[], by simp⟩
  | cons c cs ih =>
    rw [encode_cons] at h ⊢
    by_cases hlt : n < (encodeChar c).length
    · rcases Nat.eq_zero_or_pos n with rfl | hpos
      · exact ⟨c :: cs, rfl⟩
      · rw [List.drop_append_of_le_length hlt.le] at h
        exact absurd h (not_startsFresh_drop hpos hlt _)
    · obtain ⟨m, rfl⟩ := Nat.exists_eq_add_of_le (Nat.le_of_not_lt hlt)
      rw [List.drop_length_add_append] at h ⊢
      exact ih h

/-- Behind the place where a character can begin an opening starts anew. -/
theorem Opening.drop {bytes : List UInt8} (h : Opening bytes) {n : Nat}
    (hn : StartsFresh (bytes.drop n)) : Opening (bytes.drop n) := by
  obtain ⟨cs, y, hy⟩ := h
  by_cases hnil : bytes.drop n = []
  · exact ⟨[], by simp [hnil]⟩
  have hle : n ≤ bytes.length := by
    by_contra hgt
    exact hnil (List.drop_eq_nil_of_le (by omega))
  have hdrop : (encode cs).drop n = bytes.drop n ++ y := by
    rw [← hy, List.drop_append_of_le_length hle]
  have hfresh : StartsFresh ((encode cs).drop n) := by
    obtain ⟨b, rest, hb⟩ := List.exists_cons_of_ne_nil hnil
    rw [hdrop, hb]
    rw [hb] at hn
    exact hn
  obtain ⟨es, hes⟩ := exists_drop_encode hfresh
  exact ⟨es, y, by rw [← hdrop, hes]⟩

end Utf8
end Parley
