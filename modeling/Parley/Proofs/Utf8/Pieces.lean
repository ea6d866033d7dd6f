import Parley.Proofs.Utf8.Opening

/-!
# Parley.Proofs.Utf8.Pieces

What the reader makes of any bytes at all. It loses none of them: they are the bytes of the pieces
that it has found, and behind these a character that has begun.

* `Stem`: how the bytes of a character that has begun look; `Stem.begun` completes them.
* `decode_bytes`: the pieces of a stream and what is left over are the stream.
* `encode_prefix_iff`: the text of a stream is the longest text that stands at its front.
* `begun_openTail`: the open tail of a stream begins a character.
-/

namespace Parley
namespace Utf8

variable {a b c d : UInt8} {r s : List UInt8} {x : Char}

/-! ## Characters from bytes -/

theorem Spelling.eq {t : List UInt8} (hs : Spelling x s) (ht : Spelling x t) : s = t := by
  cases hs <;> cases ht <;>
    simp only [List.cons.injEq, and_true, ← UInt8.toNat_inj, reduceCtorEq, and_false] <;> omega

theorem encodeChar_of_spelling (h : Spelling x s) : encodeChar x = s :=
  (spelling_encodeChar x).eq h

theorem toNat_ofNat {n : Nat} (h : n.isValidChar) : (Char.ofNat n).toNat = n := by
  rw [Char.ofNat, dif_pos h]
  rfl

theorem encodeChar_ascii (h : a.toNat < 128) : encodeChar (Char.ofNat a.toNat) = [a] := by
  have hn := toNat_ofNat (n := a.toNat) (.inl (by omega))
  exact encodeChar_of_spelling (.one (by omega) hn.symm)

theorem encodeChar_second (h : isSecond a b = true) (ha : 194 ≤ a.toNat) (ha' : a.toNat < 224) :
    encodeChar (Char.ofNat (a.toNat % 32 * 64 + low b)) = [a, b] := by
  rw [isSecond_iff] at h
  have hn := toNat_ofNat (n := a.toNat % 32 * 64 + low b)
    (by simp only [Nat.isValidChar, low]; omega)
  simp only [low] at hn ⊢
  exact encodeChar_of_spelling (.two (by omega) (by omega) (by omega) (by omega))

theorem encodeChar_third (h : isSecond a b = true) (hc : isContinuation c = true)
    (ha : 224 ≤ a.toNat) (ha' : a.toNat < 240) :
    encodeChar (Char.ofNat ((a.toNat % 16 * 64 + low b) * 64 + low c)) = [a, b, c] := by
  rw [isSecond_iff] at h
  rw [isContinuation_iff] at hc
  have hn := toNat_ofNat (n := (a.toNat % 16 * 64 + low b) * 64 + low c)
    (by simp only [Nat.isValidChar, low]; omega)
  simp only [low] at hn ⊢
  exact encodeChar_of_spelling (.three (by omega) (by omega) (by omega) (by omega) (by omega))

theorem encodeChar_fourth (h : isSecond a b = true) (hc : isContinuation c = true)
    (hd : isContinuation d = true) (ha : 240 ≤ a.toNat) (ha' : a.toNat ≤ 244) :
    encodeChar (Char.ofNat (((a.toNat % 8 * 64 + low b) * 64 + low c) * 64 + low d)) =
      [a, b, c, d] := by
  rw [isSecond_iff] at h
  rw [isContinuation_iff] at hc hd
  have hn := toNat_ofNat (n := ((a.toNat % 8 * 64 + low b) * 64 + low c) * 64 + low d)
    (by simp only [Nat.isValidChar, low]; omega)
  simp only [low] at hn ⊢
  exact encodeChar_of_spelling (.four (by omega) (by omega) (by omega) (by omega) (by omega))

/-! ## Characters that have begun -/

/-- How the bytes of a character that has begun look, or no bytes. -/
inductive Stem : List UInt8 → Prop
  | nil : Stem []
  | lead {a : UInt8} : 194 ≤ a.toNat → a.toNat ≤ 244 → Stem [a]
  | second {a b : UInt8} : 224 ≤ a.toNat → a.toNat ≤ 244 → isSecond a b = true → Stem [a, b]
  | third {a b c : UInt8} : 240 ≤ a.toNat → a.toNat ≤ 244 → isSecond a b = true →
      isContinuation c = true → Stem [a, b, c]

theorem Begun.of_append (h : Begun (r ++ s)) : Begun r := by
  obtain ⟨x, t, hx, ht⟩ := h
  exact ⟨x, s ++ t, by rw [hx, List.append_assoc], by simp [ht]⟩

theorem isContinuation_low : isContinuation 0x80 = true := rfl

/-- Every byte that begins a character has a second byte that goes with it. -/
theorem exists_isSecond (a : UInt8) : ∃ b, isSecond a b = true := by
  by_cases h : a.toNat = 224
  · exact ⟨0xA0, by rw [isSecond_iff]; simp; omega⟩
  · by_cases h' : a.toNat = 240
    · exact ⟨0x90, by rw [isSecond_iff]; simp; omega⟩
    · exact ⟨0x80, by rw [isSecond_iff]; simp; omega⟩

/-- Whatever has begun can be completed, so it begins a character. -/
theorem Stem.begun (h : Stem r) : Begun r := by
  have hthird {a b c : UInt8} (ha : 240 ≤ a.toNat) (ha' : a.toNat ≤ 244)
      (h : isSecond a b = true) (hc : isContinuation c = true) : Begun [a, b, c] :=
    ⟨_, [0x80], encodeChar_fourth h hc isContinuation_low ha ha', by simp⟩
  have hsecond {a b : UInt8} (ha : 224 ≤ a.toNat) (ha' : a.toNat ≤ 244)
      (h : isSecond a b = true) : Begun [a, b] := by
    by_cases hlt : a.toNat < 240
    · exact ⟨_, [0x80], encodeChar_third h isContinuation_low ha hlt, by simp⟩
    · exact (hthird (by omega) ha' h isContinuation_low).of_append (r := [a, b]) (s := [0x80])
  cases h with
  | nil => exact begun_nil
  | @lead a ha ha' =>
    obtain ⟨b, hb⟩ := exists_isSecond a
    by_cases hlt : a.toNat < 224
    · exact ⟨_, [b], encodeChar_second hb ha hlt, by simp⟩
    · exact (hsecond (by omega) ha' hb).of_append (r := [a]) (s := [b])
  | second ha ha' h => exact hsecond ha ha' h
  | third ha ha' h hc => exact hthird ha ha' h hc

/-- What has begun has at most three bytes. -/
theorem Begun.length_le (h : Begun r) : r.length ≤ 3 := by
  obtain ⟨x, t, hx, ht⟩ := h
  have hlen := congrArg List.length hx
  have hpos := List.length_pos_iff.2 ht
  have hfour := x.utf8Size_le_four
  rw [encodeChar, String.length_utf8EncodeChar, List.length_append] at hlen
  omega

theorem isLead_of_more {r' : List UInt8} (h : extend [] b = .more r') :
    r' = [b] ∧ 194 ≤ b.toNat ∧ b.toNat ≤ 244 := by
  by_cases hlt : b.toNat < 128
  · rw [extend_ascii hlt] at h
    cases h
  · by_cases hl : isLead b = true
    · obtain ⟨hb, hb'⟩ := (isLead_iff b).1 hl
      rw [extend_lead hb hb'] at h
      cases h
      exact ⟨rfl, hb, hb'⟩
    · simp [extend, UInt8.lt_iff_toNat_lt, hlt, hl] at h

theorem Stem.extend_more {r' : List UInt8} (h : Stem r) (he : extend r b = .more r') :
    r' = r ++ [b] ∧ Stem r' := by
  cases h with
  | nil =>
    obtain ⟨rfl, hb, hb'⟩ := isLead_of_more he
    exact ⟨rfl, .lead hb hb'⟩
  | @lead a ha ha' =>
    by_cases hs : isSecond a b = true
    · by_cases hlt : a.toNat < 224
      · rw [extend_second_whole hs hlt] at he
        cases he
      · rw [extend_second_more hs (by omega)] at he
        cases he
        exact ⟨rfl, .second (by omega) ha' hs⟩
    · simp [extend, hs] at he
  | @second a a₂ ha ha' hs =>
    by_cases hc : isContinuation b = true
    · by_cases hlt : a.toNat < 240
      · rw [extend_third_whole hc hlt] at he
        cases he
      · rw [extend_third_more hc (by omega)] at he
        cases he
        exact ⟨rfl, .third (by omega) ha' hs hc⟩
    · simp [extend, hc] at he
  | third _ _ _ _ =>
    by_cases hc : isContinuation b = true
    · rw [extend_fourth hc] at he
      cases he
    · simp [extend, hc] at he

theorem Stem.extend_whole (h : Stem r) (he : extend r b = .whole x) : encodeChar x = r ++ [b] := by
  cases h with
  | nil =>
    by_cases hlt : b.toNat < 128
    · rw [extend_ascii hlt] at he
      cases he
      exact encodeChar_ascii hlt
    · simp only [extend, UInt8.lt_iff_toNat_lt, UInt8.reduceToNat, hlt, if_false] at he
      split at he <;> cases he
  | @lead a ha ha' =>
    by_cases hs : isSecond a b = true
    · by_cases hlt : a.toNat < 224
      · rw [extend_second_whole hs hlt] at he
        cases he
        exact encodeChar_second hs ha hlt
      · rw [extend_second_more hs (by omega)] at he
        cases he
    · simp [extend, hs] at he
  | @second a a₂ ha ha' hs =>
    by_cases hc : isContinuation b = true
    · by_cases hlt : a.toNat < 240
      · rw [extend_third_whole hc hlt] at he
        cases he
        exact encodeChar_third hs hc ha hlt
      · rw [extend_third_more hc (by omega)] at he
        cases he
    · simp [extend, hc] at he
  | third ha ha' hs hc =>
    by_cases hd : isContinuation b = true
    · rw [extend_fourth hd] at he
      cases he
      exact encodeChar_fourth hs hc hd ha ha'
    · simp [extend, hd] at he

/-! ## The reader -/

/-- The bytes that a piece was read from. -/
def Piece.bytes : Piece → List UInt8
  | char x => encodeChar x
  | malformed bytes => bytes

/-- All bytes that were read. -/
def Decoder.bytes (d : Decoder) : List UInt8 := d.pieces.reverse.flatMap Piece.bytes ++ d.pending

/-- A reader keeps every byte that it reads, in order, and what it holds back has begun. -/
theorem Decoder.read_bytes {d : Decoder} (h : Stem d.pending) (b : UInt8) :
    (d.read b).bytes = d.bytes ++ [b] ∧ Stem (d.read b).pending := by
  unfold Decoder.read Decoder.bytes
  cases he : extend d.pending b with
  | whole x => simp [Piece.bytes, h.extend_whole he, Stem.nil]
  | more pending =>
    obtain ⟨rfl, hp⟩ := h.extend_more he
    exact ⟨by simp, hp⟩
  | broken =>
    cases hp : d.pending with
    | nil => simp [Piece.bytes, Stem.nil]
    | cons p rest =>
      -- the byte that breaks a character off is read again on its own
      cases he' : extend [] b with
      | whole x =>
        have hx := Stem.nil.extend_whole he'
        simp [Piece.bytes, hx, Stem.nil]
      | more pending =>
        obtain ⟨rfl, hs⟩ := Stem.nil.extend_more he'
        exact ⟨by simp [Piece.bytes], hs⟩
      | broken => simp [Piece.bytes, Stem.nil]

/-- A reader takes back no piece that it has found. -/
theorem Decoder.pieces_suffix_read (d : Decoder) (b : UInt8) : d.pieces <:+ (d.read b).pieces := by
  unfold Decoder.read
  cases extend d.pending b with
  | whole x => exact List.suffix_cons _ _
  | more pending => exact List.suffix_refl _
  | broken =>
    cases d.pending with
    | nil => exact List.suffix_cons _ _
    | cons p rest =>
      have hone := List.suffix_cons (Piece.malformed (p :: rest)) d.pieces
      cases extend [] b with
      | whole x => exact hone.trans (List.suffix_cons _ _)
      | more pending => exact hone
      | broken => exact hone.trans (List.suffix_cons _ _)

theorem foldl_read_bytes {d : Decoder} (h : Stem d.pending) (bytes : List UInt8) :
    (bytes.foldl Decoder.read d).bytes = d.bytes ++ bytes ∧
      Stem (bytes.foldl Decoder.read d).pending := by
  induction bytes generalizing d with
  | nil => simp [h]
  | cons b bytes ih =>
    obtain ⟨hbytes, hstem⟩ := d.read_bytes h b
    obtain ⟨hrest, hlast⟩ := ih hstem
    refine ⟨?_, hlast⟩
    rw [List.foldl_cons, hrest, hbytes, List.append_assoc]
    rfl

theorem pieces_suffix_foldl_read (d : Decoder) (bytes : List UInt8) :
    d.pieces <:+ (bytes.foldl Decoder.read d).pieces := by
  induction bytes generalizing d with
  | nil => exact List.suffix_refl _
  | cons b bytes ih => exact (d.pieces_suffix_read b).trans (ih _)

/-- The pieces of a stream and what is left over are the stream. -/
theorem decode_bytes (bytes : List UInt8) : (decode bytes).bytes = bytes :=
  (foldl_read_bytes (d := {}) Stem.nil bytes).1

theorem begun_pending (bytes : List UInt8) : Begun (decode bytes).pending :=
  (foldl_read_bytes (d := {}) Stem.nil bytes).2.begun

/-! ## Texts at the front -/

theorem flatMap_bytes_of_isChar {ps : List Piece} (h : ∀ p ∈ ps, p.isChar = true) :
    ps.flatMap Piece.bytes = encode (ps.map Piece.toChar) := by
  induction ps with
  | nil => rfl
  | cons p ps ih =>
    have hps : ∀ q ∈ ps, q.isChar = true := fun q hq => h q (List.mem_cons_of_mem p hq)
    rw [List.flatMap_cons, List.map_cons, encode_cons, ih hps]
    cases p with
    | char x => rfl
    | malformed bytes => cases h (.malformed bytes) List.mem_cons_self

/-- A stream begins with the bytes of its text. -/
theorem encode_text_isPrefix (bytes : List UInt8) : encode (text bytes) <+: bytes := by
  let ps := (decode bytes).pieces.reverse
  have hsplit : ps.takeWhile Piece.isChar ++ ps.dropWhile Piece.isChar = ps :=
    List.takeWhile_append_dropWhile
  have hchars : (ps.takeWhile Piece.isChar).flatMap Piece.bytes = encode (text bytes) :=
    flatMap_bytes_of_isChar fun p hp => List.mem_takeWhile_imp hp
  have hbytes : ps.flatMap Piece.bytes ++ (decode bytes).pending = bytes := decode_bytes bytes
  rw [← hsplit, List.flatMap_append, hchars, List.append_assoc] at hbytes
  exact ⟨_, hbytes⟩

/-- Every text at the front of a stream is a front of the stream's text. -/
theorem prefix_text {bytes : List UInt8} {cs : List Char} (h : encode cs <+: bytes) :
    cs <+: text bytes := by
  obtain ⟨rest, rfl⟩ := h
  have hread : decode (encode cs ++ rest) =
      rest.foldl Decoder.read ⟨(cs.map Piece.char).reverse, []⟩ := by
    rw [decode, List.foldl_append, foldl_read_encode, List.append_nil]
  obtain ⟨ps, hps⟩ := pieces_suffix_foldl_read ⟨(cs.map Piece.char).reverse, []⟩ rest
  have hall : ∀ p ∈ cs.map Piece.char, p.isChar = true := by simp [Piece.isChar]
  have hchars : (cs.map Piece.char).map Piece.toChar = cs := by
    simp [Function.comp_def, Piece.toChar]
  rw [text, hread, ← hps, List.reverse_append, List.reverse_reverse,
    List.takeWhile_append_of_pos hall, List.map_append, hchars]
  exact List.prefix_append _ _

theorem encode_prefix_encode {cs ds : List Char} (h : cs <+: ds) : encode cs <+: encode ds := by
  obtain ⟨es, rfl⟩ := h
  rw [encode_append]
  exact List.prefix_append _ _

/-- The text of a stream is the longest one whose bytes the stream begins with. -/
theorem encode_prefix_iff {bytes : List UInt8} {cs : List Char} :
    encode cs <+: bytes ↔ cs <+: text bytes :=
  ⟨prefix_text, fun h => (encode_prefix_encode h).trans (encode_text_isPrefix bytes)⟩

/-- A stream without malformed parts is its text and then a character that has begun. -/
theorem opening_of_hasMalformed_eq_false {bytes : List UInt8} (h : hasMalformed bytes = false) :
    Opening bytes := by
  have hall : ∀ p ∈ (decode bytes).pieces.reverse, p.isChar = true := by
    simpa [hasMalformed] using h
  obtain ⟨x, t, hx, -⟩ := begun_pending bytes
  have hbytes := decode_bytes bytes
  rw [Decoder.bytes, flatMap_bytes_of_isChar hall] at hbytes
  refine ⟨(decode bytes).pieces.reverse.map Piece.toChar ++ [x], ⟨t, ?_⟩⟩
  rw [encode_append, encode_cons, hx, encode_nil, List.append_nil, ← List.append_assoc, hbytes]

/-! ## The open tail -/

theorem begun_of_isOpen {bytes : List UInt8} (h : isOpen bytes = true) : Begun bytes := by
  simp only [isOpen, Bool.and_eq_true, List.isEmpty_iff] at h
  have hbytes := decode_bytes bytes
  rw [Decoder.bytes, h.1] at hbytes
  have hbegun := begun_pending bytes
  rw [show (decode bytes).pending = bytes from hbytes] at hbegun
  exact hbegun

theorem begun_openTailFrom (bytes : List UInt8) (back n : Nat) :
    Begun (openTailFrom bytes back n) := by
  induction n generalizing back with
  | zero => exact begun_nil
  | succ n ih =>
    rw [openTailFrom]
    split
    · next h => exact begun_of_isOpen h
    · split
      · exact ih (back + 1)
      · exact begun_nil

theorem begun_openTail (bytes : List UInt8) : Begun (openTail bytes) :=
  begun_openTailFrom bytes _ _

end Utf8
end Parley
