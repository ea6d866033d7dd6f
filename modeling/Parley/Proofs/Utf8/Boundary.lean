import Parley.Proofs.Utf8.Mended

/-!
# Parley.Proofs.Utf8.Boundary

Where the characters of an opening end.

* `begun_eq_nil_of_fresh`: behind a character that has begun no other one can begin.
* `exists_encode_of_fresh`: in front of a byte that begins a character all characters are whole.
* `infix_text_iff`: a text that stands in the bytes stands in the characters.
* `opening_of_weigh_lossy_le`: a lossy text that is no heavier than its stream replaces nothing.
-/

namespace Parley
namespace Utf8

variable {x y r : List UInt8} {cs ds : List Char}

theorem startsFresh_append (h : StartsFresh x) (hne : x ≠ []) (y : List UInt8) :
    StartsFresh (x ++ y) := by
  cases x with
  | nil => exact absurd rfl hne
  | cons b x => exact h

theorem Opening.startsFresh (h : Opening x) : StartsFresh x := by
  obtain ⟨cs, r, rfl, hr⟩ := h.exists_encode_append
  exact startsFresh_encode_append cs hr

theorem opening_encode_append (cs : List Char) (hr : Begun r) : Opening (encode cs ++ r) := by
  obtain ⟨c, t, hc, -⟩ := hr
  exact ⟨cs ++ [c], t, by simp [hc]⟩

/-- What follows some text in an opening is an opening too. -/
theorem Opening.exists_append_of_encode (h : Opening (encode ds ++ y)) :
    ∃ cs r, y = encode cs ++ r ∧ Begun r := by
  obtain ⟨es, r, hes, hr⟩ := h.exists_encode_append
  have hpre : ds <+: es := by
    have hfront : encode ds <+: encode es ++ r := ⟨y, hes⟩
    rw [encode_prefix_iff, text_encode_append es hr] at hfront
    exact hfront
  obtain ⟨cs, rfl⟩ := hpre
  rw [encode_append, List.append_assoc, List.append_cancel_left_eq] at hes
  exact ⟨cs, r, hes, hr⟩

theorem begun_eq_nil_of_fresh (hr : Begun r) (hy : StartsFresh y) (hne : y ≠ [])
    (ho : Opening (r ++ y)) : r = [] := by
  obtain ⟨b, rest, rfl⟩ := List.exists_cons_of_ne_nil hne
  by_contra hopen
  have hone : Opening (r ++ [b]) := ho.of_prefix ⟨rest, by simp⟩
  have hread : decode r = ⟨[], r⟩ := by simpa using decode_encode_append [] hr
  have hbreak : decode (r ++ [b]) = Decoder.read ⟨[.malformed r], []⟩ b := by
    have hstem := stem_pending r
    rw [decode_append, List.foldl_cons, List.foldl_nil, hread]
    rw [hread] at hstem
    exact Decoder.read_of_fresh hstem hopen (hy b rfl)
  obtain ⟨found, hfound⟩ := Decoder.pieces_suffix_read ⟨[.malformed r], []⟩ b
  have hclean := hone.hasMalformed_eq_false
  rw [hasMalformed, hbreak, ← hfound] at hclean
  simp [Piece.isChar] at hclean

theorem exists_encode_of_fresh (ho : Opening (x ++ y)) (hy : StartsFresh y) (hne : y ≠ []) :
    ∃ ds, x = encode ds := by
  obtain ⟨ds, r, rfl, hr⟩ := (ho.of_prefix (List.prefix_append x y)).exists_encode_append
  rw [List.append_assoc] at ho
  obtain ⟨cs, r', hcs, hr'⟩ := ho.exists_append_of_encode
  have hrest : Opening (r ++ y) := hcs ▸ opening_encode_append cs hr'
  exact ⟨ds, by rw [begun_eq_nil_of_fresh hr hy hne hrest, List.append_nil]⟩

theorem infix_text_iff (ho : Opening x) : encode cs <:+: x ↔ cs <:+: text x := by
  constructor
  · rintro ⟨front, rest, hx⟩
    by_cases hnil : cs = []
    · rw [hnil]
      exact List.nil_infix
    · obtain ⟨c, cs', rfl⟩ := List.exists_cons_of_ne_nil hnil
      have hfresh := (opening_encode (c :: cs')).startsFresh
      have hfull : encode (c :: cs') ≠ [] := by simp [encodeChar_ne_nil]
      rw [List.append_assoc] at hx
      obtain ⟨ds, rfl⟩ := exists_encode_of_fresh (by rw [hx]; exact ho)
        (startsFresh_append hfresh hfull rest) (by simp [encodeChar_ne_nil])
      have hpre : encode (ds ++ c :: cs') <+: x := ⟨rest, by rw [encode_append, ← hx]; simp⟩
      exact (List.suffix_append ds _).isInfix.trans (prefix_text hpre).isInfix
  · intro h
    obtain ⟨front, rest, htext⟩ := h
    have hin : encode cs <:+: encode (text x) :=
      ⟨encode front, encode rest, by rw [← htext, encode_append, encode_append]⟩
    exact hin.trans (encode_text_isPrefix x).isInfix

/-! ## Lossy texts of the same bytes -/

/-- The weight of a byte by which a replacement character outweighs all that it can stand for. Its
own first byte begins malformed parts of two bytes at most. -/
def heft (b : UInt8) : Nat := if b = 0xEF then 3 else 1

theorem heft_of_continuation {b : UInt8} (h : isContinuation b = true) : heft b = 1 := by
  rw [heft, if_neg]
  rintro rfl
  cases h

theorem weigh_heft_malformed (h : Stem r ∨ r.length = 1) :
    weigh heft r + 1 ≤ weigh heft (encodeChar replacement) := by
  have hbyte (b : UInt8) : heft b ≤ 3 := by
    unfold heft
    split <;> omega
  have hfive : weigh heft (encodeChar replacement) = 5 := by decide
  rw [hfive]
  rcases h with hstem | hone
  · cases hstem with
    | nil => simp
    | @lead a _ _ =>
      have := hbyte a
      simp only [weigh_cons, weigh_nil]
      omega
    | @second a b _ _ hs =>
      have := hbyte a
      have hb := heft_of_continuation ((Bool.and_eq_true _ _).mp hs).1
      simp only [weigh_cons, weigh_nil]
      omega
    | @third a b c ha _ hs hc =>
      have hfirst : heft a = 1 := by
        rw [heft, if_neg]
        rintro rfl
        exact absurd ha (by decide)
      have hb := heft_of_continuation ((Bool.and_eq_true _ _).mp hs).1
      have hc := heft_of_continuation hc
      simp only [weigh_cons, weigh_nil]
      omega
  · obtain ⟨b, rfl⟩ := List.length_eq_one_iff.1 hone
    have := hbyte b
    simp only [weigh_cons, weigh_nil]
    omega

/-- If the lossy text of a stream weighs no more than the stream, nothing in it was replaced. -/
theorem opening_of_weigh_lossy_le (h : weigh heft (encode (lossy x)) ≤ weigh heft x) :
    Opening x := by
  have hrun := Decoder.weigh_foldl_read (d := {}) (k := 1) (f := heft)
    (fun r hr => weigh_heft_malformed hr) Stem.nil x
  have hmended : weigh heft (mended x) ≤ weigh heft (encode (lossy x)) := by
    have hpending := weigh_heft_malformed (.inl (stem_pending x))
    rw [lossy_eq, mended, Decoder.mended, encode_append, weigh_append, weigh_append]
    split
    · next hnil => rw [hnil, encode_nil]
    · rw [encode_cons, encode_nil, List.append_nil]
      omega
  have hnone : faults (decode x).pieces = 0 := by
    change weigh heft [] + weigh heft x + 1 * faults (decode x).pieces ≤
      weigh heft (mended x) + 1 * 0 at hrun
    rw [weigh_nil] at hrun
    omega
  refine opening_of_hasMalformed_eq_false ?_
  rw [hasMalformed]
  simpa [faults, List.countP_eq_zero] using hnone

end Utf8
end Parley
