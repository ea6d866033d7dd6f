import Mathlib.Algebra.GroupWithZero.Nat
import Parley.Proofs.Utf8.Pieces

/-!
# Parley.Proofs.Utf8.Mended

A stream with a replacement character in place of each malformed part. An incomplete character at
its end stays as it is.

* `mended`: the bytes of such a stream.
* `mended_mended_append`: a stream that is mended at some cut, even inside a malformed part, comes
  to the same once the rest is there.
* `length_mended_append`: every byte of a stream takes up room when the stream is mended.
* `pending_eq_of_begun`: what a stream leaves incomplete shows at its end alone.
* `openTail_eq_pending`: the last three bytes are enough to find it.
-/

namespace Parley
namespace Utf8

variable {b : UInt8} {x y r : List UInt8}

/-! ## Reading on -/

namespace Decoder

/-- The characters that were found, with a replacement character for each malformed part. -/
def chars (d : Decoder) : List Char := d.pieces.reverse.map Piece.toChar

/-- The bytes that were read, with a replacement character for each malformed part. -/
def mended (d : Decoder) : List UInt8 := encode d.chars ++ d.pending

/-- What a reader finds does not depend on what it found before, but for what it holds back. -/
theorem read_eq (d : Decoder) (b : UInt8) :
    d.read b = ⟨(read ⟨[], d.pending⟩ b).pieces ++ d.pieces, (read ⟨[], d.pending⟩ b).pending⟩ := by
  unfold read
  cases extend d.pending b with
  | whole c => rfl
  | more pending => rfl
  | broken =>
    cases d.pending with
    | nil => rfl
    | cons p rest => cases extend [] b <;> rfl

theorem foldl_read_eq (d : Decoder) (bytes : List UInt8) :
    bytes.foldl read d =
      ⟨(bytes.foldl read ⟨[], d.pending⟩).pieces ++ d.pieces,
        (bytes.foldl read ⟨[], d.pending⟩).pending⟩ := by
  induction bytes generalizing d with
  | nil => rfl
  | cons b bytes ih =>
    rw [List.foldl_cons, List.foldl_cons, ih, ih (read ⟨[], d.pending⟩ b), d.read_eq b]
    simp only [List.append_assoc]

theorem read_of_fresh {d : Decoder} (hd : Stem d.pending) (hp : d.pending ≠ [])
    (hb : isContinuation b = false) :
    d.read b = read ⟨.malformed d.pending :: d.pieces, []⟩ b := by
  have hbroken : extend d.pending b = .broken := by
    cases h : d.pending with
    | nil => exact absurd h hp
    | cons p rest =>
      rw [h] at hd
      cases hd with
      | lead _ _ => simp [extend, isSecond, hb]
      | second _ _ _ => simp [extend, hb]
      | third _ _ _ _ => simp [extend, hb]
  rw [read, hbroken]
  cases h : d.pending with
  | nil => exact absurd h hp
  | cons p rest => rfl

end Decoder

theorem decode_append (x y : List UInt8) :
    decode (x ++ y) = y.foldl Decoder.read (decode x) := List.foldl_append

theorem stem_pending (x : List UInt8) : Stem (decode x).pending :=
  (foldl_read_bytes (d := {}) Stem.nil x).2

theorem chars_decode_append (x y : List UInt8) :
    (decode (x ++ y)).chars =
      (decode x).chars ++ (y.foldl Decoder.read ⟨[], (decode x).pending⟩).chars := by
  rw [decode_append, Decoder.foldl_read_eq]
  simp [Decoder.chars]

theorem pending_decode_append (x y : List UInt8) :
    (decode (x ++ y)).pending = (y.foldl Decoder.read ⟨[], (decode x).pending⟩).pending := by
  rw [decode_append, Decoder.foldl_read_eq]

/-! ## Behind a text -/

/-- Behind a text the reader finds what it finds without the text. -/
theorem decode_behind (cs : List Char) (x : List UInt8) :
    decode (encode cs ++ x) =
      ⟨(decode x).pieces ++ (cs.map Piece.char).reverse, (decode x).pending⟩ := by
  rw [decode_append, decode, foldl_read_encode, List.append_nil, Decoder.foldl_read_eq]
  rfl

theorem lossy_behind (cs : List Char) (x : List UInt8) :
    lossy (encode cs ++ x) = cs ++ lossy x := by
  rw [lossy, decode_behind, lossy]
  split <;> simp [Function.comp_def, Piece.toChar]

theorem text_behind (cs : List Char) (x : List UInt8) : text (encode cs ++ x) = cs ++ text x := by
  have hall : ∀ p ∈ cs.map Piece.char, p.isChar = true := by simp [Piece.isChar]
  rw [text, decode_behind, List.reverse_append, List.reverse_reverse,
    List.takeWhile_append_of_pos hall, List.map_append, text]
  simp [Function.comp_def, Piece.toChar]

/-! ## Mended streams -/

/-- A stream with a replacement character for each malformed part. -/
def mended (x : List UInt8) : List UInt8 := (decode x).mended

@[simp] theorem mended_nil : mended [] = [] := rfl

theorem decode_mended (x : List UInt8) :
    decode (mended x) = ⟨((decode x).chars.map Piece.char).reverse, (decode x).pending⟩ :=
  decode_encode_append _ (begun_pending x)

@[simp] theorem chars_decode_mended (x : List UInt8) :
    (decode (mended x)).chars = (decode x).chars := by
  rw [decode_mended, Decoder.chars, List.reverse_reverse, List.map_map]
  exact List.map_id _

@[simp] theorem pending_decode_mended (x : List UInt8) :
    (decode (mended x)).pending = (decode x).pending := by
  rw [decode_mended]

/-- Mending early changes nothing: what is replaced is what would be replaced in the end. -/
theorem mended_mended_append (x y : List UInt8) : mended (mended x ++ y) = mended (x ++ y) := by
  rw [mended.eq_def (mended x ++ y), mended.eq_def (x ++ y), Decoder.mended, Decoder.mended,
    chars_decode_append, chars_decode_append, pending_decode_append, pending_decode_append,
    chars_decode_mended, pending_decode_mended]

theorem text_mended (x : List UInt8) : text (mended x) = (decode x).chars :=
  text_encode_append _ (begun_pending x)

theorem startsFresh_mended (x : List UInt8) : StartsFresh (mended x) :=
  startsFresh_encode_append _ (begun_pending x)

theorem mended_of_hasMalformed_eq_false (h : hasMalformed x = false) : mended x = x := by
  have hall : ∀ p ∈ (decode x).pieces.reverse, p.isChar = true := by simpa [hasMalformed] using h
  have hbytes := decode_bytes x
  rw [Decoder.bytes, flatMap_bytes_of_isChar hall] at hbytes
  exact hbytes

theorem mended_of_opening (h : Opening x) : mended x = x :=
  mended_of_hasMalformed_eq_false h.hasMalformed_eq_false

theorem mended_append_of_pending_eq_nil (h : (decode x).pending = []) :
    mended (x ++ y) = mended x ++ mended y := by
  simp only [mended, Decoder.mended, chars_decode_append, pending_decode_append, h, encode_append,
    List.append_assoc, List.nil_append]
  rfl

/-! ## Lossy texts -/

theorem lossy_eq (x : List UInt8) :
    lossy x = (decode x).chars ++ if (decode x).pending = [] then [] else [replacement] := by
  simp only [lossy, Decoder.chars, List.isEmpty_iff]
  split <;> simp [Piece.toChar]

@[simp] theorem lossy_mended (x : List UInt8) : lossy (mended x) = lossy x := by
  rw [lossy_eq, lossy_eq, chars_decode_mended, pending_decode_mended]

/-- Once the bytes that are held back are left away, the characters are all that was found. -/
theorem lossy_of_append_pending (h : x = y ++ (decode x).pending) : lossy y = (decode x).chars := by
  induction x using List.reverseRecOn generalizing y with
  | nil =>
    obtain ⟨rfl, -⟩ := List.append_eq_nil_iff.1 h.symm
    rfl
  | append_singleton x b ih =>
    have hwhole {pieces : List Piece} (hd : decode (x ++ [b]) = ⟨pieces, []⟩) :
        lossy y = (decode (x ++ [b])).chars := by
      rw [hd, List.append_nil] at h
      rw [← h, lossy_eq, hd, if_pos rfl, List.append_nil]
    have hread : decode (x ++ [b]) = (decode x).read b := decode_append x [b]
    cases he : extend (decode x).pending b with
    | whole c => exact hwhole (by rw [hread, Decoder.read, he])
    | more pending =>
      obtain ⟨rfl, -⟩ := (stem_pending x).extend_more he
      rw [Decoder.read, he] at hread
      rw [hread, ← List.append_assoc] at h
      rw [hread]
      exact ih (List.append_cancel_right h)
    | broken =>
      rw [Decoder.read, he] at hread
      cases hp : (decode x).pending with
      | nil => exact hwhole (by rw [hread, hp])
      | cons p rest =>
        rw [hp] at hread
        cases he' : extend [] b with
        | whole c => exact hwhole (by rw [hread, he'])
        | broken => exact hwhole (by rw [hread, he'])
        | more pending =>
          -- the byte is the first of the next character, and ends the one before it
          obtain ⟨rfl, -⟩ := isLead_of_more he'
          rw [he'] at hread
          rw [hread] at h
          rw [← List.append_cancel_right h, lossy_eq, hread, hp, if_neg (List.cons_ne_nil p rest)]
          simp [Decoder.chars, Piece.toChar]

/-! ## Weights -/

/-- The weight of some bytes, each of which has a weight of its own. -/
def weigh (f : UInt8 → Nat) (x : List UInt8) : Nat := (x.map f).sum

variable {f : UInt8 → Nat}

@[simp] theorem weigh_nil : weigh f [] = 0 := rfl

@[simp] theorem weigh_cons : weigh f (b :: x) = f b + weigh f x := rfl

@[simp] theorem weigh_append : weigh f (x ++ y) = weigh f x + weigh f y := by
  rw [weigh, List.map_append, List.sum_append]
  rfl

theorem weigh_one (x : List UInt8) : weigh (fun _ => 1) x = x.length := by
  induction x with
  | nil => rfl
  | cons b x ih => rw [weigh_cons, ih, List.length_cons, Nat.add_comm]

/-- How many of some pieces are malformed. -/
def faults (ps : List Piece) : Nat := ps.countP (!·.isChar)

namespace Decoder

variable {ps : List Piece} {c : Char}

theorem faults_char : faults (.char c :: ps) = faults ps :=
  List.countP_cons_of_neg (by simp [Piece.isChar])

theorem faults_malformed : faults (.malformed x :: ps) = faults ps + 1 :=
  List.countP_cons_of_pos (by simp [Piece.isChar])

theorem weigh_mended_eq : weigh f (mended ⟨ps, r⟩) = weigh f (mended ⟨ps, []⟩) + weigh f r := by
  simp [mended, chars]

theorem weigh_mended_char :
    weigh f (mended ⟨.char c :: ps, []⟩) = weigh f (mended ⟨ps, []⟩) + weigh f (encodeChar c) := by
  simp [mended, chars, Piece.toChar]

theorem weigh_mended_malformed :
    weigh f (mended ⟨.malformed x :: ps, []⟩) =
      weigh f (mended ⟨ps, []⟩) + weigh f (encodeChar replacement) := by
  simp [mended, chars, Piece.toChar]

/-- If a malformed part is lighter by `k` than what takes its place, then what was read is lighter
than the mended stream by `k` for each malformed part. -/
theorem weigh_read {k : Nat}
    (hf : ∀ r, Stem r ∨ r.length = 1 → weigh f r + k ≤ weigh f (encodeChar replacement))
    {d : Decoder} (hd : Stem d.pending) (b : UInt8) :
    weigh f d.mended + f b + k * faults (d.read b).pieces ≤
      weigh f (d.read b).mended + k * faults d.pieces := by
  have hone : weigh f [b] = f b := Nat.add_zero _
  have hb : f b + k ≤ weigh f (encodeChar replacement) := hone ▸ hf [b] (.inr rfl)
  obtain ⟨ps, r⟩ := d
  have hr : weigh f r + k ≤ weigh f (encodeChar replacement) := hf r (.inl hd)
  rw [weigh_mended_eq, read]
  cases he : extend r b with
  | whole c =>
    have hc := congrArg (weigh f) (hd.extend_whole he)
    rw [weigh_append, hone] at hc
    simp only [weigh_mended_char, faults_char, hc]
    omega
  | more pending =>
    obtain ⟨rfl, -⟩ := hd.extend_more he
    simp only [weigh_mended_eq (r := r ++ [b]), weigh_append, hone]
    omega
  | broken =>
    cases r with
    | nil =>
      simp only [weigh_mended_malformed, faults_malformed, Nat.mul_add, weigh_nil]
      omega
    | cons p rest =>
      -- what has begun is malformed, and the byte is read as it would be at the start
      cases he' : extend [] b with
      | whole c =>
        have hc := congrArg (weigh f) (Stem.nil.extend_whole he')
        rw [List.nil_append, hone] at hc
        simp only [weigh_mended_char, weigh_mended_malformed, faults_char, faults_malformed,
          Nat.mul_add, hc]
        omega
      | more pending =>
        obtain ⟨rfl, -⟩ := isLead_of_more he'
        simp only [weigh_mended_eq (r := [b]), weigh_mended_malformed, faults_malformed,
          Nat.mul_add, hone]
        omega
      | broken =>
        simp only [weigh_mended_malformed, faults_malformed, Nat.mul_add]
        omega

theorem weigh_foldl_read {k : Nat}
    (hf : ∀ r, Stem r ∨ r.length = 1 → weigh f r + k ≤ weigh f (encodeChar replacement))
    {d : Decoder} (hd : Stem d.pending) (bytes : List UInt8) :
    weigh f d.mended + weigh f bytes + k * faults (bytes.foldl read d).pieces ≤
      weigh f (bytes.foldl read d).mended + k * faults d.pieces := by
  induction bytes generalizing d with
  | nil => exact Nat.le_refl _
  | cons b bytes ih =>
    have hstep := weigh_read hf hd b
    have hrest := ih (d.read_bytes hd b).2
    rw [List.foldl_cons, weigh_cons]
    omega

end Decoder

/-! ## Sizes -/

theorem length_encodeChar_replacement : (encodeChar replacement).length = 3 := by decide

theorem length_mended_append (x y : List UInt8) :
    (mended x).length + y.length ≤ (mended (x ++ y)).length := by
  have hshort : ∀ r, Stem r ∨ r.length = 1 →
      weigh (fun _ => 1) r + 0 ≤ weigh (fun _ => 1) (encodeChar replacement) := by
    intro r hr
    rw [weigh_one, weigh_one, length_encodeChar_replacement]
    rcases hr with hstem | hone
    · exact hstem.begun.length_le
    · omega
  have hrun := Decoder.weigh_foldl_read hshort (stem_pending x) y
  rw [← decode_append, weigh_one, weigh_one, weigh_one] at hrun
  change (decode x).mended.length + y.length ≤ (decode (x ++ y)).mended.length
  omega

theorem length_le_length_mended (x : List UInt8) : x.length ≤ (mended x).length := by
  have h := length_mended_append [] x
  rw [mended_nil, List.length_nil, List.nil_append, Nat.zero_add] at h
  exact h

theorem length_mended_le_size_lossy (x : List UInt8) : (mended x).length ≤ size (lossy x) := by
  have hlen := (begun_pending x).length_le
  rw [mended, Decoder.mended, List.length_append, length_encode, lossy_eq, size_append]
  split
  · next h => rw [h, List.length_nil, size_nil]
  · rw [← length_encode [replacement], encode_cons, encode_nil, List.append_nil,
      length_encodeChar_replacement]
    omega

/-! ## What is held back -/

theorem Begun.startsFresh (h : Begun r) : StartsFresh r := startsFresh_encode_append [] h

/-- Bytes that begin a character are held back behind whatever stands in front of them. -/
theorem pending_append_of_begun (x : List UInt8) (hr : Begun r) (hne : r ≠ []) :
    (decode (x ++ r)).pending = r := by
  cases r with
  | nil => exact absurd rfl hne
  | cons a t =>
    have hfresh : isContinuation a = false := hr.startsFresh a rfl
    rw [decode_append, List.foldl_cons]
    by_cases hp : (decode x).pending = []
    · have hd : decode x = ⟨(decode x).pieces, []⟩ := by rw [← hp]
      rw [hd, ← List.foldl_cons, foldl_read_begun hr]
    · rw [Decoder.read_of_fresh (stem_pending x) hp hfresh, ← List.foldl_cons, foldl_read_begun hr]

theorem exists_append_pending (x : List UInt8) : ∃ front, x = front ++ (decode x).pending :=
  ⟨_, (decode_bytes x).symm⟩

theorem pending_eq_of_begun (hs : r <:+ x) (hr : Begun r) (hne : r ≠ []) :
    (decode x).pending = r := by
  obtain ⟨front, rfl⟩ := hs
  exact pending_append_of_begun front hr hne

theorem pending_eq_nil_of_continuation (h : ∀ b ∈ x, isContinuation b = true) :
    (decode x).pending = [] := by
  obtain ⟨front, hx⟩ := exists_append_pending x
  have hfresh := (begun_pending x).startsFresh
  cases hp : (decode x).pending with
  | nil => rfl
  | cons a t =>
    rw [hp] at hx hfresh
    have hcont := h a (by rw [hx]; simp)
    rw [hfresh a rfl] at hcont
    cases hcont

/-- A stream takes up no more room when the bytes in front that begin no character are dropped. -/
theorem length_mended_dropWhile_append_le (x y : List UInt8) :
    (mended (x.dropWhile isContinuation ++ y)).length ≤ (mended (x ++ y)).length := by
  have hsplit := List.takeWhile_append_dropWhile (p := isContinuation) (l := x)
  have hnil : (decode (x.takeWhile isContinuation)).pending = [] :=
    pending_eq_nil_of_continuation fun b hb => List.mem_takeWhile_imp hb
  have hlen := congrArg List.length
    (mended_append_of_pending_eq_nil (y := x.dropWhile isContinuation ++ y) hnil)
  rw [← List.append_assoc, hsplit, List.length_append] at hlen
  omega

theorem isOpen_iff : isOpen r = true ↔ Begun r ∧ r ≠ [] := by
  constructor
  · intro h
    refine ⟨begun_of_isOpen h, ?_⟩
    rintro rfl
    cases h
  · rintro ⟨hr, hne⟩
    have hd := decode_encode_append [] hr
    rw [encode_nil, List.nil_append] at hd
    simp [isOpen, hd, hne]

theorem head_drop_of_begun (hr : Begun r) {n : Nat} (hpos : 0 < n) (hn : n < r.length) :
    ∃ b rest, r.drop n = b :: rest ∧ isContinuation b = true := by
  obtain ⟨c, t, hc, -⟩ := hr
  have hsplit : encodeChar c = r.take n ++ (r.drop n ++ t) := by
    rw [← List.append_assoc, List.take_append_drop, hc]
  have hne : r.take n ≠ [] := List.ne_nil_of_length_pos (by rw [List.length_take]; omega)
  rw [List.drop_eq_getElem_cons hn] at hsplit ⊢
  exact ⟨_, _, rfl,
    isContinuation_of_mem_tail hsplit hne (List.mem_append_left t List.mem_cons_self)⟩

theorem openTailFrom_eq_nil (hp : (decode x).pending = []) (back n : Nat) :
    openTailFrom x back n = [] := by
  induction n generalizing back with
  | zero => rfl
  | succ n ih =>
    have hclosed : ¬ isOpen (x.drop (x.length - back)) = true := by
      intro h
      obtain ⟨hbegun, hne⟩ := isOpen_iff.1 h
      rw [pending_eq_of_begun (List.drop_suffix _ x) hbegun hne] at hp
      exact hne hp
    rw [openTailFrom, if_neg hclosed]
    split
    · exact ih (back + 1)
    · rfl

/-- The search finds what is held back if it begins behind its first byte and goes far enough. -/
theorem openTailFrom_eq_pending {back n : Nat} (hpos : 0 < back)
    (hle : back ≤ (decode x).pending.length) (hlt : (decode x).pending.length < back + n) :
    openTailFrom x back n = (decode x).pending := by
  obtain ⟨front, hx⟩ := exists_append_pending x
  have hbegun := begun_pending x
  generalize (decode x).pending = r at *
  have hlen : x.length = front.length + r.length := by rw [hx, List.length_append]
  have hlast {k : Nat} (hk : k ≤ r.length) : x.drop (x.length - k) = r.drop (r.length - k) := by
    obtain ⟨m, hm⟩ : ∃ m, r.length = k + m := ⟨r.length - k, by omega⟩
    rw [hlen, show front.length + r.length - k = front.length + m by omega, hx,
      List.drop_length_add_append, hm, Nat.add_sub_cancel_left]
  induction n generalizing back with
  | zero => omega
  | succ n ih =>
    rw [openTailFrom, hlast hle]
    by_cases hall : back = r.length
    · have hopen : isOpen r = true :=
        isOpen_iff.2 ⟨hbegun, List.ne_nil_of_length_pos (by omega)⟩
      rw [hall, Nat.sub_self, List.drop_zero, if_pos hopen]
    · obtain ⟨b, rest, hdrop, hcont⟩ :=
        head_drop_of_begun hbegun (n := r.length - back) (by omega) (by omega)
      have hclosed : ¬ isOpen (r.drop (r.length - back)) = true := by
        intro h
        have hfresh := (isOpen_iff.1 h).1.startsFresh
        rw [hdrop] at hfresh
        rw [hfresh b rfl] at hcont
        cases hcont
      rw [if_neg hclosed, hdrop, if_pos (by simpa using hcont)]
      exact ih (by omega) (by omega) (by omega)

theorem openTail_eq_pending (x : List UInt8) : openTail x = (decode x).pending := by
  by_cases hp : (decode x).pending = []
  · rw [hp]
    exact openTailFrom_eq_nil hp _ _
  · have hpos := List.length_pos_iff.2 hp
    have hthree := (begun_pending x).length_le
    obtain ⟨front, hx⟩ := exists_append_pending x
    have hlen := congrArg List.length hx
    rw [List.length_append] at hlen
    exact openTailFrom_eq_pending Nat.one_pos hpos (by omega)

end Utf8
end Parley
